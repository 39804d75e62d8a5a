import Mathlib.Data.List.Forall2
import Mathlib.Data.List.TakeWhile

/-! Texts that are put together from parts. A part is read back from a text if it can be told where the
part ends, whatever stands behind it. If every item of a list has such a code, the list is read back
from the codes of its items. -/

namespace SemanticWiki.Text

variable {α β : Type}

theorem boundary {p : α → Bool} {front front' rest rest' : List α} {c d : α}
    (hfront : ∀ a ∈ front, p a = true) (hfront' : ∀ a ∈ front', p a = true)
    (hc : p c = false) (hd : p d = false) (h : front ++ c :: rest = front' ++ d :: rest') :
    front = front' ∧ c :: rest = d :: rest' := by
  have htake := congrArg (List.takeWhile p) h
  rw [List.takeWhile_append_of_pos hfront, List.takeWhile_append_of_pos hfront',
    List.takeWhile_cons_of_neg (by simp [hc]), List.takeWhile_cons_of_neg (by simp [hd]),
    List.append_nil, List.append_nil] at htake
  subst htake
  exact ⟨rfl, List.append_cancel_left h⟩

/-- The code of an item, which may depend on the position of the item in the list, tells the item, and
so all that stands behind it. -/
def Decodable (p : α → Prop) (code : α → Nat → List β) : Prop :=
  ∀ a b n rest rest', p a → p b → code a n ++ rest = code b n ++ rest' → a = b

theorem Decodable.flatMap_inj {p : α → Prop} {code : α → Nat → List β} (h : Decodable p code)
    (hsome : ∀ a n, code a n ≠ []) {as bs : List α} (has : ∀ a ∈ as, p a) (hbs : ∀ b ∈ bs, p b)
    (n : Nat) (hcodes : (as.zipIdx n).flatMap (fun (a, n) => code a n) =
      (bs.zipIdx n).flatMap fun (b, n) => code b n) : as = bs := by
  induction as generalizing bs n with
  | nil =>
    cases bs with
    | nil => rfl
    | cons b bs =>
      rw [List.zipIdx_nil, List.flatMap_nil, List.zipIdx_cons, List.flatMap_cons] at hcodes
      exact absurd (List.append_eq_nil_iff.1 hcodes.symm).1 (hsome b n)
  | cons a as ih =>
    cases bs with
    | nil =>
      rw [List.zipIdx_nil, List.flatMap_nil, List.zipIdx_cons, List.flatMap_cons] at hcodes
      exact absurd (List.append_eq_nil_iff.1 hcodes).1 (hsome a n)
    | cons b bs =>
      obtain ⟨ha, hafter⟩ := List.forall_mem_cons.1 has
      obtain ⟨hb, hbehind⟩ := List.forall_mem_cons.1 hbs
      rw [List.zipIdx_cons, List.zipIdx_cons, List.flatMap_cons, List.flatMap_cons] at hcodes
      obtain rfl := h a b n _ _ ha hb hcodes
      rw [ih hafter hbehind (n + 1) (List.append_cancel_left hcodes)]

theorem flatMap_zipIdx_fst (code : α → List β) (as : List α) (n : Nat) :
    (as.zipIdx n).flatMap (fun (a, _) => code a) = as.flatMap code := by
  have hitems : (as.zipIdx n).map Prod.fst = as := List.zipIdx_map_fst n as
  conv_rhs => rw [← hitems, List.flatMap_map]

theorem Decodable.flatMap_inj' {p : α → Prop} {code : α → List β}
    (h : Decodable p fun a _ => code a) (hsome : ∀ a, code a ≠ []) {as bs : List α}
    (has : ∀ a ∈ as, p a) (hbs : ∀ b ∈ bs, p b) (hcodes : as.flatMap code = bs.flatMap code) :
    as = bs := by
  rw [← flatMap_zipIdx_fst code as 0, ← flatMap_zipIdx_fst code bs 0] at hcodes
  exact h.flatMap_inj (fun a _ => hsome a) has hbs 0 hcodes

theorem flatMap_eq_of_forall₂ {γ : Type} {code : α → List γ} {code' : β → List γ} {as : List α}
    {bs : List β} (h : List.Forall₂ (fun a b => code' b = code a) as bs) :
    bs.flatMap code' = as.flatMap code := by
  induction h with
  | nil => rfl
  | cons hcode _ ih => rw [List.flatMap_cons, List.flatMap_cons, hcode, ih]

end SemanticWiki.Text
