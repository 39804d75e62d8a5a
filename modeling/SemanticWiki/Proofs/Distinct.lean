import Mathlib.Data.Set.Card
import SemanticWiki.Element

/-! Lists that hold nothing twice. Their length is the number of things that they hold, and each of
these has one place in them. As a list of keys they let every entry be found, and sorted by what tells
the entries apart they ascend. -/

namespace SemanticWiki

variable {α : Type}

theorem nodup_eraseDups [BEq α] [LawfulBEq α] (l : List α) : l.eraseDups.Nodup := by
  cases l with
  | nil => exact List.nodup_nil
  | cons a rest =>
    rw [List.eraseDups_cons, List.nodup_cons]
    constructor
    · simp
    · exact nodup_eraseDups _
termination_by l.length
decreasing_by
  -- what is left behind an entry is not the tail of the list, but no longer
  have hle := List.length_filter_le (fun b => !b == a) rest
  simp only [List.length_cons]
  omega

theorem lookup_eq_some_iff {β : Type} [BEq α] [LawfulBEq α] {l : List (α × β)} {a : α} {b : β}
    (h : (l.map Prod.fst).Nodup) : l.lookup a = some b ↔ (a, b) ∈ l := by
  induction l with
  | nil => simp
  | cons first rest ih =>
    obtain ⟨key, value⟩ := first
    obtain ⟨hfirst, hrest⟩ := List.nodup_cons.1 h
    rw [List.lookup_cons, List.mem_cons]
    by_cases hkey : a = key
    · subst hkey
      have hnot : (a, b) ∉ rest := fun hmem => hfirst (List.mem_map.2 ⟨_, hmem, rfl⟩)
      simp [hnot, eq_comm]
    · rw [beq_eq_false_iff_ne.2 hkey]
      simp [ih hrest, hkey]

theorem pairwise_idxOf [BEq α] [LawfulBEq α] {l : List α} (h : l.Nodup) :
    l.Pairwise fun a b => l.idxOf a < l.idxOf b := by
  rw [List.pairwise_iff_getElem]
  intro i j hi hj hij
  rwa [h.idxOf_getElem, h.idxOf_getElem]

theorem pairwise_mergeSort_of_nodup {key : α → Nat} (hkey : Function.Injective key) {l : List α}
    (h : l.Nodup) : (l.mergeSort fun a b => key a ≤ key b).Pairwise (key · < key ·) := by
  have hsorted : (l.mergeSort fun a b => key a ≤ key b).Pairwise (key · ≤ key ·) := by
    refine (List.pairwise_mergeSort ?_ ?_ l).imp of_decide_eq_true
    · intro a b c hab hbc
      exact decide_eq_true ((of_decide_eq_true hab).trans (of_decide_eq_true hbc))
    · intro a b
      simpa using Nat.le_total (key a) (key b)
  have hnodup : (l.mergeSort fun a b => key a ≤ key b).Nodup :=
    (List.mergeSort_perm _ _).nodup_iff.2 h
  exact hsorted.imp₂ (fun a b hle hne => Nat.lt_of_le_of_ne hle (hkey.ne hne)) hnodup

theorem ElementId.eq_of_val {i j : ElementId} (h : i.val = j.val) : i = j := by
  obtain ⟨⟨m, _, _⟩⟩ := i
  obtain ⟨⟨n, _, _⟩⟩ := j
  obtain rfl : m = n := h
  rfl

theorem ncard_eq_length {l : List α} {p : α → Prop} (h : l.Nodup) (hmem : ∀ a, a ∈ l ↔ p a) :
    {a | p a}.ncard = l.length := by
  classical
  have hset : {a | p a} = (l.toFinset : Set α) := by
    ext a
    rw [Finset.mem_coe, List.mem_toFinset, hmem]
    exact Iff.rfl
  rw [hset, Set.ncard_coe_finset, List.toFinset_card_of_nodup h]

end SemanticWiki
