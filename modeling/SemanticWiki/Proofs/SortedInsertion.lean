import Mathlib.Order.Lattice

/-! Lists that are sorted by a key, each key once. A new entry takes the place of the one with its key,
or goes where it belongs, and the list stays as it should be. -/

namespace SemanticWiki

variable {α κ : Type} [LinearOrder κ] {key : α → κ} {a b : α} {l : List α}

def insertByKey (key : α → κ) (a : α) : List α → List α
  | [] => [a]
  | b :: rest =>
    if key b = key a then a :: rest
    else if key a < key b then a :: b :: rest
    else b :: insertByKey key a rest

theorem mem_of_mem_insertByKey (h : b ∈ insertByKey key a l) : b = a ∨ b ∈ l := by
  induction l with
  | nil => exact .inl (List.mem_singleton.1 h)
  | cons first rest ih =>
    unfold insertByKey at h
    split at h
    · rcases List.mem_cons.1 h with hnew | hrest
      · exact .inl hnew
      · exact .inr (List.mem_cons_of_mem _ hrest)
    · split at h
      · exact List.mem_cons.1 h
      · rcases List.mem_cons.1 h with hfirst | hlater
        · exact .inr (hfirst ▸ List.mem_cons_self)
        · exact (ih hlater).imp_right (List.mem_cons_of_mem _)

theorem mem_insertByKey_self (key : α → κ) (a : α) (l : List α) : a ∈ insertByKey key a l := by
  induction l with
  | nil => exact List.mem_singleton_self _
  | cons first rest ih =>
    unfold insertByKey
    split
    · exact List.mem_cons_self
    · split
      · exact List.mem_cons_self
      · exact List.mem_cons_of_mem _ ih

theorem pairwise_insertByKey (h : l.Pairwise (key · < key ·)) :
    (insertByKey key a l).Pairwise (key · < key ·) := by
  induction l with
  | nil => exact List.pairwise_singleton _ _
  | cons first rest ih =>
    obtain ⟨hfirst, hrest⟩ := List.pairwise_cons.1 h
    unfold insertByKey
    split
    · rename_i hsame
      exact List.pairwise_cons.2 ⟨fun b hb => hsame ▸ hfirst b hb, hrest⟩
    · rename_i hdifferent
      split
      · rename_i hbefore
        refine List.pairwise_cons.2 ⟨fun b hb => ?_, h⟩
        rcases List.mem_cons.1 hb with rfl | hb
        · exact hbefore
        · exact lt_trans hbefore (hfirst b hb)
      · rename_i hafter
        refine List.pairwise_cons.2 ⟨fun b hb => ?_, ih hrest⟩
        rcases mem_of_mem_insertByKey hb with rfl | hb
        · exact lt_of_le_of_ne (not_lt.1 hafter) hdifferent
        · exact hfirst b hb

theorem insertByKey_eq_append (h : ∀ b ∈ l, key b < key a) : insertByKey key a l = l ++ [a] := by
  induction l with
  | nil => rfl
  | cons first rest ih =>
    obtain ⟨hfirst, hrest⟩ := List.forall_mem_cons.1 h
    unfold insertByKey
    rw [if_neg hfirst.ne, if_neg hfirst.not_gt, ih hrest]
    rfl

theorem mem_insertByKey_iff (h : l.Pairwise (key · < key ·)) :
    b ∈ insertByKey key a l ↔ b = a ∨ key b ≠ key a ∧ b ∈ l := by
  induction l with
  | nil => simp [insertByKey]
  | cons first rest ih =>
    obtain ⟨hfirst, hrest⟩ := List.pairwise_cons.1 h
    unfold insertByKey
    split
    · rename_i hsame
      have hlater : b ∈ rest → key b ≠ key a := fun hb => hsame ▸ (hfirst b hb).ne'
      simp only [List.mem_cons]
      grind
    · rename_i hdifferent
      split
      · rename_i hbefore
        have hlater : b ∈ rest → key b ≠ key a := fun hb => (lt_trans hbefore (hfirst b hb)).ne'
        simp only [List.mem_cons]
        grind
      · simp only [List.mem_cons, ih hrest]
        grind

end SemanticWiki
