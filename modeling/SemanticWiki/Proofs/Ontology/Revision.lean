import SemanticWiki.Proofs.Ontology.Change

/-! The revision tells the states of an ontology apart: whoever finds the revision that he has seen
before finds everything else as it was, but for numbers that have been handed out. -/

namespace SemanticWiki.Ontology

variable {o o' o'' : Ontology}

/-- The revision has moved on, or nothing has changed but the allocator. -/
def Precedes (o o' : Ontology) : Prop :=
  o.revision < o'.revision ∨ ∃ allocator, o' = { o with allocator }

theorem Precedes.refl (o : Ontology) : Precedes o o := .inr ⟨o.allocator, rfl⟩

theorem Precedes.trans (h : Precedes o o') (h' : Precedes o' o'') : Precedes o o'' := by
  rcases h with hmoved | ⟨allocator, rfl⟩
  · rcases h' with hmoved' | ⟨allocator', rfl⟩
    · exact .inl (Nat.lt_trans hmoved hmoved')
    · exact .inl hmoved
  · exact h'

theorem Change.precedes (hchange : Change o o') : Precedes o o' := by
  cases hchange with
  | none => exact .refl o
  | allocated allocator => exact .inr ⟨allocator, rfl⟩
  | stored | removed | added | retracted => exact .inl (Nat.lt_succ_self o.revision)

theorem Precedes.revision_le (h : Precedes o o') : o.revision ≤ o'.revision := by
  rcases h with hmoved | ⟨allocator, rfl⟩
  · exact Nat.le_of_lt hmoved
  · exact Nat.le_refl _

theorem Precedes.eq_of_revision_eq (h : Precedes o o') (hrevision : o'.revision = o.revision) :
    ∃ allocator, o' = { o with allocator } := by
  rcases h with hmoved | hsame
  · rw [hrevision] at hmoved
    exact absurd hmoved (Nat.lt_irrefl _)
  · exact hsame

theorem Precedes.axioms_eq (h : Precedes o o') (hrevision : o'.revision = o.revision) :
    o'.axioms = o.axioms := by
  obtain ⟨allocator, hsame⟩ := h.eq_of_revision_eq hrevision
  rw [hsame]
  rfl

theorem Precedes.validate_eq (h : Precedes o o') (hrevision : o'.revision = o.revision)
    (s : Sentence) : o'.validate s = o.validate s := by
  obtain ⟨allocator, hsame⟩ := h.eq_of_revision_eq hrevision
  rw [hsame]
  rfl

theorem precedes_run (o : Ontology) (operations : List Operation) :
    Precedes o (o.run operations) :=
  run_induction (fun _ _ hchange hprecedes => hprecedes.trans hchange.precedes) (.refl o) operations

theorem precedes_run_take (o : Ontology) (operations : List Operation) {i j : Nat} (hij : i ≤ j) :
    Precedes (o.run (operations.take i)) (o.run (operations.take j)) := by
  have hsplit : operations.take j = operations.take i ++ (operations.take j).drop i := by
    have hcut := List.take_append_drop i (operations.take j)
    rw [List.take_take, Nat.min_eq_left hij] at hcut
    exact hcut.symm
  have hrun : o.run (operations.take j) =
      (o.run (operations.take i)).run ((operations.take j).drop i) := calc
    o.run (operations.take j) = o.run (operations.take i ++ (operations.take j).drop i) :=
      congrArg o.run hsplit
    _ = (o.run (operations.take i)).run ((operations.take j).drop i) := List.foldl_append
  rw [hrun]
  exact precedes_run _ _

end SemanticWiki.Ontology
