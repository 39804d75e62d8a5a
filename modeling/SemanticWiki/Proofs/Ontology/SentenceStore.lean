import SemanticWiki.Proofs.Ontology.Change

/-! The stored sentences. A new sentence goes behind all others as long as numbers have not run out,
so the axioms of the ontology grow at the end, which is where the reasoner was shown the new one. -/

namespace SemanticWiki

theorem SentenceId.eq_of_val {i j : SentenceId} (h : i.val = j.val) : i = j := by
  obtain ⟨⟨m, _, _⟩⟩ := i
  obtain ⟨⟨n, _, _⟩⟩ := j
  obtain rfl : m = n := h
  rfl

namespace Ontology

variable {o o' : Ontology} {s : Sentence} {id : SentenceId}
  {sentences : List (SentenceId × Sentence)} {stored : SentenceId × Sentence}

theorem putSentence_eq_insertByKey (id : SentenceId) (s : Sentence)
    (sentences : List (SentenceId × Sentence)) :
    putSentence id s sentences = insertByKey (·.1.val) (id, s) sentences := by
  induction sentences with
  | nil => rfl
  | cons other rest ih =>
    have hid : other.1 = id ↔ other.1.val = id.val :=
      ⟨fun hsame => by rw [hsame], SentenceId.eq_of_val⟩
    unfold putSentence insertByKey
    simp only [hid, ih]

theorem mem_putSentence (h : stored ∈ putSentence id s sentences) :
    stored = (id, s) ∨ stored ∈ sentences := by
  rw [putSentence_eq_insertByKey] at h
  exact mem_of_mem_insertByKey h

theorem mem_putSentence_self (id : SentenceId) (s : Sentence)
    (sentences : List (SentenceId × Sentence)) : (id, s) ∈ putSentence id s sentences := by
  rw [putSentence_eq_insertByKey]
  exact mem_insertByKey_self _ _ _

theorem putSentence_eq_append (h : ∀ stored ∈ sentences, stored.1.val < id.val) :
    putSentence id s sentences = sentences ++ [(id, s)] := by
  rw [putSentence_eq_insertByKey]
  exact insertByKey_eq_append h

theorem lookup_cons (id other : SentenceId) (s : Sentence)
    (sentences : List (SentenceId × Sentence)) :
    ((id, s) :: sentences).lookup other =
      if other = id then some s else sentences.lookup other := by
  by_cases h : other = id
  · rw [if_pos h, h, List.lookup_cons_self]
  · have hne : (other == id) = false := beq_eq_false_iff_ne.2 h
    rw [if_neg h, List.lookup_cons, hne]

theorem lookup_putSentence (id other : SentenceId) (s : Sentence)
    (sentences : List (SentenceId × Sentence)) :
    (putSentence id s sentences).lookup other =
      if other = id then some s else sentences.lookup other := by
  induction sentences with
  | nil => exact lookup_cons id other s []
  | cons stored rest ih =>
    obtain ⟨key, old⟩ := stored
    unfold putSentence
    by_cases hsame : key = id
    · rw [if_pos hsame, lookup_cons, lookup_cons, hsame]
      by_cases h : other = id
      · rw [if_pos h, if_pos h]
      · rw [if_neg h, if_neg h, if_neg h]
    · rw [if_neg hsame]
      by_cases hbefore : id.val < key.val
      · rw [if_pos hbefore, lookup_cons]
      · rw [if_neg hbefore, lookup_cons, lookup_cons, ih]
        by_cases h : other = key
        · have hne : other ≠ id := fun hid => hsame (h.symm.trans hid)
          rw [if_pos h, if_neg hne, if_pos h]
        · rw [if_neg h, if_neg h]

theorem sentence?_withSentence (o : Ontology) (s : Sentence) (id : SentenceId) :
    (o.withSentence s).sentence? id =
      if id = o.nextSentence then some s else o.sentence? id :=
  lookup_putSentence o.nextSentence id s o.sentences

def Sequenced (o : Ontology) : Prop := o.sentences.Pairwise (·.1.val < ·.1.val)

theorem pairwise_putSentence (h : sentences.Pairwise (·.1.val < ·.1.val)) :
    (putSentence id s sentences).Pairwise (·.1.val < ·.1.val) := by
  rw [putSentence_eq_insertByKey]
  exact pairwise_insertByKey h

theorem sequenced_new (name baseIri : String) : Sequenced (new name baseIri) := List.Pairwise.nil

theorem Change.sequenced (hchange : Change o o') (h : Sequenced o) : Sequenced o' := by
  cases hchange with
  | added s hvalid => exact pairwise_putSentence h
  | retracted id => exact h.filter _
  | none | allocated | stored | removed => exact h

/-- As long as numbers have not run out, the next number is behind all others. -/
def Numbered (o : Ontology) : Prop :=
  o.nextSentence.val + 1 < UInt64.size →
    ∀ stored ∈ o.sentences, stored.1.val < o.nextSentence.val

theorem numbered_new (name baseIri : String) : Numbered (new name baseIri) :=
  fun _ _ hstored => absurd hstored List.not_mem_nil

theorem Numbered.of_subset (h : Numbered o) (hnext : o'.nextSentence = o.nextSentence)
    (hsub : o'.sentences ⊆ o.sentences) : Numbered o' := by
  intro hroom stored hstored
  rw [hnext] at hroom ⊢
  exact h hroom stored (hsub hstored)

theorem Numbered.withSentence (h : Numbered o) (s : Sentence) : Numbered (o.withSentence s) := by
  intro hroom stored hstored
  unfold Ontology.withSentence SentenceId.succ Serial.succ at hroom ⊢
  dsimp only at hroom ⊢
  -- the last number is its own successor, so there is no room behind it
  split at hroom
  · rename_i hnext
    rw [dif_pos hnext]
    rcases mem_putSentence hstored with rfl | hold
    · exact Nat.lt_succ_self _
    · exact Nat.lt_succ_of_lt (h hnext stored hold)
  · rename_i hlast
    exact absurd hroom hlast

theorem Change.numbered (hchange : Change o o') (h : Numbered o) : Numbered o' := by
  cases hchange with
  | added s hvalid => exact h.withSentence s
  | retracted id => exact h.of_subset rfl List.filter_sublist.subset
  | none | allocated | stored | removed => exact h

theorem numbered_run (h : Numbered o) (operations : List Operation) :
    Numbered (o.run operations) :=
  run_induction (fun _ _ hchange => hchange.numbered) h operations

theorem mem_axioms_withSentence {ax : Axiom} (h : ax ∈ (o.withSentence s).axioms.axioms) :
    ax ∈ o.axioms.axioms ∨ ax = s.statement.toAxiom := by
  obtain ⟨stored, hstored, rfl⟩ := List.mem_map.1 h
  obtain ⟨hput, hstated⟩ := List.mem_filter.1 hstored
  rcases mem_putSentence hput with rfl | hold
  · exact .inr rfl
  · exact .inl (List.mem_map.2 ⟨stored, List.mem_filter.2 ⟨hold, hstated⟩, rfl⟩)

theorem axioms_withSentence (h : Numbered o) (hroom : o.nextSentence.val + 1 < UInt64.size)
    (hstated : s.question = false) :
    (o.withSentence s).axioms.axioms = o.axioms.axioms ++ [s.statement.toAxiom] := by
  unfold axioms Ontology.withSentence
  dsimp only
  rw [putSentence_eq_append (h hroom), List.filter_append, List.map_append]
  simp [hstated]

theorem axioms_subset (h : o'.sentences ⊆ o.sentences) :
    o'.axioms.axioms ⊆ o.axioms.axioms := by
  intro ax hax
  obtain ⟨stored, hstored, rfl⟩ := List.mem_map.1 hax
  obtain ⟨hmem, hstated⟩ := List.mem_filter.1 hstored
  exact List.mem_map.2 ⟨stored, List.mem_filter.2 ⟨h hmem, hstated⟩, rfl⟩

theorem sentences_commit (o : Ontology) (id : ElementId) (kind : Kind) (values : List Value) :
    (o.commit id kind values).2.sentences = o.sentences := by
  have hends := o.commit_commitment id kind values
  generalize o.commit id kind values = result at hends ⊢
  cases hends with
  | refused | unchanged | stored => rfl

theorem sentences_removeElement (o : Ontology) (id : ElementId) :
    (o.removeElement id).2.sentences = o.sentences := by
  unfold removeElement
  repeat' split
  all_goals rfl

theorem sentences_retractSentence (o : Ontology) (id : SentenceId) :
    (o.retractSentence id).2.sentences ⊆ o.sentences := by
  unfold retractSentence
  split
  · exact List.Subset.refl _
  · exact List.filter_sublist.subset

inductive Addition (o : Ontology) (s : Sentence) (expected : Option Nat) :
    Except GrammarError CommitOutcome × Ontology → Prop
  | stale (revision : Nat) (hexpected : expected = some revision)
      (hmoved : revision ≠ o.revision) : Addition o s expected (.ok (.stale o.revision), o)
  | misfit (error : GrammarError) (hcurrent : ∀ revision, expected = some revision →
      revision = o.revision) (hinvalid : o.validate s = .error error) :
      Addition o s expected (.error error, o)
  | added (construct : Construct) (hcurrent : ∀ revision, expected = some revision →
      revision = o.revision) (hvalid : o.validate s = .ok construct) :
      Addition o s expected
        (.ok (.committed o.nextSentence (o.revision + 1)), o.withSentence s)

theorem addSentenceIf_addition (o : Ontology) (s : Sentence) (expected : Option Nat) :
    Addition o s expected (o.addSentenceIf s expected) := by
  unfold addSentenceIf
  split
  · rename_i hmoved
    obtain ⟨revision, hexpected, hne⟩ := (Option.any_eq_true _ _).1 hmoved
    exact .stale revision hexpected (by simpa using hne)
  · rename_i hcurrent
    have hcurrent : ∀ revision, expected = some revision → revision = o.revision := by
      rintro revision rfl
      simpa using hcurrent
    split
    · exact .misfit _ hcurrent ‹_›
    · exact .added _ hcurrent ‹_›

theorem Numbered.sentences_addSentenceIf (h : Numbered o)
    (hroom : o.nextSentence.val + 1 < UInt64.size) (s : Sentence) (expected : Option Nat) :
    o.sentences ⊆ (o.addSentenceIf s expected).2.sentences := by
  have hends := o.addSentenceIf_addition s expected
  generalize o.addSentenceIf s expected = result at hends ⊢
  cases hends with
  | stale | misfit => exact List.Subset.refl _
  | added construct hcurrent hvalid =>
    have hput : (o.withSentence s).sentences = o.sentences ++ [(o.nextSentence, s)] :=
      putSentence_eq_append (h hroom)
    rw [hput]
    exact List.subset_append_left _ _

/-! Nothing that is done to sentences, and no removal, brings in an element. -/

theorem elements_removeElement (o : Ontology) (id : ElementId) :
    (o.removeElement id).2.elements ⊆ o.elements := by
  unfold removeElement
  repeat' split
  · exact List.Subset.refl _
  · exact List.Subset.refl _
  · exact List.filter_sublist.subset

theorem elements_retractSentence (o : Ontology) (id : SentenceId) :
    (o.retractSentence id).2.elements ⊆ o.elements := by
  unfold retractSentence
  split <;> exact List.Subset.refl _

theorem elements_addSentenceIf (o : Ontology) (s : Sentence) (expected : Option Nat) :
    (o.addSentenceIf s expected).2.elements ⊆ o.elements := by
  have hends := o.addSentenceIf_addition s expected
  generalize o.addSentenceIf s expected = result at hends ⊢
  cases hends with
  | stale | misfit | added => exact List.Subset.refl _

end Ontology

end SemanticWiki
