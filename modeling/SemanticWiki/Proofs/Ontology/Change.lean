import SemanticWiki.Proofs.Ontology.Registry

/-! What an operation can do to an ontology. However it ends, it leaves the ontology as it is, takes a
number, stores or removes one element, or adds or retracts one sentence, and it does so only when its
checks have passed. What every such change keeps holds after every run of operations. -/

namespace SemanticWiki.Ontology

variable {o o' : Ontology}

def withoutElement (o : Ontology) (e : Element) : Ontology :=
  { o with
    elements := o.elements.filter (·.id != e.id)
    words := dropWords o.words e.words
    removed := e.id :: o.removed
    revision := o.revision + 1 }

def withSentence (o : Ontology) (s : Sentence) : Ontology :=
  { o with
    sentences := putSentence o.nextSentence s o.sentences
    nextSentence := o.nextSentence.succ
    revision := o.revision + 1 }

def withoutSentence (o : Ontology) (id : SentenceId) : Ontology :=
  { o with
    sentences := o.sentences.filter (·.1 != id)
    revision := o.revision + 1 }

theorem get?_withoutElement (o : Ontology) (e : Element) (id : ElementId) :
    (o.withoutElement e).get? id = if id = e.id then none else o.get? id :=
  find?_filter_ne o.elements e.id id

/-- The changes that operations make, with what they check before. -/
inductive Change (o : Ontology) : Ontology → Prop
  | none : Change o o
  | allocated (allocator : Allocator) : Change o { o with allocator }
  | stored (e : Element) (hremoved : e.id ∉ o.removed)
      (hkind : ∀ registered, o.get? e.id = some registered → registered.kind = e.kind)
      (hfree : o.taken? e.id e.words = none) : Change o (o.store e)
  | removed (e : Element) (hget : o.get? e.id = some e) (hunused : o.mentions e.id = 0) :
      Change o (o.withoutElement e)
  | added (s : Sentence) (hvalid : ∃ construct, o.validate s = .ok construct) :
      Change o (o.withSentence s)
  | retracted (id : SentenceId) : Change o (o.withoutSentence id)

theorem Change.baseIri (h : Change o o') : o'.baseIri = o.baseIri := by cases h <;> rfl

theorem allocate_change (o : Ontology) (kind : Kind) : Change o (o.allocate kind).2 :=
  .allocated _

/-- The element can be stored: it has not been removed, it keeps its kind, and nobody else has one of
its words. -/
structure Accepts (o : Ontology) (e : Element) : Prop where
  present : e.id ∉ o.removed
  kind : ∀ registered, o.get? e.id = some registered → registered.kind = e.kind
  free : o.taken? e.id e.words = none

inductive Commitment (o : Ontology) (e : Element) : Except LexiconError Nat × Ontology → Prop
  | refused (error : LexiconError) (hrefused : ¬ o.Accepts e) : Commitment o e (.error error, o)
  | unchanged (haccepts : o.Accepts e) (hsame : o.get? e.id = some e) :
      Commitment o e (.ok o.revision, o)
  | stored (haccepts : o.Accepts e) (hnew : o.get? e.id ≠ some e) :
      Commitment o e (.ok (o.revision + 1), o.store e)

theorem commit_commitment (o : Ontology) (id : ElementId) (kind : Kind) (values : List Value) :
    Commitment o ⟨id, kind, values⟩ (o.commit id kind values) := by
  unfold commit
  dsimp only
  split
  · rename_i hremoved
    exact .refused _ fun h => h.present (by simpa using hremoved)
  · rename_i hremoved
    have hpresent : id ∉ o.removed := by simpa using hremoved
    split
    · rename_i registered hget
      split
      · rename_i hkind
        exact .refused _ fun h => hkind (h.kind registered hget)
      · rename_i hkind
        have hkind : registered.kind = kind := Decidable.not_not.1 hkind
        have hkept : ∀ f, o.get? id = some f → f.kind = kind := fun f hf =>
          Option.some.inj (hget.symm.trans hf) ▸ hkind
        split
        · rename_i htaken
          exact .refused _ fun h => by simp [h.free] at htaken
        · rename_i hfree
          have hid : registered.id = id := id_of_get? hget
          split
          · rename_i hvalues
            obtain rfl : registered = ⟨id, kind, values⟩ := by
              rw [← hid, ← hkind, ← hvalues]
            exact .unchanged ⟨hpresent, hkept, hfree⟩ hget
          · rename_i hvalues
            refine .stored ⟨hpresent, hkept, hfree⟩ fun hsame => hvalues ?_
            rw [Option.some.inj (hget.symm.trans hsame)]
    · rename_i hget
      split
      · rename_i htaken
        exact .refused _ fun h => by simp [h.free] at htaken
      · rename_i hfree
        refine .stored ⟨hpresent, fun f hf => ?_, hfree⟩ fun hsame => ?_
        · cases hget.symm.trans hf
        · cases hget.symm.trans hsame

theorem commit_change (o : Ontology) (id : ElementId) (kind : Kind) (values : List Value) :
    Change o (o.commit id kind values).2 := by
  have hends := o.commit_commitment id kind values
  generalize o.commit id kind values = result at hends ⊢
  cases hends with
  | refused error hrefused => exact .none
  | unchanged haccepts hsame => exact .none
  | stored haccepts hnew => exact .stored _ haccepts.present haccepts.kind haccepts.free

theorem removeElement_change (o : Ontology) (id : ElementId) :
    Change o (o.removeElement id).2 := by
  unfold removeElement
  split
  · exact .none
  · rename_i e hget
    split
    · exact .none
    · rename_i hunused
      obtain rfl := id_of_get? hget
      exact .removed e hget (Decidable.not_not.1 hunused)

theorem addSentenceIf_change (o : Ontology) (s : Sentence) (expected : Option Nat) :
    Change o (o.addSentenceIf s expected).2 := by
  unfold addSentenceIf
  split
  · exact .none
  · split
    · exact .none
    · rename_i construct hvalid
      exact .added s ⟨construct, hvalid⟩

theorem retractSentence_change (o : Ontology) (id : SentenceId) :
    Change o (o.retractSentence id).2 := by
  unfold retractSentence
  split
  · exact .none
  · exact .retracted id

inductive Operation where
  | allocate (kind : Kind)
  | commit (id : ElementId) (kind : Kind) (values : List Value)
  | removeElement (id : ElementId)
  | addSentenceIf (s : Sentence) (expected : Option Nat)
  | retractSentence (id : SentenceId)

def perform (o : Ontology) : Operation → Ontology
  | .allocate kind => (o.allocate kind).2
  | .commit id kind values => (o.commit id kind values).2
  | .removeElement id => (o.removeElement id).2
  | .addSentenceIf s expected => (o.addSentenceIf s expected).2
  | .retractSentence id => (o.retractSentence id).2

def run (o : Ontology) (operations : List Operation) : Ontology := operations.foldl perform o

theorem perform_change (o : Ontology) (operation : Operation) :
    Change o (o.perform operation) := by
  cases operation with
  | allocate kind => exact o.allocate_change kind
  | commit id kind values => exact o.commit_change id kind values
  | removeElement id => exact o.removeElement_change id
  | addSentenceIf s expected => exact o.addSentenceIf_change s expected
  | retractSentence id => exact o.retractSentence_change id

theorem run_induction {p : Ontology → Prop}
    (hchange : ∀ o o', Change o o' → p o → p o') (h : p o) (operations : List Operation) :
    p (o.run operations) := by
  induction operations generalizing o with
  | nil => exact h
  | cons operation rest ih =>
    rw [run, List.foldl_cons]
    exact ih (hchange o _ (o.perform_change operation) h)

end SemanticWiki.Ontology
