import Mathlib.Data.List.Basic
import SemanticWiki.Proofs.Ontology.SentenceStore
import SemanticWiki.Proofs.Statement

/-! Sentences refer to elements by number alone, so the ontology sees to it that a number goes on to
mean the same: an element that a sentence mentions is not removed, an element keeps its kind, and the
number of a removed element does not return. -/

namespace SemanticWiki.Ontology

variable {o o' : Ontology} {id : ElementId} {kind : Kind}

structure Intact (o : Ontology) : Prop where
  sentences : ∀ stored ∈ o.sentences, stored.2.statement.Fits o.kindOf
  removed : ∀ id ∈ o.removed, o.get? id = none

theorem intact_new (name baseIri : String) : Intact (new name baseIri) where
  sentences _ hstored := absurd hstored List.not_mem_nil
  removed _ hid := absurd hid List.not_mem_nil

theorem not_mentions_of_unused (hunused : o.mentions id = 0) {stored : SentenceId × Sentence}
    (hstored : stored ∈ o.sentences) : id ∉ stored.2.statement.elements := by
  have hnot := List.countP_eq_zero.1 hunused stored hstored
  simpa [Sentence.mentions, Statement.mentions] using hnot

theorem kindOf_store_of_kindOf {e : Element}
    (hkind : ∀ registered, o.get? e.id = some registered → registered.kind = e.kind)
    (h : o.kindOf id = some kind) : (o.store e).kindOf id = some kind := by
  obtain ⟨registered, hget, rfl⟩ := Option.map_eq_some_iff.1 h
  unfold kindOf
  rw [get?_store]
  by_cases hid : e.id = id
  · subst hid
    rw [if_pos rfl, Option.map_some, hkind registered hget]
  · rw [if_neg hid, hget, Option.map_some]

theorem kindOf_withoutElement_of_ne {e : Element} (hne : id ≠ e.id) :
    (o.withoutElement e).kindOf id = o.kindOf id := by
  unfold kindOf
  rw [get?_withoutElement, if_neg hne]

theorem Change.intact (hchange : Change o o') (h : Intact o) : Intact o' := by
  cases hchange with
  | none => exact h
  | allocated allocator => exact ⟨h.sentences, h.removed⟩
  | stored e hremoved hkind hfree =>
    constructor
    · intro stored hstored
      exact (h.sentences stored hstored).mono fun id _ kind => kindOf_store_of_kindOf hkind
    · intro id hid
      have hne : e.id ≠ id := fun hsame => hremoved (hsame ▸ hid)
      rw [get?_store, if_neg hne]
      exact h.removed id hid
  | removed e hget hunused =>
    constructor
    · intro stored hstored
      refine (h.sentences stored hstored).mono fun id hid kind hkind => ?_
      have hne : id ≠ e.id := fun hsame => not_mentions_of_unused hunused hstored (hsame ▸ hid)
      rw [kindOf_withoutElement_of_ne hne, hkind]
    · intro id hid
      rw [get?_withoutElement]
      rcases List.mem_cons.1 hid with rfl | hid
      · rw [if_pos rfl]
      · rw [h.removed id hid, ite_self]
  | added s hvalid =>
    constructor
    · intro stored hstored
      rcases mem_putSentence hstored with rfl | hold
      · exact Statement.construct_ok_iff.1 hvalid
      · exact h.sentences stored hold
    · exact h.removed
  | retracted id =>
    constructor
    · intro stored hstored
      exact h.sentences stored (List.mem_filter.1 hstored).1
    · exact h.removed

theorem Change.removed_subset (hchange : Change o o') : o.removed ⊆ o'.removed := by
  cases hchange with
  | removed e hget hunused => exact List.subset_cons_self e.id o.removed
  | none | allocated | stored | added | retracted => exact List.Subset.refl o.removed

theorem Change.kindOf (hchange : Change o o') (h : o.kindOf id = some kind) :
    o'.kindOf id = some kind ∨ id ∈ o'.removed := by
  cases hchange with
  | stored e hremoved hkind hfree => exact .inl (kindOf_store_of_kindOf hkind h)
  | removed e hget hunused =>
    by_cases hid : id = e.id
    · exact .inr (hid ▸ List.mem_cons_self)
    · exact .inl ((kindOf_withoutElement_of_ne hid).trans h)
  | none | allocated | added | retracted => exact .inl h

theorem Intact.run (h : Intact o) (operations : List Operation) : Intact (o.run operations) :=
  run_induction (fun _ _ hchange => hchange.intact) h operations

theorem mem_removed_run (h : id ∈ o.removed) (operations : List Operation) :
    id ∈ (o.run operations).removed :=
  run_induction (p := fun o => id ∈ o.removed)
    (fun _ _ hchange hid => hchange.removed_subset hid) h operations

theorem kindOf_run (h : o.kindOf id = some kind) (operations : List Operation) :
    (o.run operations).kindOf id = some kind ∨ id ∈ (o.run operations).removed := by
  refine run_induction (p := fun o => o.kindOf id = some kind ∨ id ∈ o.removed) ?_ (.inl h)
    operations
  rintro o o' hchange (hkind | hid)
  · exact hchange.kindOf hkind
  · exact .inr (hchange.removed_subset hid)

theorem mem_removed_of_removeElement {e : Element} (h : (o.removeElement id).1 = .ok e) :
    id ∈ (o.removeElement id).2.removed := by
  unfold removeElement at h ⊢
  split at h
  · cases h
  · split at h
    · cases h
    · rename_i hunused
      rw [if_neg hunused]
      exact List.mem_cons_self

theorem referential_integrity (name baseIri : String) (operations : List Operation) :
    let o := (new name baseIri).run operations
    (∀ stored ∈ o.sentences, stored.2.statement.Fits o.kindOf ∧
      ∃ construct, o.validate stored.2 = .ok construct) ∧
    (∀ id kind, o.kindOf id = some kind → ∀ later kind',
      (o.run later).kindOf id = some kind' → kind' = kind) ∧
    (∀ id e, (o.removeElement id).1 = .ok e →
      ∀ later, ((o.removeElement id).2.run later).get? id = none) := by
  intro o
  have hintact : Intact o := (intact_new name baseIri).run operations
  refine ⟨?_, ?_, ?_⟩
  · intro stored hstored
    have hfits := hintact.sentences stored hstored
    exact ⟨hfits, Statement.construct_ok_iff.2 hfits⟩
  · intro id kind hkind later kind' hkind'
    rcases kindOf_run hkind later with hkept | hremoved
    · exact Option.some.inj (hkind'.symm.trans hkept)
    · have hnone := (hintact.run later).removed id hremoved
      rw [Ontology.kindOf, hnone] at hkind'
      cases hkind'
  · intro id e hremove later
    have hremoved : id ∈ (o.removeElement id).2.removed := mem_removed_of_removeElement hremove
    have hintact' := (o.removeElement_change id).intact hintact
    exact (hintact'.run later).removed id (mem_removed_run hremoved later)

def manAndHuman (man human : ElementId) : List Operation := [
  .commit man .concept [.word "man", .word "men"],
  .commit human .concept [.word "human", .word "humans"],
  .addSentenceIf (.assertion (.subsumption man human) "en") none,
  .removeElement man]

theorem man_gone_for_good :
    let man : ElementId := ⟨⟨1, by decide, by decide⟩⟩
    let operations := manAndHuman man ⟨⟨2, by decide, by decide⟩⟩
    let used := (new "wiki" "http://example.org/").run operations
    let unused := (new "wiki" "http://example.org/").run (operations ++ [.retractSentence .first])
    used.kindOf man = some .concept ∧
      (∀ later, (used.run later).kindOf man ≠ some .individual) ∧
      (unused.removeElement man).1 = .ok ⟨man, .concept, [.word "man", .word "men"]⟩ ∧
      ∀ later, ((unused.removeElement man).2.run later).get? man = none := by
  intro man operations used unused
  have hnoun : used.kindOf man = some .concept := by decide +kernel
  have hremoved : (unused.removeElement man).1 =
      .ok ⟨man, .concept, [.word "man", .word "men"]⟩ := by decide +kernel
  obtain ⟨-, hkind, -⟩ := referential_integrity "wiki" "http://example.org/" operations
  obtain ⟨-, -, hgone⟩ := referential_integrity "wiki" "http://example.org/"
    (operations ++ [.retractSentence .first])
  refine ⟨hnoun, ?_, hremoved, hgone man _ hremoved⟩
  intro later hindividual
  exact absurd (hkind man .concept hnoun later .individual hindividual) (by decide)

end SemanticWiki.Ontology
