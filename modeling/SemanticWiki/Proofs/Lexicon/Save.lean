import SemanticWiki.Proofs.Lexicon.Validation
import SemanticWiki.Proofs.Ontology.WordIndex

/-! Saving words. A save has two stages, which check each slot by itself and then the words against the
ontology. Together they refuse exactly what does not fit; a save that passes changes one element, and
a save that is refused changes nothing. -/

namespace SemanticWiki

open Ontology

namespace Lexicon

/-- What a save demands: the form of the right kind and a slot of it, values that fit the slots, an
element that is not gone and has no other kind, and words that belong to nobody else. -/
structure Savable (kind : Kind) (o : Ontology) (e : Element) (wordNumber : Nat)
    (values : List Value) : Prop where
  sameKind : e.kind = kind
  inRange : wordNumber < kind.slots.length
  admits : List.Forall₂ Slot.Admits kind.slots values
  present : e.id ∉ o.removed
  keepsKind : ∀ registered, o.kindOf e.id = some registered → registered = kind
  unowned : ∀ f ∈ o.elements, f.id ≠ e.id →
    ∀ word ∈ (⟨e.id, kind, values.map Value.normal⟩ : Element).words, ∀ other ∈ f.words,
      Word.key word ≠ Word.key other

variable {kind : Kind} {o : Ontology} {e : Element} {wordNumber : Nat} {values : List Value}

theorem accepts_iff (h : Indexed o) : o.Accepts e ↔
    e.id ∉ o.removed ∧ (∀ registered, o.kindOf e.id = some registered → registered = e.kind) ∧
      ∀ f ∈ o.elements, f.id ≠ e.id →
        ∀ word ∈ e.words, ∀ other ∈ f.words, Word.key word ≠ Word.key other := by
  have hkind : (∀ registered, o.kindOf e.id = some registered → registered = e.kind) ↔
      ∀ registered, o.get? e.id = some registered → registered.kind = e.kind := by
    simp [kindOf]
  rw [← h.taken?_eq_none_iff, hkind]
  constructor
  · rintro ⟨hpresent, hkept, hfree⟩
    exact ⟨hpresent, hkept, hfree⟩
  · rintro ⟨hpresent, hkept, hfree⟩
    exact ⟨hpresent, hkept, hfree⟩

theorem Savable.accepts (h : Savable kind o e wordNumber values) (hindexed : Indexed o) :
    o.Accepts ⟨e.id, kind, values.map Value.normal⟩ :=
  (accepts_iff hindexed).2 ⟨h.present, h.keepsKind, h.unowned⟩

theorem savable_of_accepts (hindexed : Indexed o) (hnumber : wordNumber < e.kind.slots.length)
    (hadmits : List.Forall₂ Slot.Admits e.kind.slots values)
    (haccepts : o.Accepts ⟨e.id, e.kind, values.map Value.normal⟩) :
    Savable e.kind o e wordNumber values := by
  obtain ⟨hpresent, hkept, hfree⟩ := (accepts_iff hindexed).1 haccepts
  exact ⟨rfl, hnumber, hadmits, hpresent, hkept, hfree⟩

inductive Saving (kind : Kind) (o : Ontology) (e : Element) (wordNumber : Nat)
    (values : List Value) : Saved → Prop
  | refused (error : LexiconError) (hrefused : ¬ Savable kind o e wordNumber values) :
      Saving kind o e wordNumber values ⟨.error error, e, o⟩
  | unchanged (hsavable : Savable kind o e wordNumber values)
      (hsame : o.get? e.id = some ⟨e.id, kind, values.map Value.normal⟩) :
      Saving kind o e wordNumber values
        ⟨.ok o.revision, ⟨e.id, kind, values.map Value.normal⟩, o⟩
  | stored (hsavable : Savable kind o e wordNumber values)
      (hnew : o.get? e.id ≠ some ⟨e.id, kind, values.map Value.normal⟩) :
      Saving kind o e wordNumber values
        ⟨.ok (o.revision + 1), ⟨e.id, kind, values.map Value.normal⟩,
          o.store ⟨e.id, kind, values.map Value.normal⟩⟩

theorem save_saving (hindexed : Indexed o) (kind : Kind) (e : Element) (wordNumber : Nat)
    (values : List Value) :
    Saving kind o e wordNumber values (save kind o e wordNumber values) := by
  unfold save
  split
  · rename_i hkind
    exact .refused _ fun h => hkind h.sameKind
  · rename_i hkind
    obtain rfl : e.kind = kind := Decidable.not_not.1 hkind
    split
    · rename_i hnumber
      exact .refused _ fun h => absurd h.inRange (Nat.not_lt.2 hnumber)
    · rename_i hnumber
      split
      · rename_i hfault
        exact .refused _ fun h => by
          cases hfault.symm.trans (validateValues_ok_iff.2 ⟨h.admits, rfl⟩)
      · rename_i normal hvalid
        obtain ⟨hadmits, rfl⟩ := validateValues_ok_iff.1 hvalid
        have hends := o.commit_commitment e.id e.kind (values.map Value.normal)
        generalize o.commit e.id e.kind (values.map Value.normal) = result at hends
        have hsavable := savable_of_accepts hindexed (Nat.not_le.1 hnumber) hadmits
        cases hends with
        | refused error hrefused => exact .refused error fun h => hrefused (h.accepts hindexed)
        | unchanged haccepts hsame => exact .unchanged (hsavable haccepts) hsame
        | stored haccepts hnew => exact .stored (hsavable haccepts) hnew

theorem save_all_or_nothing (name baseIri : String) (operations : List Operation) (kind : Kind)
    (e : Element) (wordNumber : Nat) (values : List Value) :
    let o := (new name baseIri).run operations
    let normal : Element := ⟨e.id, kind, values.map Value.normal⟩
    let saved := save kind o e wordNumber values
    ((∃ revision, saved.result = .ok revision) ↔ Savable kind o e wordNumber values) ∧
    (∀ revision, saved.result = .ok revision →
      saved.element = normal ∧ saved.ontology.get? e.id = some normal ∧
      (∀ id, id ≠ e.id → saved.ontology.get? id = o.get? id) ∧
      saved.ontology = { o with
        elements := saved.ontology.elements
        words := saved.ontology.words
        revision := revision } ∧
      if o.get? e.id = some normal then saved.ontology = o else revision = o.revision + 1) ∧
    ∀ error, saved.result = .error error → saved.element = e ∧ saved.ontology = o := by
  intro o normal saved
  have hindexed : Indexed o :=
    run_induction (fun _ _ hchange => hchange.indexed) (indexed_new name baseIri) operations
  have hends : Saving kind o e wordNumber values saved := save_saving hindexed ..
  generalize saved = ended at hends
  cases hends with
  | refused error hrefused => simp [hrefused]
  | unchanged hsavable hsame =>
    refine ⟨by simp [hsavable], ?_, by simp⟩
    rintro revision ⟨⟩
    exact ⟨rfl, hsame, fun _ _ => rfl, rfl, by rw [if_pos hsame]⟩
  | stored hsavable hnew =>
    refine ⟨by simp [hsavable], ?_, by simp⟩
    rintro revision ⟨⟩
    refine ⟨rfl, ?_, fun id hid => ?_, rfl, ?_⟩
    · rw [get?_store, if_pos rfl]
    · rw [get?_store, if_neg fun hsame => hid hsame.symm]
    · rw [if_neg hnew]

theorem dog_saved_unless_cat :
    let dog : Element := ⟨⟨.first⟩, .concept, [.word "dog", .word "dogs"]⟩
    let cat : ElementId := ⟨⟨2, by decide, by decide⟩⟩
    let o := (new "wiki" "http://example.org/").run
      [.commit dog.id .concept dog.values, .commit cat .concept [.word "cat", .word "cats"]]
    let capital := save .concept o dog 0 [.word " Dog", .word "dogs"]
    let taken := save .concept o dog 0 [.word "Cat", .word "dogs"]
    Savable .concept o dog 0 [.word " Dog", .word "dogs"] ∧ capital.result = .ok 3 ∧
      capital.ontology.get? dog.id = some ⟨dog.id, .concept, [.word "Dog", .word "dogs"]⟩ ∧
      ¬ Savable .concept o dog 0 [.word "Cat", .word "dogs"] ∧ taken.ontology = o := by
  intro dog cat o capital taken
  obtain ⟨hsavable, hsaved, -⟩ := save_all_or_nothing "wiki" "http://example.org/"
    [.commit dog.id .concept dog.values, .commit cat .concept [.word "cat", .word "cats"]]
    .concept dog 0 [.word " Dog", .word "dogs"]
  obtain ⟨hsavable', -, hrefused⟩ := save_all_or_nothing "wiki" "http://example.org/"
    [.commit dog.id .concept dog.values, .commit cat .concept [.word "cat", .word "cats"]]
    .concept dog 0 [.word "Cat", .word "dogs"]
  have hcapital : capital.result = .ok 3 := by decide +kernel
  have htaken : taken.result = .error (.invalidWord (.duplicate "Cat" 2)) := by decide +kernel
  have hnormal : [Value.word " Dog", .word "dogs"].map Value.normal =
      [.word "Dog", .word "dogs"] := by decide +kernel
  refine ⟨hsavable.1 ⟨3, hcapital⟩, hcapital, ?_, fun h => ?_, (hrefused _ htaken).2⟩
  · rw [← hnormal]
    exact (hsaved 3 hcapital).2.1
  · obtain ⟨revision, hsame⟩ := hsavable'.2 h
    cases htaken.symm.trans hsame

end Lexicon

end SemanticWiki
