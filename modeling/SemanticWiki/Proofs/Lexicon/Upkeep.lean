import SemanticWiki.Proofs.Lexicon.Save
import SemanticWiki.Proofs.Lexicon.Shape
import SemanticWiki.Proofs.Ontology.SentenceStore

/-! An ontology in the care of the lexicon. Its words are changed by saving only, so all that is
registered has passed the checks, and whatever else happens to the ontology brings in no words. -/

namespace SemanticWiki

inductive Lexicon.Edit where
  | allocate (kind : Kind)
  | save (kind : Kind) (e : Element) (wordNumber : Nat) (values : List Value)
  | removeElement (id : ElementId)
  | addSentenceIf (s : Sentence) (expected : Option Nat)
  | retractSentence (id : SentenceId)

namespace Ontology

variable {o o' : Ontology}

def edit (o : Ontology) : Lexicon.Edit → Ontology
  | .allocate kind => (o.allocate kind).2
  | .save kind e wordNumber values => (Lexicon.save kind o e wordNumber values).ontology
  | .removeElement id => (o.removeElement id).2
  | .addSentenceIf s expected => (o.addSentenceIf s expected).2
  | .retractSentence id => (o.retractSentence id).2

def edited (o : Ontology) (edits : List Lexicon.Edit) : Ontology := edits.foldl edit o

def Checked (o : Ontology) : Prop := ∀ e ∈ o.elements, e.Checked

theorem Checked.of_subset (h : o.Checked) (hsub : o'.elements ⊆ o.elements) : o'.Checked :=
  fun e he => h e (hsub he)

theorem Checked.save (h : o.Checked) (hindexed : Indexed o) (kind : Kind) (e : Element)
    (wordNumber : Nat) (values : List Value) :
    (Lexicon.save kind o e wordNumber values).ontology.Checked := by
  have hends := Lexicon.save_saving hindexed kind e wordNumber values
  generalize Lexicon.save kind o e wordNumber values = saved at hends
  cases hends with
  | refused error hrefused => exact h
  | unchanged hsavable hsame => exact h
  | stored hsavable hnew =>
    intro f hf
    rcases mem_putElement hf with rfl | hold
    · exact ⟨values, Lexicon.validateValues_ok_iff.2 ⟨hsavable.admits, rfl⟩⟩
    · exact h f hold

theorem save_change (hindexed : Indexed o) (kind : Kind) (e : Element) (wordNumber : Nat)
    (values : List Value) : Change o (Lexicon.save kind o e wordNumber values).ontology := by
  have hends := Lexicon.save_saving hindexed kind e wordNumber values
  generalize Lexicon.save kind o e wordNumber values = saved at hends
  cases hends with
  | refused error hrefused => exact .none
  | unchanged hsavable hsame => exact .none
  | stored hsavable hnew =>
    have haccepts := hsavable.accepts hindexed
    exact .stored _ haccepts.present haccepts.kind haccepts.free

structure Maintained (o : Ontology) : Prop where
  indexed : Indexed o
  checked : o.Checked

theorem maintained_new (name baseIri : String) : Maintained (new name baseIri) where
  indexed := indexed_new name baseIri
  checked _ he := absurd he List.not_mem_nil

theorem edit_change (hindexed : Indexed o) (edit : Lexicon.Edit) : Change o (o.edit edit) := by
  cases edit with
  | allocate kind => exact o.allocate_change kind
  | save kind e wordNumber values => exact save_change hindexed kind e wordNumber values
  | removeElement id => exact o.removeElement_change id
  | addSentenceIf s expected => exact o.addSentenceIf_change s expected
  | retractSentence id => exact o.retractSentence_change id

theorem Maintained.edit (h : Maintained o) (edit : Lexicon.Edit) : Maintained (o.edit edit) := by
  refine ⟨(edit_change h.indexed edit).indexed h.indexed, ?_⟩
  cases edit with
  | allocate kind => exact h.checked
  | save kind e wordNumber values => exact h.checked.save h.indexed kind e wordNumber values
  | removeElement id => exact h.checked.of_subset (elements_removeElement o id)
  | addSentenceIf s expected => exact h.checked.of_subset (elements_addSentenceIf o s expected)
  | retractSentence id => exact h.checked.of_subset (elements_retractSentence o id)

theorem Maintained.edited (h : Maintained o) (edits : List Lexicon.Edit) :
    Maintained (o.edited edits) := by
  induction edits generalizing o with
  | nil => exact h
  | cons edit rest ih => exact ih (h.edit edit)

theorem Maintained.edited_induction (h : Maintained o) {p : Ontology → Prop}
    (hchange : ∀ o o', Change o o' → p o → p o') (ho : p o) (edits : List Lexicon.Edit) :
    p (o.edited edits) := by
  induction edits generalizing o with
  | nil => exact ho
  | cons edit rest ih => exact ih (h.edit edit) (hchange o _ (edit_change h.indexed edit) ho)

end Ontology

end SemanticWiki
