import SemanticWiki.Export.Vocabulary
import SemanticWiki.Proofs.Grammar.Expressiveness
import SemanticWiki.Proofs.Lexicon.Upkeep
import SemanticWiki.Proofs.Ontology.Integrity

/-! Names in exports. The elements of an ontology go by their headwords in every format, which is safe
as long as words are saved by the lexicon: each element has a headword, no two have the same, and what
sentences are about is there and of the right kind. -/

namespace SemanticWiki

open Ontology Export

def Word.isStoredChar (c : Char) : Bool := isPartChar c || c == '_'

theorem Element.Checked.headword_ne_empty {e : Element} (h : e.Checked) : e.headword ≠ "" := by
  have hfirst : ∀ kind : Kind, ∃ cat : Cat, cat.kind = kind ∧ cat.slot = 0 ∧ cat.isMandatory = true := by
    intro kind
    cases kind with
    | concept => exact ⟨.nounSg, by decide⟩
    | individual => exact ⟨.properName, by decide⟩
    | relation => exact ⟨.verbFinite, by decide⟩
    | transitiveAdjective => exact ⟨.trAdj, by decide⟩
  obtain ⟨cat, hkind, hslot, hmandatory⟩ := hfirst e.kind
  have hword : e.word cat.slot ≠ "" := h.word_ne_empty hkind hmandatory
  rwa [hslot] at hword

def Export.IsName (text : String) : Prop := ∀ c ∈ text.toList, Word.isStoredChar c = true

theorem Word.HasParts.isName {word : String} {parts : List (List Char)} (h : HasParts word parts) :
    IsName word := by
  intro c hc
  rw [h.text] at hc
  rcases Text.mem_intercalate hc with rfl | ⟨part, hpart, hc⟩
  · rfl
  · rw [isStoredChar, h.chars part hpart c hc]
    rfl

def Axiom.Fits (kindOf : ElementId → Option Kind) : Axiom → Prop
  | subClassOf a b | disjointClasses a b => kindOf a = some .concept ∧ kindOf b = some .concept
  | classAssertion individual cls | negativeClassAssertion individual cls =>
    kindOf individual = some .individual ∧ kindOf cls = some .concept
  | objectPropertyAssertion subject property object => kindOf subject = some .individual ∧
    (kindOf property = some .relation ∨ kindOf property = some .transitiveAdjective) ∧
    kindOf object = some .individual

theorem Statement.Fits.toAxiom {kindOf : ElementId → Option Kind} {s : Statement}
    (h : s.Fits kindOf) : s.toAxiom.Fits kindOf := by
  cases s <;> exact h

namespace Snapshot

variable {s : Snapshot} {id id' : ElementId} {kind : Kind}

def kindOf (s : Snapshot) (id : ElementId) : Option Kind := (s.element? id).map (·.kind)

def nameOf (s : Snapshot) (id : ElementId) : String := ((s.element? id).map (·.headword)).getD ""

theorem kindOf_eq {s' : Snapshot} (h : s'.elements = s.elements) : s'.kindOf = s.kindOf := by
  funext id
  rw [kindOf, kindOf, element?, element?, h]

theorem nameOf_eq {s' : Snapshot} (h : s'.elements = s.elements) : s'.nameOf = s.nameOf := by
  funext id
  rw [nameOf, nameOf, element?, element?, h]

theorem elementOf_eq {s' : Snapshot} (h : s'.elements = s.elements) : elementOf s' = elementOf s := by
  funext id
  rw [elementOf, elementOf, element?, element?, h]

structure WellNamed (s : Snapshot) : Prop where
  fits : ∀ ax ∈ s.axioms, ax.Fits s.kindOf
  isName_headword : ∀ e ∈ s.elements, IsName e.headword
  distinct : ∀ e ∈ s.elements, ∀ f ∈ s.elements, e.headword = f.headword → e = f

theorem wellNamed {o : Ontology} (hindexed : Indexed o) (hintact : Intact o)
    (hchecked : o.Checked) : o.snapshot.WellNamed where
  fits ax hax := by
    obtain ⟨stored, hstored, rfl⟩ := List.mem_map.1 hax
    exact (hintact.sentences stored (List.mem_of_mem_filter hstored)).toAxiom
  isName_headword e he := by
    have hword : e.headword ∈ e.words := Element.word_mem_words (hchecked e he).headword_ne_empty
    obtain ⟨parts, hparts⟩ := (hchecked e he).hasParts hword
    exact hparts.isName
  distinct e he f hf hsame := by
    have hword : e.headword ∈ e.words := Element.word_mem_words (hchecked e he).headword_ne_empty
    have hother : f.headword ∈ f.words := Element.word_mem_words (hchecked f hf).headword_ne_empty
    exact hindexed.eq_of_key_eq he hf hword hother (congrArg Word.key hsame)

theorem elementOf_ok (h : s.kindOf id = some kind) :
    ∃ e, elementOf s id = .ok e ∧ e ∈ s.elements ∧ e.id = id ∧ e.kind = kind ∧
      s.nameOf id = e.headword := by
  obtain ⟨e, he, hkind⟩ := Option.map_eq_some_iff.1 h
  refine ⟨e, ?_, List.mem_of_find?_eq_some he, by simpa using List.find?_some he, hkind, ?_⟩
  · rw [elementOf, he]
  · rw [nameOf, he]
    rfl

namespace WellNamed

variable (h : s.WellNamed)
include h

theorem isName (hid : s.kindOf id = some kind) : IsName (s.nameOf id) := by
  obtain ⟨e, -, he, -, -, hname⟩ := elementOf_ok hid
  rw [hname]
  exact h.isName_headword e he

theorem eq_of_nameOf_eq {kind' : Kind} (hid : s.kindOf id = some kind)
    (hid' : s.kindOf id' = some kind') (hsame : s.nameOf id = s.nameOf id') : id = id' := by
  obtain ⟨e, -, he, rfl, -, hname⟩ := elementOf_ok hid
  obtain ⟨f, -, hf, rfl, -, hname'⟩ := elementOf_ok hid'
  rw [hname, hname'] at hsame
  rw [h.distinct e he f hf hsame]

theorem eq_of_names_eq {ids ids' : List ElementId}
    (hids : ∀ id ∈ ids, ∃ kind, s.kindOf id = some kind)
    (hids' : ∀ id ∈ ids', ∃ kind, s.kindOf id = some kind)
    (hsame : ids.map s.nameOf = ids'.map s.nameOf) : ids = ids' := by
  induction ids generalizing ids' with
  | nil => exact (List.map_eq_nil_iff.1 hsame.symm).symm
  | cons id ids ih =>
    obtain ⟨id', ids', rfl, hid, hrest⟩ := List.map_eq_cons_iff.1 hsame.symm
    obtain ⟨⟨kind, hkind⟩, hids⟩ := List.forall_mem_cons.1 hids
    obtain ⟨⟨kind', hkind'⟩, hids'⟩ := List.forall_mem_cons.1 hids'
    rw [h.eq_of_nameOf_eq hkind hkind' hid.symm, ih hids hids' hrest.symm]

theorem axioms_eq_nil (hnone : s.elements = []) : s.axioms = [] := by
  have hkind (id : ElementId) : s.kindOf id = none := by
    rw [kindOf, element?, hnone]
    rfl
  refine List.eq_nil_iff_forall_not_mem.2 fun ax hax => ?_
  have hfits := h.fits ax hax
  cases ax <;> exact absurd (hfits.1.symm.trans (hkind _)) (by simp)

end WellNamed

end Snapshot

end SemanticWiki
