import SemanticWiki.Grammar.Registry
import SemanticWiki.Grammar.Wording
import SemanticWiki.Proofs.Grammar.Lookup
import SemanticWiki.Proofs.Lexicon.Shape
import SemanticWiki.Proofs.Ontology.Registry
import SemanticWiki.Proofs.Statement

/-! Languages that have words for everything. A language is expressive if it has a rule for every
construction, asked or not, whose output asks for no word form that an editor may leave out. Such a
language puts every statement into words that makes sense for checked elements. -/

namespace SemanticWiki

def Construct.kindAt? (construct : Construct) : Role → Option Kind
  | .subject =>
    match construct with
    | subsumption | disjointness => some .concept
    | membership | nonMembership | verbRelation | adjectiveRelation => some .individual
  | .object =>
    match construct with
    | subsumption | disjointness | membership | nonMembership => some .concept
    | verbRelation | adjectiveRelation => some .individual
  | .relation =>
    match construct with
    | verbRelation => some .relation
    | adjectiveRelation => some .transitiveAdjective
    | subsumption | disjointness | membership | nonMembership => none

def Cat.isMandatory (cat : Cat) : Bool :=
  cat.kind.slots[cat.slot]?.any fun slot => slot.form == .word && slot.mandatory

def Construct.supplies (construct : Construct) (role : Role) (cat : Cat) : Bool :=
  construct.kindAt? role == some cat.kind && cat.isMandatory

def LexIndex.Supplies (index : LexIndex) : Prop :=
  ∀ id cat, index.kindOf id = some cat.kind → cat.isMandatory = true →
    ∃ surface, index.surface? id cat = some surface

theorem Statement.kindOf_of_kindAt? {kindOf : ElementId → Option Kind} {s : Statement}
    {construct : Construct} (h : s.construct kindOf = .ok construct) {role : Role} {kind : Kind}
    (hkind : construct.kindAt? role = some kind) :
    ∃ id, (Binding.ofStatement s).get? role = some id ∧ kindOf id = some kind := by
  have hfits := construct_ok_iff.1 ⟨construct, h⟩
  cases s with
  | subsumption a b | disjointness a b | membership a b | nonMembership a b =>
    obtain ⟨_, -, h⟩ := bind_ok h
    obtain ⟨_, -, h⟩ := bind_ok h
    obtain rfl := Except.ok.inj h
    cases role with
    | subject => exact ⟨a, rfl, hkind ▸ hfits.1⟩
    | object => exact ⟨b, rfl, hkind ▸ hfits.2⟩
    | relation => cases hkind
  | relation a r b =>
    obtain ⟨_, -, h⟩ := bind_ok h
    obtain ⟨actual, hr, h⟩ := bind_ok h
    obtain ⟨_, -, h⟩ := bind_ok h
    obtain rfl := Except.ok.inj h
    obtain ⟨hr, hallowed⟩ := expectKind_eq_ok_iff.1 hr
    -- the kind of the relation decides between the two constructions
    have hconstruct : actual = .relation ∨ actual = .transitiveAdjective := by simpa using hallowed
    rcases hconstruct with rfl | rfl <;> cases role with
    | subject => exact ⟨a, rfl, hkind ▸ hfits.1⟩
    | object => exact ⟨b, rfl, hkind ▸ hfits.2.2⟩
    | relation => exact ⟨r, rfl, hkind ▸ hr⟩

namespace Language

/-- Whether the item can be written for every statement of the construction. -/
def suits (g : Language) (construct : Construct) : Item → Bool
  | .keyword spellings => !spellings.isEmpty
  | .mark _ => true
  | .indefinite role =>
    match g.indefinite with
    | .fixed spellings => !spellings.isEmpty
    | .bySound => construct.supplies role .nounSg
  | .name role => construct.supplies role .properName
  | .word role cat => construct.supplies role cat

def expresses (g : Language) (construct : Construct) (question : Bool) : Bool :=
  (g.outputRule? construct question).any fun r => r.items.all (g.suits construct)

def expressive (g : Language) : Bool :=
  [Construct.subsumption, .disjointness, .membership, .nonMembership, .verbRelation,
    .adjectiveRelation].all fun construct => [false, true].all (g.expresses construct)

theorem english_expressive : english.expressive = true := by decide +kernel

theorem german_expressive : german.expressive = true := by decide +kernel

theorem spanish_expressive : spanish.expressive = true := by decide +kernel

variable {g : Language}

theorem expressive_iff : g.expressive = true ↔
    ∀ construct question, g.expresses construct question = true := by
  simp only [expressive, List.all_eq_true]
  refine ⟨fun h construct question => h construct ?_ question ?_, fun h construct _ question _ =>
    h construct question⟩
  · cases construct <;> decide
  · cases question <;> decide

theorem spelled_ok {spellings : List String} (h : spellings ≠ []) :
    ∃ pieces, g.spelled spellings = .ok pieces := by
  cases spellings with
  | nil => contradiction
  | cons text _ => exact ⟨_, rfl⟩

section Writing

variable {index : LexIndex} (hindex : index.Supplies) {s : Statement} {construct : Construct}
  (hs : s.construct index.kindOf = .ok construct)
include hindex hs

theorem supplied {role : Role} {cat : Cat} (h : construct.supplies role cat = true) :
    ∃ id surface, g.argument (.ofStatement s) role cat = .ok id ∧
      g.surface index cat id = .ok surface := by
  simp only [Construct.supplies, Bool.and_eq_true, beq_iff_eq] at h
  obtain ⟨id, hrole, hkind⟩ := Statement.kindOf_of_kindAt? hs h.1
  obtain ⟨surface, hsurface⟩ := hindex id cat hkind h.2
  exact ⟨id, surface, by rw [argument, hrole], by rw [Language.surface, hsurface]⟩

theorem piecesOfItem_ok {item : Item} (h : g.suits construct item = true) :
    ∃ pieces, g.piecesOfItem index (.ofStatement s) item = .ok pieces := by
  cases item with
  | keyword spellings => exact spelled_ok (by simpa [suits] using h)
  | mark _ => exact ⟨_, rfl⟩
  | indefinite role =>
    simp only [suits] at h
    simp only [piecesOfItem]
    cases hspelled : g.indefinite with
    | fixed spellings =>
      rw [hspelled] at h
      exact spelled_ok (by simpa using h)
    | bySound =>
      rw [hspelled] at h
      obtain ⟨id, surface, hid, hsurface⟩ := supplied hindex hs h
      exact ⟨_, bind_eq_ok_iff.2 ⟨id, hid, bind_eq_ok_iff.2 ⟨surface, hsurface, rfl⟩⟩⟩
  | name role =>
    obtain ⟨id, surface, hid, hsurface⟩ := supplied hindex hs h
    exact ⟨_, bind_eq_ok_iff.2 ⟨id, hid, bind_eq_ok_iff.2 ⟨surface, hsurface, rfl⟩⟩⟩
  | word role cat =>
    obtain ⟨id, surface, hid, hsurface⟩ := supplied hindex hs h
    exact ⟨_, bind_eq_ok_iff.2 ⟨id, hid, bind_eq_ok_iff.2 ⟨surface, hsurface, rfl⟩⟩⟩

theorem piecesOfItems_ok {items : List Item} (h : ∀ item ∈ items, g.suits construct item = true) :
    ∃ pieces, g.piecesOfItems index (.ofStatement s) items = .ok pieces := by
  induction items with
  | nil => exact ⟨_, rfl⟩
  | cons item items ih =>
    obtain ⟨hitem, hitems⟩ := List.forall_mem_cons.1 h
    obtain ⟨first, hfirst⟩ := piecesOfItem_ok hindex hs hitem
    obtain ⟨rest, hrest⟩ := ih hitems
    exact ⟨_, bind_eq_ok_iff.2 ⟨first, hfirst, bind_eq_ok_iff.2 ⟨rest, hrest, rfl⟩⟩⟩

theorem linearize_ok (hg : g.expressive = true) (question : Bool) :
    ∃ text, g.linearize index s question = .ok text := by
  have hrule := expressive_iff.1 hg construct question
  obtain ⟨r, hr, hitems⟩ := (Option.any_eq_true _ _).1 hrule
  obtain ⟨pieces, hpieces⟩ := piecesOfItems_ok hindex hs (List.all_eq_true.1 hitems)
  refine ⟨String.ofList (Piece.join pieces), bind_eq_ok_iff.2 ⟨construct, hs, ?_⟩⟩
  rw [hr]
  exact bind_eq_ok_iff.2 ⟨pieces, hpieces, rfl⟩

end Writing

end Language

theorem Element.Checked.word_ne_empty {e : Element} (h : e.Checked) {cat : Cat}
    (hcat : cat.kind = e.kind) (hmandatory : cat.isMandatory = true) : e.word cat.slot ≠ "" := by
  obtain ⟨raw, hraw⟩ := h
  obtain ⟨slot, hslot, hform⟩ := (Option.any_eq_true _ _).1 hmandatory
  simp only [Bool.and_eq_true, beq_iff_eq] at hform
  obtain ⟨value, hadmits, hvalue⟩ := Lexicon.value_of_slot hraw (hcat ▸ hslot)
  cases value with
  | flag on => cases hform.1.symm.trans hadmits
  | word text =>
    have hword : e.word cat.slot = Word.normalize text := by
      rw [word, hvalue]
      rfl
    rw [hword]
    intro hempty
    have hoptional := hadmits.2
    rw [if_pos hempty, hform.2] at hoptional
    cases hoptional

namespace LexIndex

variable {g : Language} {revision : Nat}

theorem exists_of_kindOf_build {elements : List Element} {id : ElementId} {kind : Kind}
    (h : (build g revision elements).kindOf id = some kind) :
    ∃ e ∈ elements, e.id = id ∧ e.kind = kind := by
  obtain ⟨before, after, hsplit, -⟩ := List.lookup_eq_some_iff.1 h
  have hmem : (id, kind) ∈ (build g revision elements).kinds := by
    rw [← List.mem_reverse, hsplit]
    simp
  obtain ⟨e, he, hpair⟩ := List.mem_map.1 hmem
  exact ⟨e, he, Prod.mk.inj hpair⟩

theorem supplies_build {elements : List Element} (h : ∀ e ∈ elements, e.Checked) :
    (build g revision elements).Supplies := by
  intro id cat hkind hmandatory
  obtain ⟨e, he, rfl, hcat⟩ := exists_of_kindOf_build hkind
  have hsome : e.word cat.slot ≠ "" := (h e he).word_ne_empty hcat.symm hmandatory
  obtain ⟨parts, hparts⟩ := (h e he).hasParts (Element.word_mem_words hsome)
  have htokens : Grammar.tokenize (g.inflect cat (e.word cat.slot)) ≠ [] := by
    rw [hparts.tokenize_inflect]
    exact hparts.tokens_ne_nil hsome
  have hentry : ∃ entry ∈ (build g revision elements).entries, entry.id = e.id ∧ entry.cat = cat :=
    ⟨_, mem_entries_build.2 ⟨e, he, cat, hcat.symm,
      entryOf?_eq_some_iff.2 ⟨hsome, rfl, htokens⟩⟩, rfl, rfl⟩
  obtain ⟨entry, hentry, hid, hentryCat⟩ := hentry
  have hfound : ((build g revision elements).entries.reverse.find?
      fun entry => entry.id == e.id && entry.cat == cat).isSome := by
    rw [List.find?_isSome]
    exact ⟨entry, List.mem_reverse.2 hentry, by simp [hid, hentryCat]⟩
  obtain ⟨entry, hentry⟩ := Option.isSome_iff_exists.1 hfound
  exact ⟨entry.surface, by rw [surface?, hentry, Option.map_some]⟩

theorem kindOf_build {o : Ontology} (h : Ontology.Ascending o.elements) :
    (build g revision o.elements).kindOf = o.kindOf := by
  funext id
  cases hkind : (build g revision o.elements).kindOf id with
  | none =>
    have hnone : o.get? id = none := by
      refine List.find?_eq_none.2 fun e he hid => ?_
      have hother := List.lookup_eq_none_iff.1 hkind (e.id, e.kind)
        (List.mem_reverse.2 (List.mem_map_of_mem he))
      simp_all
    rw [Ontology.kindOf, hnone, Option.map_none]
  | some kind =>
    obtain ⟨e, he, rfl, rfl⟩ := exists_of_kindOf_build hkind
    rw [Ontology.kindOf, Ontology.get?_of_mem h he, Option.map_some]

end LexIndex

end SemanticWiki
