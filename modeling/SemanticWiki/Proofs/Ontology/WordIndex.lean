import Mathlib.Tactic.Tauto
import Mathlib.Tactic.ByContra
import SemanticWiki.Proofs.Distinct
import SemanticWiki.Proofs.Ontology.Change

/-! The index of words is exact: it holds the words of the registered elements, each with the element
as its owner, and nothing else. Words are told apart without regard to case, so a word has one owner
in all its spellings, and looking it up finds that owner. -/

namespace SemanticWiki.Ontology

variable {o o' : Ontology} {id owner : ElementId} {key : String}
  {index : List (String × ElementId)}

section Index

theorem mem_dropWords {words : List String} :
    (key, owner) ∈ dropWords index words ↔
      (key, owner) ∈ index ∧ key ∉ words.map Word.key := by
  unfold dropWords
  rw [List.mem_filter]
  simp

theorem mem_addWord {word : String} :
    (key, owner) ∈ addWord id index word ↔
      key = Word.key word ∧ owner = id ∨ (key, owner) ∈ index ∧ key ≠ Word.key word := by
  unfold addWord
  rw [List.mem_cons, List.mem_filter]
  simp

theorem mem_foldl_addWord (words : List String) :
    (key, owner) ∈ words.foldl (addWord id) index ↔
      owner = id ∧ key ∈ words.map Word.key ∨
        (key, owner) ∈ index ∧ key ∉ words.map Word.key := by
  induction words generalizing index with
  | nil => simp
  | cons word rest ih =>
    rw [List.foldl_cons, ih, mem_addWord, List.map_cons, List.mem_cons]
    tauto

def Functional (index : List (String × ElementId)) : Prop := (index.map Prod.fst).Nodup

theorem functional_filter (h : Functional index) (p : String × ElementId → Bool) :
    Functional (index.filter p) :=
  h.sublist (List.filter_sublist.map Prod.fst)

theorem functional_addWord (h : Functional index) (word : String) :
    Functional (addWord id index word) := by
  unfold addWord Functional
  rw [List.map_cons, List.nodup_cons]
  refine ⟨?_, functional_filter h _⟩
  simp

theorem functional_foldl_addWord (h : Functional index) (words : List String) :
    Functional (words.foldl (addWord id) index) := by
  induction words generalizing index with
  | nil => exact h
  | cons word rest ih => exact ih (functional_addWord h word)

theorem Functional.owner_unique (h : Functional index) {owner' : ElementId}
    (howner : (key, owner) ∈ index) (howner' : (key, owner') ∈ index) : owner = owner' := by
  rw [← lookup_eq_some_iff h] at howner howner'
  exact Option.some.inj (howner.symm.trans howner')

end Index

def Owns (o : Ontology) (id : ElementId) (key : String) : Prop :=
  ∃ e, o.get? id = some e ∧ key ∈ e.words.map Word.key

structure Indexed (o : Ontology) : Prop where
  ascending : Ascending o.elements
  functional : Functional o.words
  mem_words : ∀ key id, (key, id) ∈ o.words ↔ o.Owns id key

theorem indexed_new (name baseIri : String) : Indexed (new name baseIri) where
  ascending := List.Pairwise.nil
  functional := List.nodup_nil
  mem_words key id := by simp [new, Owns, get?]

theorem Indexed.owner?_eq_some_iff (h : Indexed o) {word : String} :
    o.owner? word = some id ↔ o.Owns id (Word.key word) :=
  (lookup_eq_some_iff h.functional).trans (h.mem_words _ _)

theorem Indexed.owner_unique (h : Indexed o) {id' : ElementId} (howns : o.Owns id key)
    (howns' : o.Owns id' key) : id = id' := by
  rw [← h.mem_words] at howns howns'
  exact h.functional.owner_unique howns howns'

theorem owns_iff_of_get? {e : Element} (hget : o.get? id = some e) :
    o.Owns id key ↔ key ∈ e.words.map Word.key := by
  simp [Owns, hget]

theorem Indexed.eq_of_owns (h : Indexed o) {words : List String}
    (hfree : o.taken? owner words = none) (hkey : key ∈ words.map Word.key)
    (howns : o.Owns id key) : id = owner := by
  obtain ⟨word, hword, rfl⟩ := List.mem_map.1 hkey
  have htaken := List.findSome?_eq_none_iff.1 hfree word hword
  rw [h.owner?_eq_some_iff.2 howns] at htaken
  by_contra hne
  simp [hne] at htaken

theorem owns_store {e : Element} :
    (o.store e).Owns id key ↔
      if e.id = id then key ∈ e.words.map Word.key else o.Owns id key := by
  unfold Owns
  rw [get?_store]
  by_cases hid : e.id = id
  · simp [hid]
  · simp [hid]

theorem owns_withoutElement {e : Element} :
    (o.withoutElement e).Owns id key ↔ id ≠ e.id ∧ o.Owns id key := by
  unfold Owns
  rw [get?_withoutElement]
  by_cases hid : id = e.id
  · simp [hid]
  · simp [hid]

theorem Indexed.mem_words_store (h : Indexed o) {e : Element}
    (hfree : o.taken? e.id e.words = none) :
    (key, id) ∈ (o.store e).words ↔ (o.store e).Owns id key := by
  have hold : key ∈ (((o.get? e.id).map (·.words)).getD []).map Word.key ↔ o.Owns e.id key := by
    cases hget : o.get? e.id with
    | none => simp [Owns, hget]
    | some old => simp [Owns, hget]
  unfold store
  rw [mem_foldl_addWord, mem_dropWords, hold, h.mem_words]
  refine Iff.trans ?_ owns_store.symm
  by_cases hid : e.id = id
  · subst hid
    rw [if_pos rfl]
    tauto
  · rw [if_neg hid]
    constructor
    · rintro (⟨hsame, -⟩ | ⟨⟨howns, -⟩, -⟩)
      · exact absurd hsame.symm hid
      · exact howns
    · intro howns
      refine .inr ⟨⟨howns, fun hlost => ?_⟩, fun hgained => ?_⟩
      · exact hid (h.owner_unique hlost howns)
      · exact hid (h.eq_of_owns hfree hgained howns).symm

theorem Indexed.mem_words_withoutElement (h : Indexed o) {e : Element}
    (hget : o.get? e.id = some e) :
    (key, id) ∈ (o.withoutElement e).words ↔ (o.withoutElement e).Owns id key := by
  unfold withoutElement
  rw [mem_dropWords, h.mem_words, ← owns_iff_of_get? hget]
  refine Iff.trans ?_ owns_withoutElement.symm
  constructor
  · rintro ⟨howns, hkept⟩
    refine ⟨?_, howns⟩
    rintro rfl
    exact hkept howns
  · rintro ⟨hid, howns⟩
    exact ⟨howns, fun hlost => hid (h.owner_unique howns hlost)⟩

theorem Change.indexed (hchange : Change o o') (h : Indexed o) : Indexed o' := by
  cases hchange with
  | stored e hremoved hkind hfree =>
    constructor
    · exact ascending_putElement h.ascending
    · exact functional_foldl_addWord (functional_filter h.functional _) e.words
    · intro key id
      exact h.mem_words_store hfree
  | removed e hget hunused =>
    constructor
    · exact h.ascending.filter _
    · exact functional_filter h.functional _
    · intro key id
      exact h.mem_words_withoutElement hget
  | none | allocated | added | retracted => exact ⟨h.ascending, h.functional, h.mem_words⟩

theorem Indexed.owns_iff (h : Indexed o) :
    o.Owns id key ↔ ∃ e ∈ o.elements, e.id = id ∧ ∃ word ∈ e.words, Word.key word = key := by
  constructor
  · rintro ⟨e, hget, hkey⟩
    exact ⟨e, mem_of_get? hget, id_of_get? hget, List.mem_map.1 hkey⟩
  · rintro ⟨e, he, rfl, hword⟩
    exact ⟨e, get?_of_mem h.ascending he, List.mem_map.2 hword⟩

theorem Indexed.eq_of_key_eq (h : Indexed o) {e f : Element} (he : e ∈ o.elements)
    (hf : f ∈ o.elements) {word other : String} (hword : word ∈ e.words) (hother : other ∈ f.words)
    (hsame : Word.key word = Word.key other) : e = f := by
  have howns := h.owns_iff.2 ⟨e, he, rfl, word, hword, hsame⟩
  have howns' := h.owns_iff.2 ⟨f, hf, rfl, other, hother, rfl⟩
  have hget := get?_of_mem h.ascending he
  rw [h.owner_unique howns howns', get?_of_mem h.ascending hf] at hget
  exact (Option.some.inj hget).symm

theorem Indexed.taken?_eq_none_iff (h : Indexed o) {words : List String} :
    o.taken? id words = none ↔ ∀ f ∈ o.elements, f.id ≠ id →
      ∀ word ∈ words, ∀ other ∈ f.words, Word.key word ≠ Word.key other := by
  constructor
  · intro hfree f hf hne word hword other hother hsame
    refine hne (h.eq_of_owns hfree (List.mem_map_of_mem hword) ?_)
    exact h.owns_iff.2 ⟨f, hf, rfl, other, hother, hsame.symm⟩
  · intro hothers
    refine List.findSome?_eq_none_iff.2 fun word hword => ?_
    cases howner : o.owner? word with
    | none => rfl
    | some owner =>
      obtain ⟨f, hf, rfl, other, hother, hsame⟩ := h.owns_iff.1 (h.owner?_eq_some_iff.1 howner)
      by_cases hid : f.id = id
      · simp [hid]
      · exact absurd hsame.symm (hothers f hf hid word hword other hother)

theorem word_index_exact (name baseIri : String) (operations : List Operation) :
    let o := (new name baseIri).run operations
    let lower (word : String) : String := String.ofList (Text.lower word.toList)
    (∀ key id, (key, id) ∈ o.words ↔
      ∃ e ∈ o.elements, e.id = id ∧ ∃ word, .word word ∈ e.values ∧ word ≠ "" ∧ lower word = key) ∧
    (o.words.map Prod.fst).Nodup ∧
    (∀ e ∈ o.elements, ∀ f ∈ o.elements, ∀ word other, .word word ∈ e.values → word ≠ "" →
      .word other ∈ f.values → other ≠ "" → lower word = lower other → e = f) ∧
    ∀ raw id, o.lookup raw = some id ↔
      ∃ e ∈ o.elements, e.id = id ∧
        ∃ word, .word word ∈ e.values ∧ word ≠ "" ∧ lower word = lower (Word.normalize raw) := by
  intro o lower
  have h : Indexed o :=
    run_induction (fun _ _ hchange => hchange.indexed) (indexed_new name baseIri) operations
  have howns (id : ElementId) (key : String) : o.Owns id key ↔ ∃ e ∈ o.elements, e.id = id ∧
      ∃ word, .word word ∈ e.values ∧ word ≠ "" ∧ lower word = key := by
    simp only [h.owns_iff, Element.mem_words, and_assoc]
    rfl
  refine ⟨fun key id => ?_, h.functional, ?_, fun raw id => ?_⟩
  · rw [h.mem_words, howns]
  · intro e he f hf word other hword hsome hother hsome'
    exact h.eq_of_key_eq he hf (Element.mem_words.2 ⟨hword, hsome⟩)
      (Element.mem_words.2 ⟨hother, hsome'⟩)
  · rw [← howns]
    exact h.owner?_eq_some_iff

theorem turkey_owned_in_any_case :
    let country : Operation := .commit ⟨.first⟩ .individual [.word "Turkey", .flag false]
    let fowl : Operation := .commit ⟨⟨2, by decide, by decide⟩⟩ .concept [.word "turkey", .word "turkeys"]
    let o := (new "wiki" "http://example.org/").run [country, fowl]
    (∃ e ∈ o.elements, .word "Turkey" ∈ e.values) ∧
    (∀ e ∈ o.elements, .word "turkey" ∉ e.values) ∧ o.lookup "TURKEY" = some ⟨.first⟩ := by
  intro country fowl o
  obtain ⟨-, -, hunique, hlookup⟩ :=
    word_index_exact "wiki" "http://example.org/" [country, fowl]
  have hcountry : ⟨⟨.first⟩, .individual, [.word "Turkey", .flag false]⟩ ∈ o.elements := by
    decide +kernel
  refine ⟨⟨_, hcountry, by decide⟩, fun e he hfowl => ?_, (hlookup _ _).2 ?_⟩
  · have hsame := hunique e he _ hcountry "turkey" "Turkey" hfowl (by decide) (by decide) (by decide)
      (by decide +kernel)
    subst hsame
    revert hfowl
    decide
  · exact ⟨_, hcountry, rfl, "Turkey", by decide, by decide, by decide +kernel⟩

end SemanticWiki.Ontology
