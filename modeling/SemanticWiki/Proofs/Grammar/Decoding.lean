import SemanticWiki.Proofs.Grammar.CheckedIndex
import SemanticWiki.Proofs.Grammar.Unambiguous

/-! Lexicons that leave nothing to guess. As long as no word starts with another one or holds a word
of the language itself, the built-in languages are read in one way, and what they write is read back
as what was meant. -/

namespace SemanticWiki

/-- The words of the elements do not get in the way of each other or of the language. They are
checked and have one owner each, none is the beginning of another one for a reader, and none holds a
keyword or an article. -/
structure NonOverlapping (g : Language) (elements : List Element) : Prop where
  checked : ∀ e ∈ elements, e.Checked
  owned : ∀ e ∈ elements, ∀ f ∈ elements, ∀ word ∈ e.words, ∀ other ∈ f.words,
    Word.key word = Word.key other → e = f
  prefixFree : ∀ e ∈ elements, ∀ f ∈ elements, ∀ word ∈ e.words, ∀ other ∈ f.words,
    Word.tokens word <+: Word.tokens other → Word.tokens word = Word.tokens other
  unreserved : ∀ e ∈ elements, ∀ word ∈ e.words, ∀ t ∈ Word.tokens word, t ∉ g.functionWords

variable {g : Language} {elements : List Element}

theorem LexIndex.exists_word_of_lists (hchecked : ∀ e ∈ elements, e.Checked) {revision : Nat}
    {id : ElementId} {cat : Cat} {run : List String}
    (h : (build g revision elements).Lists id cat run) :
    ∃ e ∈ elements, e.id = id ∧ cat.kind = e.kind ∧ ∃ word ∈ e.words,
      run = Word.tokens word ∧ ∃ parts, Word.HasParts word parts := by
  obtain ⟨e, he, rfl, hkind, hsome, rfl⟩ := (lists_build_iff hchecked).1 h
  have hword : e.word cat.slot ∈ e.words := Element.word_mem_words hsome
  exact ⟨e, he, rfl, hkind, _, hword, rfl, (hchecked e he).hasParts hword⟩

theorem NonOverlapping.decodable (h : NonOverlapping g elements) (hg : g.legible = true)
    (revision : Nat) : (LexIndex.build g revision elements).Decodable g where
  prefixFree hlists hlists' hprefix := by
    obtain ⟨e, he, rfl, hkind, word, hword, rfl, parts, hparts⟩ :=
      LexIndex.exists_word_of_lists h.checked hlists
    obtain ⟨f, hf, rfl, hkind', other, hother, rfl, parts', hparts'⟩ :=
      LexIndex.exists_word_of_lists h.checked hlists'
    have htokens := h.prefixFree e he f hf word hword other hother hprefix
    obtain rfl := h.owned e he f hf word hword other hother
      (Word.key_eq_of_tokens_eq hparts hparts' htokens)
    exact ⟨htokens, rfl, hkind.trans hkind'.symm⟩
  unreserved hlists t ht := by
    obtain ⟨e, he, -, -, word, hword, rfl, parts, hparts⟩ :=
      LexIndex.exists_word_of_lists h.checked hlists
    refine ⟨h.unreserved e he word hword t ht, fun hmark => ?_⟩
    obtain ⟨r, hr, hmark⟩ := List.mem_flatMap.1 hmark
    obtain ⟨item, hitem, hmark⟩ := List.mem_filterMap.1 hmark
    cases item with
    | mark text =>
      obtain rfl := Option.some.inj hmark
      obtain ⟨m, htext, hm⟩ := Language.exists_mark (((Language.legible_iff.1 hg).1 r hr).1 _ hitem)
      rw [← String.ofList_toList (s := text), htext] at ht
      exact hparts.not_mark hm ht
    | keyword _ | indefinite _ | name _ | word _ _ => cases hmark

namespace Language

theorem getLast?_piecesOfItems {index : LexIndex} {c : Binding} {items : List Item}
    {closer : String} (hlast : items.getLast? = some (.mark closer)) {pieces : List Piece}
    (h : g.piecesOfItems index c items = .ok pieces) :
    pieces.getLast? = some ⟨closer.toList, true⟩ := by
  induction items generalizing pieces with
  | nil => cases hlast
  | cons item items ih =>
    obtain ⟨first, hfirst, h⟩ := bind_ok h
    obtain ⟨rest, hrest, h⟩ := bind_ok h
    obtain rfl := Except.ok.inj h
    cases items with
    | nil =>
      obtain rfl := Option.some.inj hlast
      obtain rfl := Except.ok.inj hfirst
      obtain rfl := Except.ok.inj hrest
      rfl
    | cons next items =>
      rw [List.getLast?_cons_cons] at hlast
      rw [List.getLast?_append, ih hlast hrest, Option.some_or]

theorem closer_of_linearize (hg : g.legible = true) {closers : List String}
    (hrules : ∀ r ∈ g.rules, ∃ closer ∈ closers, r.items.getLast? = some (.mark closer))
    {index : LexIndex} (hindex : index.Readable) {s : Statement} {question : Bool}
    {text : String} (h : g.linearize index s question = .ok text) :
    ∃ closer ∈ closers, (Grammar.tokenize text).getLast? = some closer := by
  obtain ⟨r, hr, -, -, pieces, hpieces, htokens⟩ := pieces_of_linearize hg hindex h
  obtain ⟨closer, hcloser, hlast⟩ := hrules r hr
  obtain ⟨front, rfl⟩ := List.getLast?_eq_some_iff.1 (getLast?_piecesOfItems hlast hpieces)
  obtain ⟨m, htext, hm⟩ := exists_mark
    (((legible_iff.1 hg).1 r hr).1 _ (List.mem_of_getLast? hlast))
  refine ⟨closer, hcloser, ?_⟩
  rw [htokens, List.flatMap_append, Piece.flatMap_tokens_text, (Piece.sound_mark htext hm).2,
    List.getLast?_append, List.getLast?_singleton, Option.some_or]

theorem builtin_legible (hg : g ∈ [english, german, spanish]) : g.legible = true := by
  simp only [List.mem_cons, List.not_mem_nil, or_false] at hg
  rcases hg with rfl | rfl | rfl
  · exact english_legible
  · exact german_legible
  · exact spanish_legible

theorem builtin_reading_unique (hg : g ∈ [english, german, spanish]) {index : LexIndex}
    (hindex : index.Decodable g) {tokens : List String}
    (hclosed : g = spanish → ∃ closer ∈ [".", "?"], tokens.getLast? = some closer) :
    ∀ reading ∈ g.readings index tokens, ∀ reading' ∈ g.readings index tokens,
      reading = reading' := by
  simp only [List.mem_cons, List.not_mem_nil, or_false] at hg
  rcases hg with rfl | rfl | rfl
  · refine fun _ h _ h' => reading_unique hindex english_unambiguous ?_ h h'
    exact fun _ _ _ hform _ => hform
  · refine fun _ h _ h' => reading_unique hindex german_unambiguous ?_ h h'
    exact fun _ _ _ hform _ => hform
  · obtain ⟨closer, hcloser, hlast⟩ := hclosed rfl
    have hmark : closer ∈ spanish.marks := by
      have hmarks : ∀ closer ∈ [".", "?"], closer ∈ spanish.marks := by decide +kernel
      exact hmarks closer hcloser
    refine fun _ h _ h' => reading_unique hindex spanish_unambiguous ?_ h h'
    -- the last token is no part of a word, so the form ends in it as well
    intro r form c hform hspells
    refine List.mem_filter.2 ⟨hform, hspells.endsIn hcloser (fun hlists hmem => ?_) hlast⟩
    exact (hindex.unreserved hlists closer hmem).2 hmark

end Language

/-- The numbers of the elements need not be distinct. -/
theorem parse_linearize_of_nonOverlapping
    (hg : g ∈ [Language.english, Language.german, Language.spanish])
    (h : NonOverlapping g elements) (revision : Nat) :
    let index := LexIndex.build g revision elements
    (∀ text, (g = Language.spanish →
        ∃ closer ∈ [".", "?"], (Grammar.tokenize text).getLast? = some closer) →
      ∀ input code n, g.parse index text ≠ .error (.ambiguousParse input code n)) ∧
    ∀ s question text, g.linearize index s question = .ok text →
      g.parse index text = .ok (s, question) := by
  intro index
  have hlegible := Language.builtin_legible hg
  have hdecodable : index.Decodable g := h.decodable hlegible revision
  have hunambiguous (text : String) (hclosed : g = Language.spanish →
      ∃ closer ∈ [".", "?"], (Grammar.tokenize text).getLast? = some closer) :=
    Language.parse_ne_ambiguous (Language.builtin_reading_unique hg hdecodable hclosed)
  refine ⟨hunambiguous, fun s question text hwritten => ?_⟩
  have hreadable : index.Readable :=
    LexIndex.readable_build g revision fun e he => (h.checked e he).wellWorded
  have hclosed : g = Language.spanish →
      ∃ closer ∈ [".", "?"], (Grammar.tokenize text).getLast? = some closer := by
    rintro rfl
    exact Language.closer_of_linearize hlegible (by decide) hreadable hwritten
  have hmem := Language.mem_readings_of_linearize hlegible hreadable hwritten
  obtain hparse | ⟨n, -, hparse⟩ := Language.parse_of_mem_readings hmem
  · exact hparse
  · exact absurd hparse (hunambiguous text hclosed _ _ n)

def lovers (ama maria nuevaYork : ElementId) : List Element :=
  [⟨ama, .relation, [.word "ama", .word "amar", .word "amado"]⟩,
   ⟨maria, .individual, [.word "Maria", .flag false]⟩,
   ⟨nuevaYork, .individual, [.word "Nueva_York", .flag true]⟩]

/-- A Spanish sentence is read as it was meant. Without its last mark it could be a question. -/
theorem maria_ama_nueva_york :
    let ama : ElementId := ⟨⟨3, by decide, by decide⟩⟩
    let maria : ElementId := ⟨⟨4, by decide, by decide⟩⟩
    let nuevaYork : ElementId := ⟨⟨5, by decide, by decide⟩⟩
    let index := LexIndex.build .spanish 3 (lovers ama maria nuevaYork)
    Language.spanish.linearize index (.relation maria ama nuevaYork) false =
        .ok "Maria ama el Nueva York." ∧
      Language.spanish.parse index "Maria ama el Nueva York." =
        .ok (.relation maria ama nuevaYork, false) ∧
      Language.spanish.parse index "Maria ama Nueva York" =
        .error (.ambiguousParse "Maria ama Nueva York" "es" 2) := by
  intro ama maria nuevaYork index
  have hchecked : ∀ e ∈ lovers ama maria nuevaYork, e.Checked := by
    have hall : ∀ e ∈ lovers ama maria nuevaYork,
        Lexicon.validateValues e.kind e.values = .ok e.values := by decide +kernel
    exact fun e he => ⟨e.values, hall e he⟩
  have hseparate : NonOverlapping .spanish (lovers ama maria nuevaYork) :=
    ⟨hchecked, by decide +kernel, by decide +kernel, by decide +kernel⟩
  have hwritten : Language.spanish.linearize index (.relation maria ama nuevaYork) false =
      .ok "Maria ama el Nueva York." := by decide +kernel
  refine ⟨hwritten, ?_, by decide +kernel⟩
  exact (parse_linearize_of_nonOverlapping (by simp) hseparate 3).2 _ _ _ hwritten

end SemanticWiki
