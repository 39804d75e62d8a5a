import Mathlib.Data.List.Induction
import Mathlib.Data.String.Basic
import SemanticWiki.Export.LexiconReport
import SemanticWiki.Proofs.Grammar.Panic
import SemanticWiki.Proofs.Json.RoundTrip
import SemanticWiki.Proofs.SortedInsertion

/-! What a lexicon report holds. The entry of a sentence has one text for each language that has words
for the sentence, by the code of the language. The printed report is read back as what it holds. -/

namespace SemanticWiki.Export

/-- The entry is about the stored sentence: it has its number and its storage form, and its wording in
each of the languages that have one, by ascending codes. -/
structure ReportedSentence.Covers (entry : ReportedSentence) (stored : SentenceId × Sentence)
    (languages : List String) (wording : String → Except GrammarError String) : Prop where
  id : entry.id = stored.1
  stored : entry.stored = stored.2.store
  ascending : entry.texts.Pairwise (·.1 < ·.1)
  texts : ∀ code text, (code, text) ∈ entry.texts ↔ code ∈ languages ∧ wording code = .ok text

namespace LexiconReport

variable {texts : List (String × String)} {code text k t : String} {s : Sentence}
  {languages : List (ConcreteGrammar × LexIndex)} {registry : Registry} {codes : List String}

theorem putText_eq_insertByKey (code text : String) (texts : List (String × String)) :
    putText code text texts = insertByKey Prod.fst (code, text) texts := by
  induction texts with
  | nil => rfl
  | cons first rest ih =>
    unfold putText insertByKey
    rw [ih]

theorem mem_putText (h : texts.Pairwise (·.1 < ·.1)) :
    (k, t) ∈ putText code text texts ↔ k = code ∧ t = text ∨ k ≠ code ∧ (k, t) ∈ texts := by
  rw [putText_eq_insertByKey, mem_insertByKey_iff h, Prod.mk.injEq]

theorem pairwise_putText (h : texts.Pairwise (·.1 < ·.1)) :
    (putText code text texts).Pairwise (·.1 < ·.1) := by
  rw [putText_eq_insertByKey]
  exact pairwise_insertByKey h

theorem textsOf_concat (languages : List (ConcreteGrammar × LexIndex))
    (last : ConcreteGrammar × LexIndex) (s : Sentence) :
    textsOf (languages ++ [last]) s = (do addText s (← textsOf languages s) last) := by
  rw [textsOf, List.foldlM_append]
  exact bind_congr fun texts => by rw [List.foldlM_cons]; exact bind_pure _

theorem addText_ok {last : ConcreteGrammar × LexIndex} {more : List (String × String)}
    (h : addText s texts last = .ok more) :
    (∃ text, last.1.linearize last.2 s.statement s.question = .ok text ∧
      more = putText last.1.code text texts) ∨
    ∃ error, last.1.linearize last.2 s.statement s.question = .error error ∧
      error.isPanic = false ∧ more = texts := by
  unfold addText at h
  split at h
  · rename_i text htext
    exact .inl ⟨text, htext, (Except.ok.inj h).symm⟩
  · rename_i error herror
    split at h
    · cases h
    · rename_i hcalm
      exact .inr ⟨error, herror, by simpa using hcalm, (Except.ok.inj h).symm⟩

theorem textsOf_error {error : GrammarError} (h : textsOf languages s = .error error) :
    error.isPanic = true ∧
      ∃ x ∈ languages, x.1.linearize x.2 s.statement s.question = .error error := by
  induction languages using List.reverseRecOn with
  | nil => cases h
  | append_singleton front last ih =>
    rw [textsOf_concat] at h
    cases hfront : textsOf front s with
    | error fault =>
      rw [hfront] at h
      obtain ⟨hpanic, x, hx, hfault⟩ := ih (hfront.trans h)
      exact ⟨hpanic, x, by simp [hx], hfault⟩
    | ok texts =>
      rw [hfront] at h
      change addText s texts last = .error error at h
      unfold addText at h
      split at h
      · cases h
      · rename_i fault hfault
        split at h
        · rename_i hpanic
          obtain rfl := Except.error.inj h
          exact ⟨hpanic, last, by simp, hfault⟩
        · cases h

theorem answers_of_textsOf (h : textsOf languages s = .ok texts) :
    ∀ x ∈ languages, Answers (x.1.linearize x.2 s.statement s.question) := by
  induction languages using List.reverseRecOn generalizing texts with
  | nil => simp
  | append_singleton front last ih =>
    rw [textsOf_concat] at h
    obtain ⟨before, hfront, h⟩ := bind_ok h
    intro x hx
    rcases List.mem_append.1 hx with hx | hx
    · exact ih hfront x hx
    · obtain rfl := List.mem_singleton.1 hx
      obtain ⟨text, htext, -⟩ | ⟨error, herror, hcalm, -⟩ := addText_ok h
      · exact htext ▸ answers_ok text
      · exact herror ▸ answers_error hcalm

theorem pairwise_textsOf (h : textsOf languages s = .ok texts) : texts.Pairwise (·.1 < ·.1) := by
  induction languages using List.reverseRecOn generalizing texts with
  | nil =>
    obtain rfl := Except.ok.inj h
    exact List.Pairwise.nil
  | append_singleton front last ih =>
    rw [textsOf_concat] at h
    obtain ⟨before, hfront, h⟩ := bind_ok h
    obtain ⟨text, -, rfl⟩ | ⟨error, -, -, rfl⟩ := addText_ok h
    · exact pairwise_putText (ih hfront)
    · exact ih hfront

theorem mem_textsOf (hsame : ∀ x ∈ languages, ∀ y ∈ languages, x.1.code = y.1.code → x = y)
    (h : textsOf languages s = .ok texts) : (code, text) ∈ texts ↔
      ∃ x ∈ languages, x.1.code = code ∧ x.1.linearize x.2 s.statement s.question = .ok text := by
  induction languages using List.reverseRecOn generalizing texts with
  | nil =>
    obtain rfl := Except.ok.inj h
    simp
  | append_singleton front last ih =>
    rw [textsOf_concat] at h
    obtain ⟨before, hbefore, h⟩ := bind_ok h
    have hfront := ih (fun x hx y hy => hsame x (by simp [hx]) y (by simp [hy])) hbefore
    obtain ⟨wording, hwording, rfl⟩ | ⟨fault, hfault, -, rfl⟩ := addText_ok h
    · rw [mem_putText (pairwise_textsOf hbefore), hfront]
      constructor
      · rintro (⟨rfl, rfl⟩ | ⟨-, x, hx, hcode, htext⟩)
        · exact ⟨last, by simp, rfl, hwording⟩
        · exact ⟨x, by simp [hx], hcode, htext⟩
      · rintro ⟨x, hx, rfl, htext⟩
        by_cases hcode : x.1.code = last.1.code
        · obtain rfl := hsame x hx last (by simp) hcode
          exact .inl ⟨rfl, Except.ok.inj (htext.symm.trans hwording)⟩
        · have hne : x ≠ last := fun hlast => hcode (hlast ▸ rfl)
          exact .inr ⟨hcode, x, by simpa [hne] using hx, rfl, htext⟩
    · rw [hfront]
      constructor
      · rintro ⟨x, hx, hcode, htext⟩
        exact ⟨x, by simp [hx], hcode, htext⟩
      · rintro ⟨x, hx, hcode, htext⟩
        have hne : x ≠ last := by
          rintro rfl
          cases htext.symm.trans hfault
        exact ⟨x, by simpa [hne] using hx, hcode, htext⟩

def wordingAt (registry : Registry) (snapshot : Snapshot) (s : Sentence) (code : String) :
    Except GrammarError String := do
  let g ← registry.get code
  g.linearize (g.index snapshot.revision snapshot.elements) s.statement s.question

def entryOf (languages : List (ConcreteGrammar × LexIndex)) :
    SentenceId × Sentence → Except RenderFault ReportedSentence
  | (id, s) => do
    let texts ← (textsOf languages s).mapError RenderFault.grammar
    return ⟨id, s.store, texts⟩

theorem entryOf_ok {stored : SentenceId × Sentence} {entry : ReportedSentence}
    (h : entryOf languages stored = .ok entry) :
    ∃ texts, textsOf languages stored.2 = .ok texts ∧ entry = ⟨stored.1, stored.2.store, texts⟩ := by
  obtain ⟨texts, htexts, h⟩ := bind_ok h
  obtain rfl := Except.ok.inj h
  cases hof : textsOf languages stored.2 with
  | error error =>
    rw [hof] at htexts
    cases htexts
  | ok found =>
    rw [hof] at htexts
    obtain rfl := Except.ok.inj htexts
    exact ⟨found, rfl, rfl⟩

theorem entryOf_error {stored : SentenceId × Sentence} {fault : RenderFault}
    (h : entryOf languages stored = .error fault) :
    ∃ panic, textsOf languages stored.2 = .error panic ∧ fault = .grammar panic := by
  cases hof : textsOf languages stored.2 with
  | error error =>
    rw [entryOf, hof] at h
    exact ⟨error, rfl, (Except.error.inj h).symm⟩
  | ok found =>
    rw [entryOf, hof] at h
    cases h

/-- With registered languages there is a report, and what it says of the sentences is what these
languages write, unless one of them panics. -/
theorem ofSnapshot_cases (snapshot : Snapshot)
    (hcodes : ∀ code ∈ codes, ∃ g, registry.get code = .ok g ∧ g.code = code) :
    (∃ report, ofSnapshot registry codes snapshot = .ok report ∧
      report.name = snapshot.name ∧ report.revision = snapshot.revision ∧
      report.elements =
        snapshot.elements.map (fun e => ⟨e.id, e.kind.tag, e.words.map Word.pretty⟩) ∧
      (∀ stored ∈ snapshot.sentences, ∀ code ∈ codes,
        Answers (wordingAt registry snapshot stored.2 code)) ∧
      List.Forall₂ (fun stored entry =>
        ReportedSentence.Covers entry stored codes (wordingAt registry snapshot stored.2))
        snapshot.sentences report.sentences) ∨
    ∃ panic, ofSnapshot registry codes snapshot = .error (.grammar panic) ∧
      panic.isPanic = true ∧ ∃ stored ∈ snapshot.sentences, ∃ code ∈ codes,
        wordingAt registry snapshot stored.2 code = .error panic := by
  have : Nonempty ConcreteGrammar := ⟨Language.english⟩
  choose! g hget hcode using hcodes
  let languages :=
    codes.map fun code => (g code, (g code).index snapshot.revision snapshot.elements)
  have hlanguages : (codes.mapM fun code => do
      let g ← (registry.get code).mapError RenderFault.grammar
      return (g, g.index snapshot.revision snapshot.elements)) = .ok languages :=
    mapM_eq_map fun code hmem => by rw [hget code hmem]; rfl
  have hreport : ofSnapshot registry codes snapshot = (do
      let sentences ← snapshot.sentences.mapM (entryOf languages)
      return {
        name := snapshot.name
        revision := snapshot.revision
        elements := snapshot.elements.map fun e => ⟨e.id, e.kind.tag, e.words.map Word.pretty⟩
        sentences }) := by
    rw [ofSnapshot, hlanguages]
    rfl
  have hwording {code : String} (hmem : code ∈ codes) (s : Sentence) :
      wordingAt registry snapshot s code = (g code).linearize
        ((g code).index snapshot.revision snapshot.elements) s.statement s.question := by
    rw [wordingAt, hget code hmem]
    rfl
  rw [hreport]
  cases hsentences : snapshot.sentences.mapM (entryOf languages) with
  | error fault =>
    obtain ⟨stored, hstored, hfault⟩ := exists_of_mapM_error hsentences
    obtain ⟨panic, htexts, rfl⟩ := entryOf_error hfault
    obtain ⟨hpanic, x, hx, hworded⟩ := textsOf_error htexts
    obtain ⟨code, hmem, rfl⟩ := List.mem_map.1 hx
    exact .inr ⟨panic, rfl, hpanic, stored, hstored, code, hmem,
      (hwording hmem stored.2).trans hworded⟩
  | ok entries =>
    refine .inl ⟨_, rfl, rfl, rfl, rfl, (List.forall₂_and_left _ _).1
      ((forall₂_of_mapM_ok hsentences).imp fun stored entry hentry => ?_)⟩
    obtain ⟨texts, htexts, rfl⟩ := entryOf_ok hentry
    refine ⟨fun code hmem => ?_, rfl, rfl, pairwise_textsOf htexts, fun code text => ?_⟩
    · rw [hwording hmem]
      exact answers_of_textsOf htexts _ (List.mem_map_of_mem hmem)
    have hsame : ∀ x ∈ languages, ∀ y ∈ languages, x.1.code = y.1.code → x = y := by
      intro x hx y hy hsame
      obtain ⟨c, hc, rfl⟩ := List.mem_map.1 hx
      obtain ⟨d, hd, rfl⟩ := List.mem_map.1 hy
      obtain rfl : c = d := (hcode c hc).symm.trans (hsame.trans (hcode d hd))
      rfl
    rw [mem_textsOf hsame htexts]
    simp only [languages, List.mem_map, exists_exists_and_eq_and]
    constructor
    · rintro ⟨c, hmem, hsame, htext⟩
      rw [hcode c hmem] at hsame
      subst hsame
      exact ⟨hmem, (hwording hmem stored.2).trans htext⟩
    · rintro ⟨hmem, hworded⟩
      exact ⟨code, hmem, hcode code hmem, (hwording hmem stored.2).symm.trans hworded⟩

theorem read?_print_toJson (report : LexiconReport) :
    Json.read? (report.toJson.print "") = some report.toJson := by
  refine Json.read?_print (.object ?_)
  simp only [List.forall_mem_cons, List.not_mem_nil, false_implies, implies_true, and_true]
  refine ⟨.string _, .number (Json.isNumber_toString _), .array ?_, .array ?_⟩
  · rintro _ hv
    obtain ⟨element, -, rfl⟩ := List.mem_map.1 hv
    refine .object ?_
    simp only [List.forall_mem_cons, List.not_mem_nil, false_implies, implies_true, and_true]
    refine ⟨.number (Json.isNumber_toString _), .string _, .array fun _ hv => ?_⟩
    obtain ⟨word, -, rfl⟩ := List.mem_map.1 hv
    exact .string word
  · rintro _ hv
    obtain ⟨sentence, -, rfl⟩ := List.mem_map.1 hv
    refine .object ?_
    simp only [List.forall_mem_cons, List.not_mem_nil, false_implies, implies_true, and_true]
    refine ⟨.number (Json.isNumber_toString _), .string _, .object fun _ hv => ?_⟩
    obtain ⟨text, -, rfl⟩ := List.mem_map.1 hv
    exact .string text.2

end LexiconReport

end SemanticWiki.Export
