import SemanticWiki.Proofs.Engine.Export
import SemanticWiki.Proofs.Engine.ParsedSentences
import SemanticWiki.Proofs.Export.LexiconReport
import SemanticWiki.Proofs.Grammar.Registry

/-! The lexicon report of a wiki. It is made from a snapshot, with indexes of its own, while the wiki
translates with handlers that keep theirs. Both write what the languages would write by the words that
the ontology has, so the report shows a sentence as the wiki does. -/

namespace SemanticWiki.Engine

open Ontology

variable {σ : Type} {e : Engine σ} {w : World σ}

theorem translate_eq_wordingAt (hstaffed : w.Staffed e.registry)
    (hcodes : e.registry.codes.Nodup) {code : String} (hcode : code ∈ e.registry.codes)
    (s : Sentence) :
    (e.translate w s code).1 =
      Export.LexiconReport.wordingAt e.registry w.ontology.snapshot s code := by
  obtain ⟨h, hhandler⟩ := exists_handler (w := w) hcode
  obtain ⟨g, hget⟩ := exists_get hcode
  obtain ⟨hlanguage, -⟩ := handler_fresh hstaffed hhandler
  -- the handler has been made for the code, and codes tell the languages apart
  have hsame : h.language = g :=
    Registry.eq_of_code_eq hcodes hlanguage (mem_languages_of_get hget)
      ((handler_code hhandler).trans (code_of_get hget).symm)
  rw [translate_eq hstaffed hhandler, hsame, Export.LexiconReport.wordingAt, hget]
  rfl

theorem runExporter_lexiconReport
    (hexporters : e.exporters = builtinExporters e.registry e.languages) :
    e.runExporter w "lexicon-report" =
      match Export.LexiconReport.ofSnapshot e.registry e.languages w.ontology.snapshot with
      | .ok report => .ok (report.toJson.print "")
      | .error fault => .error (.render "lexicon-report" fault) := by
  have hfind : e.exporters.find? (·.name == "lexicon-report") =
      some (.lexiconReport e.registry e.languages) := by
    rw [hexporters]
    exact find?_builtin (x := .lexiconReport e.registry e.languages) (by simp [builtinExporters])
  rw [runExporter, hfind]
  change (Export.LexiconReport.render _ _ _).mapError _ = _
  rw [Export.LexiconReport.render]
  cases Export.LexiconReport.ofSnapshot e.registry e.languages w.ontology.snapshot <;> rfl

/-- What is read of a stored sentence: its number, its storage form, and its text in each of the
languages that have one, by ascending codes. -/
def ShownAs (stored : SentenceId × Sentence) (languages : List String)
    (wording : String → Except GrammarError String) (entry : JsonValue) : Prop :=
  ∃ texts : List (String × String), entry = .object [
      ("id", .number (toString stored.1.val)),
      ("serialized", .string stored.2.store),
      ("text", .object (texts.map fun (code, text) => (code, .string text)))] ∧
    texts.Pairwise (·.1 < ·.1) ∧
    ∀ code text, (code, text) ∈ texts ↔ code ∈ languages ∧ wording code = .ok text

/-- There is a report unless a visible language panics at a stored sentence, as the wiki itself would. -/
theorem lexicon_report_agrees (grammars : List ConcreteGrammar) (config : Config)
    (reasoner : Reasoner (List Consultation)) (e : Engine (List Consultation))
    (hinit : init config (Registry.ofLanguages grammars) reasoner = .ok e) (name baseIri : String)
    (operations : List Operation) (w : RecordedWorld)
    (hcourse : e.Course (e.start ((Ontology.new name baseIri).run operations) []) w) :
    ((∃ text, e.runExporter w "lexicon-report" = .ok text) ↔
      ∀ stored ∈ w.ontology.sentences, ∀ code ∈ e.languages,
        Answers (e.translate w stored.2 code).1) ∧
    (∀ error, e.runExporter w "lexicon-report" = .error error →
      ∃ panic, error = .render "lexicon-report" (.grammar panic) ∧ panic.isPanic = true ∧
        ∃ stored ∈ w.ontology.sentences, ∃ code ∈ e.languages,
          (e.translate w stored.2 code).1 = .error panic) ∧
    Ascending w.ontology.elements ∧ Sequenced w.ontology ∧
    ∀ text, e.runExporter w "lexicon-report" = .ok text →
      ∃ sentences, Json.read? text = some (.object [
          ("name", .string w.ontology.name),
          ("revision", .number (toString w.ontology.revision)),
          ("elements", .array (w.ontology.elements.map fun element => .object [
            ("id", .number (toString element.id.val)),
            ("type", .string element.kind.tag),
            ("words", .array (((element.values.filterMap Value.word?).filter (· ≠ "")).map
              fun word => .string (Word.pretty word)))])),
          ("sentences", .array sentences)]) ∧
        List.Forall₂ (fun stored entry =>
          ShownAs stored e.languages (fun code => (e.translate w stored.2 code).1) entry)
          w.ontology.sentences sentences := by
  obtain ⟨-, -, hengine⟩ := init_ok_iff.1 hinit
  have hregistry : e.registry = Registry.ofLanguages grammars := by rw [hengine]
  have hlanguages : e.languages = visibleLanguages e.registry config.hiddenLanguages := by
    rw [hengine]
  have hexporters : e.exporters = builtinExporters e.registry e.languages := by rw [hengine]
  have hcodes : e.registry.codes.Nodup := hregistry ▸ Registry.nodup_codes_ofLanguages grammars
  have hvisible : ∀ code ∈ e.languages, code ∈ e.registry.codes := by
    intro code hcode
    rw [hlanguages] at hcode
    exact (mem_visibleLanguages.1 hcode).1
  have hstaffed : w.Staffed e.registry := hcourse.staffed (e.staffed_start _ [])
  have hindexed : Indexed w.ontology :=
    hcourse.ontology_induction (fun _ _ hchange => hchange.indexed) (indexed_new name baseIri)
  have hsequenced : Sequenced w.ontology :=
    hcourse.ontology_induction (fun _ _ hchange => hchange.sequenced) (sequenced_new name baseIri)
  have hknown : ∀ code ∈ e.languages, ∃ g, e.registry.get code = .ok g ∧ g.code = code := by
    intro code hcode
    obtain ⟨g, hget⟩ := exists_get (hvisible code hcode)
    exact ⟨g, hget, code_of_get hget⟩
  have htranslate (s : Sentence) {code : String} (hcode : code ∈ e.languages) :=
    translate_eq_wordingAt hstaffed hcodes (hvisible code hcode) s
  have hrun := runExporter_lexiconReport (w := w) hexporters
  obtain ⟨report, hreport, hname, hrevision, helements, hanswers, hsentences⟩ |
    ⟨panic, hreport, hpanic, stored, hstored, code, hcode, hworded⟩ :=
      Export.LexiconReport.ofSnapshot_cases w.ontology.snapshot hknown
  · rw [hreport] at hrun
    refine ⟨⟨fun _ stored hstored code hcode => ?_, fun _ => ⟨_, hrun⟩⟩, fun error herror => ?_,
      hindexed.ascending, hsequenced, fun text htext => ?_⟩
    · exact htranslate stored.2 hcode ▸ hanswers stored hstored code hcode
    · cases hrun.symm.trans herror
    obtain rfl := Except.ok.inj (hrun.symm.trans htext)
    refine ⟨report.sentences.map Export.ReportedSentence.toJson, ?_, ?_⟩
    · rw [Export.LexiconReport.read?_print_toJson, Export.LexiconReport.toJson, hname, hrevision,
        helements, List.map_map]
      simp only [Function.comp_def, Export.ReportedElement.toJson, Element.words_eq_filter,
        List.map_map]
      rfl
    · refine List.forall₂_map_right_iff.2 (hsentences.imp fun stored entry hcovers => ?_)
      refine ⟨entry.texts, ?_, hcovers.ascending, fun code text => ?_⟩
      · rw [Export.ReportedSentence.toJson, hcovers.id, hcovers.stored]
      · rw [hcovers.texts code text]
        exact and_congr_right fun hcode =>
          iff_of_eq (congrArg (· = .ok text) (htranslate stored.2 hcode).symm)
  · rw [hreport] at hrun
    have hfails := (htranslate stored.2 hcode).trans hworded
    refine ⟨⟨?_, fun hanswers => ?_⟩, fun error herror => ?_, hindexed.ascending, hsequenced, ?_⟩
    · rintro ⟨text, htext⟩
      cases hrun.symm.trans htext
    · cases hpanic.symm.trans (hanswers stored hstored code hcode panic hfails)
    · obtain rfl := Except.error.inj (hrun.symm.trans herror)
      exact ⟨panic, rfl, hpanic, stored, hstored, code, hcode, hfails⟩
    · intro text htext
      cases hrun.symm.trans htext

/-! A wiki that offers English, German and a language without any rule. Its two nouns are the ones of a
sentence, which it has written in English before one of the nouns is renamed. -/

def mute : Language := { Language.german with code := "xx", name := "Mute", rules := [] }

def offered : List ConcreteGrammar := [Language.german, Language.english, Language.spanish, mute]

def reporting : Engine (List Consultation) where
  config := { hiddenLanguages := ["es"] }
  registry := .ofLanguages offered
  languages := ["de", "en", "xx"]
  reasoner := approving.reasoner
  exporters := builtinExporters (.ofLanguages offered) ["de", "en", "xx"]

theorem init_reporting : init { hiddenLanguages := ["es"] } (.ofLanguages offered)
    approving.reasoner = .ok reporting := by
  have hvisible : visibleLanguages (.ofLanguages offered) ["es"] = ["de", "en", "xx"] := by
    have hoffered : (Registry.ofLanguages offered).languages.filter
        (fun g => !(["es"].contains g.code)) =
          [Language.german.toGrammar, Language.english.toGrammar, mute.toGrammar] := rfl
    rw [visibleLanguages, hoffered, List.mergeSort_of_pairwise (by decide +kernel)]
    rfl
  rw [init_ok_iff, hvisible]
  exact ⟨by decide +kernel, fun _ => by decide, rfl⟩

def reportingStart : RecordedWorld :=
  reporting.start ((Ontology.new "wiki" "http://example.org/").run birdAndBeing) []

def birdTranslated : RecordedWorld :=
  (reporting.translate ((reporting.among 3 (fun _ _ => .ok true) nothingMeanwhile).addSentence
    reportingStart everyBirdIsABeing).2 everyBirdIsABeing "en").2

def birdRenamed : RecordedWorld :=
  (saveWords .concept birdTranslated ⟨bird, .concept, [.word "bird", .word "birds"]⟩ 0
    [.word "fowl", .word "fowls"]).2.2

theorem renamed_noun_reported : ∃ (text : String) (elements : JsonValue)
    (texts : List (String × String)),
    reporting.runExporter birdRenamed "lexicon-report" = .ok text ∧
    Json.read? text = some (.object [
      ("name", .string "wiki"), ("revision", .number "4"), ("elements", elements),
      ("sentences", .array [.object [("id", .number "1"), ("serialized", .string "en (every 1 2)"),
        ("text", .object (texts.map fun (code, text) => (code, .string text)))]])]) ∧
    ("en", "Every fowl is a being.") ∈ texts ∧ ("de", "Jeder Fowl ist ein Being.") ∈ texts ∧
    ∀ text, ("xx", text) ∉ texts := by
  let saving : Action := .saveWords .concept ⟨bird, .concept, [.word "bird", .word "birds"]⟩ 0
    [.word "fowl", .word "fowls"]
  have hcourse : reporting.Course reportingStart birdRenamed :=
    Course.alone (Course.alone (Course.alone (.refl _) (.addSentence everyBirdIsABeing))
      (.translate everyBirdIsABeing "en")) saving
  obtain ⟨⟨-, hmade⟩, -, -, -, hreport⟩ := lexicon_report_agrees
    offered { hiddenLanguages := ["es"] } approving.reasoner reporting
    init_reporting "wiki" "http://example.org/" birdAndBeing birdRenamed hcourse
  have hname : birdRenamed.ontology.name = "wiki" := by decide +kernel
  have hrevision : birdRenamed.ontology.revision = 4 := by decide +kernel
  have hstored : birdRenamed.ontology.sentences = [(⟨.first⟩, everyBirdIsABeing)] := by
    decide +kernel
  have henglish : (reporting.translate birdRenamed everyBirdIsABeing "en").1 =
      .ok "Every fowl is a being." := by decide +kernel
  have hgerman : (reporting.translate birdRenamed everyBirdIsABeing "de").1 =
      .ok "Jeder Fowl ist ein Being." := by decide +kernel
  have hmute : (reporting.translate birdRenamed everyBirdIsABeing "xx").1 =
      .error (.linearizationFailed .nounSg "xx" (.noRule .subsumption false)) := by decide +kernel
  rw [hstored] at hreport hmade
  have hanswers : ∀ code ∈ reporting.languages,
      Answers (reporting.translate birdRenamed everyBirdIsABeing code).1 := by
    intro code hcode
    have hcodes : code = "de" ∨ code = "en" ∨ code = "xx" := by simpa [reporting] using hcode
    rcases hcodes with rfl | rfl | rfl
    · exact hgerman ▸ answers_ok _
    · exact henglish ▸ answers_ok _
    · exact hmute ▸ answers_error rfl
  obtain ⟨text, htext⟩ := hmade fun stored hmem => (List.mem_singleton.1 hmem) ▸ hanswers
  obtain ⟨sentences, hread, hshown⟩ := hreport text htext
  obtain ⟨entry, rest, ⟨texts, rfl, -, htexts⟩, hrest, rfl⟩ := List.forall₂_cons_left_iff.1 hshown
  obtain rfl := List.forall₂_nil_left_iff.1 hrest
  rw [hname, hrevision] at hread
  refine ⟨text, _, texts, htext, hread, ?_, ?_, fun text hmem => ?_⟩
  · exact (htexts _ _).2 ⟨by decide, henglish⟩
  · exact (htexts _ _).2 ⟨by decide, hgerman⟩
  · cases hmute.symm.trans ((htexts _ _).1 hmem).2

end SemanticWiki.Engine
