import SemanticWiki.Proofs.Engine.ParsedSentences
import SemanticWiki.Proofs.Engine.Setup
import SemanticWiki.Proofs.Sentence.Storage

/-! Sentences of a wiki that are stored and brought back. A wiki makes sentences in any language that is
registered, and a language may be registered under any code. Storage forms can only be read with codes
of basic letters, digits and hyphens, so what decides whether a sentence can be brought back is the
code of its language. -/

namespace SemanticWiki.Engine

open Ontology Sentence

variable {e : Engine (List Consultation)} {w v : RecordedWorld} {s : Sentence}

theorem createSentence_ok_iff {stored : String} : e.createSentence v stored = .ok s ↔
    restore stored = .ok s ∧ (∃ g, e.registry.get s.language = .ok g) ∧
      ∃ construct, v.ontology.validate s = .ok construct := by
  unfold createSentence
  constructor
  · intro h
    obtain ⟨s', hrestore, h⟩ := bind_ok h
    obtain ⟨g, hget, h⟩ := bind_ok h
    obtain ⟨construct, hvalid, h⟩ := bind_ok h
    obtain rfl := Except.ok.inj h
    exact ⟨hrestore, ⟨g, hget⟩, construct, hvalid⟩
  · rintro ⟨hrestore, ⟨g, hget⟩, construct, hvalid⟩
    rw [hrestore]
    change (e.registry.get s.language >>= _) = _
    rw [hget]
    change (v.ontology.validate s >>= _) = _
    rw [hvalid]
    rfl

theorem createSentence_store_iff (hregistered : s.language ∈ e.registry.codes)
    (hvalid : ∃ construct, v.ontology.validate s = .ok construct) :
    e.createSentence v s.store = .ok s ↔ IsCode s.language := by
  rw [createSentence_ok_iff]
  constructor
  · rintro ⟨hrestore, -, -⟩
    exact isCode_of_restore hrestore
  · intro hcode
    exact ⟨restore_store hcode, exists_get hregistered, hvalid⟩

theorem language_of_parse (hstaffed : w.Staffed e.registry) {code text : String}
    (h : (e.parse w code text).1 = .ok s) : s.language = code ∧ code ∈ e.registry.codes := by
  obtain ⟨g, hg, rfl, hread⟩ := parse_ok hstaffed h
  obtain ⟨reading, -, rfl⟩ := ConcreteGrammar.parseNow_ok hread
  exact ⟨rfl, List.mem_map_of_mem hg⟩

theorem checkedAssertion_ok {statement : Statement} (h : e.checkedAssertion w statement = .ok s) :
    s = assertion statement e.config.defaultLanguage ∧
      ∃ construct, w.ontology.validate s = .ok construct := by
  unfold checkedAssertion at h
  obtain ⟨construct, hvalid, h⟩ := bind_ok h
  obtain rfl := Except.ok.inj h
  exact ⟨rfl, construct, hvalid⟩

theorem restored_iff_coded {config : Config} {registry : Registry}
    {reasoner : Reasoner (List Consultation)}
    (hinit : init config registry reasoner = .ok e)
    (hbuiltin : ∀ g ∈ registry.languages, g.IsBuiltin) (hoffered : e.languages ≠ [])
    (name baseIri : String) (operations : List Operation)
    (hcourse : e.Course (e.start ((Ontology.new name baseIri).run operations) []) w) :
    (∀ code text s, (e.parse w code text).1 = .ok s →
      ∀ v, e.Course (e.parse w code text).2 v → v.ontology.revision = w.ontology.revision →
        (e.createSentence v s.store = .ok s ↔ IsCode code)) ∧
    ∀ statement s, e.checkedAssertion w statement = .ok s →
      ∀ v, e.Course w v → v.ontology.revision = w.ontology.revision →
        (e.createSentence v s.store = .ok s ↔ IsCode config.defaultLanguage) := by
  obtain ⟨-, hdefault, hengine⟩ := init_ok_iff.1 hinit
  have hregistry : e.registry = registry := by rw [hengine]
  have hstaffed : w.Staffed e.registry := hcourse.staffed (e.staffed_start _ [])
  constructor
  · intro code text s hparse v hlater hrevision
    have hindexed : Indexed w.ontology := by
      have hrun : Indexed ((Ontology.new name baseIri).run operations) :=
        run_induction (fun _ _ hchange => hchange.indexed) (indexed_new name baseIri) operations
      exact hcourse.passage.ontology_induction (fun _ _ hchange => hchange.indexed) hrun
    have hvalid : ∃ construct, w.ontology.validate s = .ok construct :=
      validate_of_parse (hregistry ▸ hbuiltin) hindexed hstaffed hparse
    have hsame : (e.parse w code text).2.ontology = w.ontology :=
      e.ontology_withHandler w code fun h o => h.parse o text
    have hprecedes := hlater.passage.precedes
    rw [hsame] at hprecedes
    rw [← hprecedes.validate_eq hrevision] at hvalid
    obtain ⟨rfl, hregistered⟩ := language_of_parse hstaffed hparse
    exact createSentence_store_iff hregistered hvalid
  · intro statement s hchecked v hlater hrevision
    obtain ⟨hs, hvalid⟩ := checkedAssertion_ok hchecked
    have hlanguage : s.language = config.defaultLanguage := by rw [hs, hengine]; rfl
    have hregistered : s.language ∈ e.registry.codes := by
      have hvisible : config.defaultLanguage ∈ e.languages := hdefault hoffered
      rw [hengine] at hvisible
      rw [hlanguage, hregistry]
      exact (mem_visibleLanguages.1 hvisible).1
    rw [← hlater.passage.precedes.validate_eq hrevision] at hvalid
    rw [← hlanguage]
    exact createSentence_store_iff hregistered hvalid

/-! A wiki that offers English only, registered for a country, in which two nouns are named. -/

def national (code : String) : Language := Language.english.renamed code "English (US)"

def nationalConfig (code : String) : Config :=
  { defaultLanguage := code, hiddenLanguages := Registry.builtin.codes }

def nationalEngine (code : String) : Engine (List Consultation) where
  config := nationalConfig code
  registry := Registry.builtin.register (national code)
  languages := [code]
  reasoner := approving.reasoner
  exporters := builtinExporters (Registry.builtin.register (national code)) [code]

def nationalStart (code : String) : RecordedWorld :=
  (nationalEngine code).start ((Ontology.new "wiki" "http://example.org/").run birdAndBeing) []

section National

variable {code : String} (hnew : code ∉ Registry.builtin.codes)
include hnew

theorem languages_register_national : (Registry.builtin.register (national code)).languages =
    Registry.builtin.languages ++ [(national code).toGrammar] := by
  have hcodes : "en" ≠ code ∧ "de" ≠ code ∧ "es" ≠ code := by
    refine ⟨?_, ?_, ?_⟩ <;> rintro rfl <;> exact hnew (by decide)
  have hother : ∀ b : Language, b.code ≠ code → ¬ b.toGrammar.code = (national code).toGrammar.code :=
    fun _ h => h
  have henglish := hother .english hcodes.1
  have hgerman := hother .german hcodes.2.1
  have hspanish := hother .spanish hcodes.2.2
  have hbuiltin : Registry.builtin = ⟨[Language.english.toGrammar, Language.german.toGrammar,
      Language.spanish.toGrammar]⟩ := rfl
  rw [Registry.register, Registry.add, hbuiltin, Registry.put, if_neg henglish, Registry.put,
    if_neg hgerman, Registry.put, if_neg hspanish, Registry.put]
  rfl

theorem builtin_national :
    ∀ g ∈ (Registry.builtin.register (national code)).languages, g.IsBuiltin := by
  intro g hg
  rw [languages_register_national hnew, List.mem_append, List.mem_singleton] at hg
  rcases hg with hg | rfl
  · exact Registry.isBuiltin_of_mem hg
  · exact ⟨national code, ⟨.english, by decide, code, "English (US)", rfl⟩, rfl⟩

theorem init_national (hvalid : (nationalConfig code).validate = .ok ()) :
    init (nationalConfig code) (Registry.builtin.register (national code)) approving.reasoner =
      .ok (nationalEngine code) := by
  have hhidden : Registry.builtin.languages.filter (!Registry.builtin.codes.contains ·.code) = [] := by
    rfl
  have hoffered : [(national code).toGrammar].filter (!Registry.builtin.codes.contains ·.code) =
      [(national code).toGrammar] := by
    simpa [national, Language.renamed, Language.toGrammar] using hnew
  have hvisible : visibleLanguages (Registry.builtin.register (national code))
      Registry.builtin.codes = [code] := by
    rw [visibleLanguages, languages_register_national hnew, List.filter_append, hhidden, hoffered,
      List.nil_append, List.mergeSort_singleton]
    rfl
  rw [init_ok_iff, nationalConfig, hvisible]
  exact ⟨hvalid, fun _ => List.mem_singleton_self code, rfl⟩

end National

theorem hyphenated_code_restored :
    let w := nationalStart "en-US"
    let s := Sentence.assertion (.subsumption bird being) "en-US"
    ((nationalEngine "en-US").parse w "en-US" "Every bird is a being.").1 = .ok s ∧
      (nationalEngine "en-US").createSentence
        ((nationalEngine "en-US").parse w "en-US" "Every bird is a being.").2 s.store = .ok s ∧
      (nationalEngine "en-US").checkedAssertion w (.subsumption bird being) = .ok s ∧
      (nationalEngine "en-US").createSentence w s.store = .ok s := by
  intro w s
  have hnew : "en-US" ∉ Registry.builtin.codes := by decide
  have hcode : IsCode "en-US" := ⟨by decide, List.all_eq_true.1 (by decide +kernel)⟩
  obtain ⟨hread, hbuilt⟩ := restored_iff_coded (init_national hnew (by decide +kernel))
    (builtin_national hnew) (List.cons_ne_nil _ _) "wiki" "http://example.org/" birdAndBeing
    (.refl w)
  have hparse :
      ((nationalEngine "en-US").parse w "en-US" "Every bird is a being.").1 = .ok s := by
    decide +kernel
  have hchecked :
      (nationalEngine "en-US").checkedAssertion w (.subsumption bird being) = .ok s := by
    decide +kernel
  exact ⟨hparse, (hread _ _ s hparse _ (.refl _) rfl).2 hcode, hchecked,
    (hbuilt _ s hchecked w (.refl w) rfl).2 hcode⟩

theorem underscored_code_not_restored :
    let w := nationalStart "en_US"
    let s := Sentence.assertion (.subsumption bird being) "en_US"
    init (nationalConfig "en_US") (Registry.builtin.register (national "en_US"))
        approving.reasoner = .ok (nationalEngine "en_US") ∧
      (∀ g ∈ (Registry.builtin.register (national "en_US")).languages, g.IsBuiltin) ∧
      ((nationalEngine "en_US").parse w "en_US" "Every bird is a being.").1 = .ok s ∧
      (nationalEngine "en_US").checkedAssertion w (.subsumption bird being) = .ok s ∧
      s.store = "en_US (every 1 2)" ∧
      (nationalEngine "en_US").createSentence
          ((nationalEngine "en_US").parse w "en_US" "Every bird is a being.").2 s.store =
        .error (.malformedStorage "en_US (every 1 2)" .invalidLanguage) ∧
      (nationalEngine "en_US").createSentence w s.store =
        .error (.malformedStorage "en_US (every 1 2)" .invalidLanguage) := by
  intro w s
  have hnew : "en_US" ∉ Registry.builtin.codes := by decide
  refine ⟨init_national hnew (by decide +kernel), builtin_national hnew, ?_⟩
  decide +kernel

end SemanticWiki.Engine
