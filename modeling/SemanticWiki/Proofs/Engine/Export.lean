import SemanticWiki.Proofs.Engine.Rendering
import SemanticWiki.Proofs.Engine.Setup
import SemanticWiki.Proofs.Export.Faithfulness
import SemanticWiki.Proofs.Export.LexiconReport

/-! Exports of a wiki. As its words are saved by the lexicon, it can be exported in every format at any
time, unless its base has a fragment. Then no element has a valid identifier, which only the format of
triples insists on. -/

namespace SemanticWiki

open Ontology Exporter

theorem Exporter.lexiconReport_ok {registry : Registry} {languages : List String}
    (hlanguages : ∀ code ∈ languages, code ∈ registry.codes)
    (hsteady : ∀ g ∈ registry.languages, g.Steady) (s : Snapshot) :
    ∃ t, (lexiconReport registry languages).render s = .ok t := by
  have hknown : ∀ code ∈ languages, ∃ g, registry.get code = .ok g ∧ g.code = code := by
    intro code hcode
    obtain ⟨g, hget⟩ := Engine.exists_get (hlanguages code hcode)
    exact ⟨g, hget, Engine.code_of_get hget⟩
  rw [render, Export.LexiconReport.render]
  obtain ⟨report, hreport, -⟩ | ⟨panic, -, hpanic, stored, -, code, hcode, hworded⟩ :=
    Export.LexiconReport.ofSnapshot_cases s hknown
  · exact ⟨_, by rw [hreport]; rfl⟩
  · obtain ⟨g, hget, -⟩ := hknown code hcode
    rw [Export.LexiconReport.wordingAt, hget] at hworded
    cases hpanic.symm.trans (hsteady g (Engine.mem_languages_of_get hget) _ _ _ panic hworded)

namespace Engine

variable {σ : Type} {config : Config} {e : Engine σ} {w : World σ} {registry : Registry}
  {languages : List String} {s : Snapshot}

theorem exists_run (hnamed : s.WellNamed) (hvalid : Iri.check s.baseIri = .ok ())
    (hlanguages : ∀ code ∈ languages, code ∈ registry.codes)
    (hsteady : ∀ g ∈ registry.languages, g.Steady) {x : Exporter}
    (hx : x ∈ builtinExporters registry languages)
    (hplain : x = .nTriples → '#' ∈ s.baseIri.toList → s.elements = []) :
    ∃ t, x.run s = .ok t := by
  suffices hrender : ∃ t, x.render s = .ok t from hrender.imp fun _ => run_ok_iff.2
  cases x with
  | functionalSyntax annotate =>
    obtain ⟨t, ht, -⟩ := Export.FunctionalSyntax.render_ok hnamed annotate
    exact ⟨t, ht⟩
  | owlXml annotate =>
    obtain ⟨t, ht, -⟩ := Export.OwlXml.render_ok hnamed annotate
    exact ⟨t, ht⟩
  | nTriples => exact Export.NTriples.exists_render hvalid hnamed (hplain rfl)
  | lexiconReport registry' languages' =>
    obtain ⟨rfl, rfl⟩ : registry' = registry ∧ languages' = languages := by
      simpa [builtinExporters] using hx
    exact lexiconReport_ok hlanguages hsteady s

theorem find?_builtin {x : Exporter} (hx : x ∈ builtinExporters registry languages) :
    (builtinExporters registry languages).find? (·.name == x.name) = some x := by
  simp only [builtinExporters, List.mem_cons, List.not_mem_nil, or_false] at hx
  rcases hx with rfl | rfl | rfl | rfl | rfl | rfl <;> rfl

theorem baseIri_of_use (memory : σ) (huse : Use registry (e.start e.emptyOntology memory) w) :
    w.ontology.snapshot.baseIri = e.config.baseIri :=
  huse.ontology_induction (p := fun o => o.baseIri = e.config.baseIri)
    (fun _ _ hchange hbase => hchange.baseIri.trans hbase) rfl

theorem run_nTriples (hvalid : Iri.check s.baseIri = .ok ()) (hsign : '#' ∈ s.baseIri.toList)
    (helements : s.elements ≠ []) : ∃ first ∈ s.elements.head?, Exporter.nTriples.run s =
      .error (.render "ntriples"
        (.invalidIri (s.baseIri ++ "#" ++ first.headword) (.invalidCodePoint '#'))) := by
  obtain ⟨first, rest, hfirst⟩ := List.exists_cons_of_ne_nil helements
  refine ⟨first, by rw [hfirst]; rfl, ?_⟩
  rw [Exporter.run, render, Export.NTriples.render_error hvalid hsign hfirst]
  rfl

theorem name_eq_nTriples {x : Exporter} : x.name = "ntriples" ↔ x = .nTriples := by
  rcases x with ⟨_ | _⟩ | ⟨_ | _⟩ | _ | _ <;> simp [Exporter.name]

/-- If the base has a fragment there are no triples as soon as there is an element, and the first element
is to blame. -/
theorem exports_fail_iff (hnew : Engine.new config = .ok e) (memory : σ)
    (huse : Use .builtin (e.start e.emptyOntology memory) w) :
    e.exporters.map (·.name) =
      ["owl-fss", "owl-fss-plain", "owl-xml", "owl-xml-plain", "ntriples", "lexicon-report"] ∧
    ∀ x ∈ e.exporters,
      ((∃ text, e.runExporter w x.name = .ok text) ↔
        ¬ (x.name = "ntriples" ∧ '#' ∈ config.baseIri.toList ∧ w.ontology.elements ≠ [])) ∧
      ∀ error, e.runExporter w x.name = .error error → ∃ first ∈ w.ontology.elements.head?,
        error = .render "ntriples"
          (.invalidIri (config.baseIri ++ "#" ++ first.headword) (.invalidCodePoint '#')) := by
  obtain ⟨hconfig, -, hengine⟩ := init_ok_iff.1 hnew
  have hregistry : e.registry = .builtin := by rw [hengine]
  have hexporters : e.exporters =
      builtinExporters .builtin (visibleLanguages .builtin config.hiddenLanguages) := by
    rw [hengine]
  have hbase : w.ontology.snapshot.baseIri = config.baseIri := by
    rw [baseIri_of_use memory huse, hengine]
  have hvalid := check_baseIri hconfig
  have hready : w.Renderable .builtin :=
    huse.renderable (hregistry ▸ e.renderable_start e.config.name e.config.baseIri memory)
  have hnamed := Snapshot.wellNamed hready.indexed hready.intact hready.checked
  rw [hexporters]
  refine ⟨rfl, fun x hx => ?_⟩
  have hrun : e.runExporter w x.name = x.run w.ontology.snapshot := by
    rw [runExporter, hexporters, find?_builtin hx]
  rw [hrun, name_eq_nTriples, ← hbase]
  rw [← hbase] at hvalid
  by_cases hrefused :
      x = .nTriples ∧ '#' ∈ w.ontology.snapshot.baseIri.toList ∧ w.ontology.elements ≠ []
  · obtain ⟨rfl, hsign, helements⟩ := hrefused
    obtain ⟨first, hfirst, herror⟩ := run_nTriples hvalid hsign helements
    rw [herror]
    refine ⟨⟨?_, fun h => absurd ⟨rfl, hsign, helements⟩ h⟩, ?_⟩
    · rintro ⟨text, ⟨⟩⟩
    · rintro error ⟨⟩
      exact ⟨first, hfirst, rfl⟩
  · have hplain : x = .nTriples → '#' ∈ w.ontology.snapshot.baseIri.toList →
        w.ontology.snapshot.elements = [] :=
      fun hx hsign => by_contra fun helements => hrefused ⟨hx, hsign, helements⟩
    obtain ⟨text, htext⟩ :=
      exists_run hnamed hvalid (fun _ hcode => (mem_visibleLanguages.1 hcode).1)
        (fun _ hg => (Registry.isBuiltin_of_mem hg).steady) hx hplain
    rw [htext]
    refine ⟨⟨fun _ => hrefused, fun _ => ⟨text, rfl⟩⟩, ?_⟩
    rintro error ⟨⟩

/-! A wiki in which one noun has been named. -/

section Kept

variable (baseIri : String)

def kept : Engine Unit where
  config := { baseIri }
  registry := .builtin
  languages := visibleLanguages .builtin []
  reasoner := .ofBackend (.saturation Reason.defaultBudget)
  exporters := builtinExporters .builtin (visibleLanguages .builtin [])

def keptStart : World Unit := (kept baseIri).start (kept baseIri).emptyOntology ()

def dogKept : World Unit := nameNoun dog "dog" "dogs" (createElement (keptStart baseIri) "noun").2

theorem use_dogKept : Use .builtin (keptStart baseIri) (dogKept baseIri) :=
  let named : Action := .saveWords .concept (.fresh dog .concept) 0 [.word "dog", .word "dogs"]
  Use.unreasoning (Use.unreasoning (.refl _) (.createElement "noun") rfl) named rfl

theorem new_kept (hvalid : ({ baseIri } : Config).validate = .ok ()) :
    Engine.new { baseIri } = .ok (kept baseIri) := by
  have hdefault : "en" ∈ visibleLanguages Registry.builtin [] :=
    mem_visibleLanguages.2 ⟨by decide, List.not_mem_nil⟩
  exact init_ok_iff.2 ⟨hvalid, fun _ => hdefault, rfl⟩

end Kept

theorem dog_exported : ∃ texts, (kept "http://example.org/wiki").exporters.mapM (fun x =>
    (kept "http://example.org/wiki").runExporter (dogKept "http://example.org/wiki") x.name) =
      .ok texts := by
  have hplain : '#' ∉ "http://example.org/wiki".toList := by decide +kernel
  obtain ⟨-, hexports⟩ := exports_fail_iff (new_kept "http://example.org/wiki" (by decide +kernel)) ()
    (use_dogKept "http://example.org/wiki")
  refine exists_mapM_ok fun x hx => (hexports x hx).1.2 ?_
  rintro ⟨-, hsign, -⟩
  exact hplain hsign

theorem signed_base_without_triples :
    ({ baseIri := "http://example.org/wiki#" } : Config).validate = .ok () ∧
      Engine.new { baseIri := "http://example.org/wiki#" } = .ok (kept "http://example.org/wiki#") ∧
      Use .builtin (keptStart "http://example.org/wiki#") (dogKept "http://example.org/wiki#") ∧
      (kept "http://example.org/wiki#").runExporter (dogKept "http://example.org/wiki#") "ntriples" =
        .error (.render "ntriples"
          (.invalidIri "http://example.org/wiki##dog" (.invalidCodePoint '#'))) := by
  have hvalid : ({ baseIri := "http://example.org/wiki#" } : Config).validate = .ok () := by
    decide +kernel
  exact ⟨hvalid, new_kept _ hvalid, use_dogKept _, by decide +kernel⟩

end Engine

end SemanticWiki
