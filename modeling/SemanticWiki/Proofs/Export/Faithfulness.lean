import SemanticWiki.Export
import SemanticWiki.Proofs.Export.FunctionalSyntax
import SemanticWiki.Proofs.Export.NTriples
import SemanticWiki.Proofs.Export.OwlXml

/-! Exports as records of what is stated. Two snapshots with the same elements are exported alike exactly
if the same is stated in them, and in the same order. -/

namespace SemanticWiki

open Ontology

namespace Exporter

variable {x : Exporter} {s s' : Snapshot}

def logical : List Exporter :=
  [.functionalSyntax true, .functionalSyntax false, .owlXml true, .owlXml false, .nTriples]

theorem run_ok_iff {t : String} : x.run s = .ok t ↔ x.render s = .ok t := by
  unfold run
  cases x.render s with
  | ok _ => simp [Except.mapError]
  | error _ => simp [Except.mapError]

theorem run_eq_of_axioms_eq (hx : x ∈ logical) (hbase : s'.baseIri = s.baseIri)
    (helements : s'.elements = s.elements) (haxioms : s'.axioms = s.axioms) :
    x.run s' = x.run s := by
  have hrender : x.render s' = x.render s := by
    cases x with
    | functionalSyntax annotate =>
      exact Export.FunctionalSyntax.render_eq_of_axioms_eq hbase helements haxioms
    | owlXml annotate => exact Export.OwlXml.render_eq_of_axioms_eq hbase helements haxioms
    | nTriples => exact Export.NTriples.render_eq_of_axioms_eq hbase helements haxioms
    | lexiconReport registry languages => simp [logical] at hx
  rw [run, run, hrender]

theorem axioms_eq_of_run_eq (hx : x ∈ logical) (hbase : s'.baseIri = s.baseIri)
    (helements : s'.elements = s.elements) (hnamed : s.WellNamed) (hnamed' : s'.WellNamed) {t : String}
    (ht : x.run s = .ok t) (ht' : x.run s' = .ok t) : s'.axioms = s.axioms := by
  rw [run_ok_iff] at ht ht'
  cases x with
  | functionalSyntax annotate =>
    exact Export.FunctionalSyntax.axioms_eq_of_render_eq hbase helements hnamed hnamed'
      (ht'.trans ht.symm)
  | owlXml annotate =>
    exact Export.OwlXml.axioms_eq_of_render_eq hbase helements hnamed hnamed' (ht'.trans ht.symm)
  | nTriples => exact Export.NTriples.axioms_eq_of_render_eq hbase helements hnamed hnamed' ht ht'
  | lexiconReport registry languages => simp [logical] at hx

end Exporter

namespace Snapshot

theorem axioms_filter_stated (s : Snapshot) :
    ({ s with sentences := s.sentences.filter (!·.2.question) } : Snapshot).axioms = s.axioms := by
  rw [axioms, axioms, List.filter_filter]
  simp only [Bool.and_self]

theorem wellNamed_edited (name baseIri : String) (edits : List Lexicon.Edit) :
    ((new name baseIri).edited edits).snapshot.WellNamed := by
  have hnew := maintained_new name baseIri
  have hmaintained := hnew.edited edits
  have hintact := hnew.edited_induction (fun _ _ hchange => hchange.intact)
    (intact_new name baseIri) edits
  exact wellNamed hmaintained.indexed hintact hmaintained.checked

end Snapshot

namespace Exporter

/-- Questions do not show in the logical exports. -/
theorem logical_exports_faithful : ∀ x ∈ logical,
    (∀ s : Snapshot, x.run { s with sentences := s.sentences.filter (!·.2.question) } = x.run s) ∧
    ∀ name baseIri edits name' baseIri' edits',
      let s := ((new name baseIri).edited edits).snapshot
      let s' := ((new name' baseIri').edited edits').snapshot
      s.sentences.Pairwise (·.1.val < ·.1.val) ∧
      (s'.baseIri = s.baseIri → s'.elements = s.elements →
        ∀ t t', x.run s = .ok t → x.run s' = .ok t' → (t' = t ↔ s'.axioms = s.axioms)) := by
  intro x hx
  refine ⟨fun s => run_eq_of_axioms_eq hx rfl rfl s.axioms_filter_stated, ?_⟩
  intro name baseIri edits name' baseIri' edits' s s'
  have hsequenced : Sequenced ((new name baseIri).edited edits) :=
    (maintained_new name baseIri).edited_induction (fun _ _ hchange => hchange.sequenced)
      List.Pairwise.nil edits
  refine ⟨hsequenced, fun hbase helements t t' ht ht' => ⟨?_, ?_⟩⟩
  · rintro rfl
    exact axioms_eq_of_run_eq hx hbase helements (Snapshot.wellNamed_edited name baseIri edits)
      (Snapshot.wellNamed_edited name' baseIri' edits') ht ht'
  · intro haxioms
    rw [run_eq_of_axioms_eq hx hbase helements haxioms, ht] at ht'
    exact (Except.ok.inj ht').symm

/-! Two nouns, and the sentence that things of one are things of the other. -/

def dog : ElementId := ⟨.first⟩
def animal : ElementId := ⟨dog.toSerial.succ⟩

def ranking (sub sup : ElementId) : List Lexicon.Edit := [
  .save .concept (.fresh dog .concept) 0 [.word "dog", .word "dogs"],
  .save .concept (.fresh animal .concept) 0 [.word "animal", .word "animals"],
  .addSentenceIf (.assertion (.subsumption sub sup) "en") none]

def ranked (sub sup : ElementId) : Snapshot :=
  ((new "wiki" "http://example.org/wiki").edited (ranking sub sup)).snapshot

theorem narrower_noun_shows : ∃ texts,
    logical.mapM (fun x => return (← x.run (ranked dog animal), ← x.run (ranked animal dog))) =
      .ok texts ∧ List.Forall₂ (fun _ (t, t') => t' ≠ t) logical texts := by
  have hruns : ∀ x ∈ logical, (x.run (ranked dog animal)).toOption.isSome = true ∧
      (x.run (ranked animal dog)).toOption.isSome = true := by
    decide +kernel
  have hsame : (ranked animal dog).elements = (ranked dog animal).elements := by decide +kernel
  have hdifferent : (ranked animal dog).axioms ≠ (ranked dog animal).axioms := by decide +kernel
  have hrun_ok {x : Exporter} {s : Snapshot} (h : (x.run s).toOption.isSome = true) :
      ∃ t, x.run s = .ok t := by
    cases hrun : x.run s with
    | ok t => exact ⟨t, rfl⟩
    | error error => simp [hrun, Except.toOption] at h
  refine mapM_ok fun x hx => ?_
  obtain ⟨t, ht⟩ := hrun_ok (hruns x hx).1
  obtain ⟨t', ht'⟩ := hrun_ok (hruns x hx).2
  obtain ⟨-, hexports⟩ := logical_exports_faithful x hx
  obtain ⟨-, htexts⟩ := hexports "wiki" "http://example.org/wiki" (ranking dog animal)
    "wiki" "http://example.org/wiki" (ranking animal dog)
  have htext := htexts (by decide +kernel) hsame t t' ht ht'
  exact ⟨(t, t'), by rw [ht, ht']; rfl, fun h => hdifferent (htext.1 h)⟩

end Exporter

end SemanticWiki
