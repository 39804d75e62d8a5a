import Mathlib.Data.List.Basic
import SemanticWiki.Proofs.Engine.Course

/-! Verdicts that still apply. A report gives the revision of the axioms that the reasoner was shown.
The revision tells the states of an ontology apart, so whoever finds it unchanged knows that the
verdict is about the axioms as they are. -/

namespace SemanticWiki.Engine

open Ontology

/-- A report stays current if and only if nothing changes but numbers that are handed out. -/
theorem revision_identifies_state (e : Engine (List Consultation)) (name baseIri : String)
    (operations : List Operation) :
    let moment (i : Nat) := (Ontology.new name baseIri).run (operations.take i)
    (∀ i j, i ≤ j → (moment i).revision ≤ (moment j).revision) ∧
    (∀ i j, (moment i).revision = (moment j).revision →
      (moment i).elements = (moment j).elements ∧ (moment i).words = (moment j).words ∧
        (moment i).sentences = (moment j).sentences) ∧
    ∀ (w : RecordedWorld) (attempts : Nat)
      (answer : Query → RecordedWorld → Except ReasonError Bool)
      (meanwhile : Query → RecordedWorld → RecordedWorld) (report : ConsistencyReport),
      (∀ query v, e.Course v (meanwhile query v)) →
      let checked := (e.among attempts answer meanwhile).checkConsistency w
      checked.1 = .ok report → ∀ w', e.Course checked.2 w' →
        (isCurrent w' report = true ↔
          ∃ allocator, w'.ontology = { w.ontology with allocator }) ∧
        (isCurrent w' report = true → w'.ontology.axioms = w.ontology.axioms ∧
          answer (.consistency w'.ontology.axioms) w = .ok report.consistent) := by
  intro moment
  have hprecedes : ∀ i j, i ≤ j → (moment i).Precedes (moment j) := fun i j hij =>
    precedes_run_take (Ontology.new name baseIri) operations hij
  refine ⟨fun i j hij => (hprecedes i j hij).revision_le, fun i j hrevision => ?_, ?_⟩
  · -- a run precedes only its later moments, so which of the two comes first matters
    rcases Nat.le_total i j with hij | hji
    · obtain ⟨allocator, hsame⟩ := (hprecedes i j hij).eq_of_revision_eq hrevision.symm
      rw [hsame]
      exact ⟨rfl, rfl, rfl⟩
    · obtain ⟨allocator, hsame⟩ := (hprecedes j i hji).eq_of_revision_eq hrevision
      rw [hsame]
      exact ⟨rfl, rfl, rfl⟩
  · intro w attempts answer meanwhile report hmeanwhile checked hreport w' hcourse
    obtain ⟨hrevision, hverdict, -⟩ := checkConsistency_ok hreport
    have hchecked : Passage w checked.2 :=
      passage_checkConsistency (fun query v => (hmeanwhile query v).passage) w
    have hprecedes : w.ontology.Precedes w'.ontology := (hchecked.trans hcourse.passage).precedes
    have hcurrent : isCurrent w' report = true ↔ w'.ontology.revision = w.ontology.revision := by
      unfold isCurrent
      rw [beq_iff_eq, hrevision]
      exact eq_comm
    refine ⟨hcurrent.trans ⟨hprecedes.eq_of_revision_eq, ?_⟩, fun hsame => ?_⟩
    · rintro ⟨allocator, hontology⟩
      rw [hontology]
    · have haxioms : w'.ontology.axioms = w.ontology.axioms :=
        hprecedes.axioms_eq (hcurrent.1 hsame)
      exact ⟨haxioms, haxioms ▸ hverdict⟩

/-! A check during which somebody saves a noun. -/

def checkedWhileSaving (singular plural : String) :
    Except WikiError ConsistencyReport × RecordedWorld :=
  let saving : Operation := .commit bird .concept [.word singular, .word plural]
  (approving.among 1 (fun _ _ => .ok true) fun _ w =>
    { w with ontology := w.ontology.perform saving }).checkConsistency
      (approving.start ((Ontology.new "wiki" "http://example.org/").run birdAndBeing) [])

theorem report_outlives_idle_save :
    let (report, w) := checkedWhileSaving "bird" "birds"
    let (other, renamed) := checkedWhileSaving "fowl" "fowls"
    let later := (createElement w "noun").2
    report = .ok ⟨true, 2⟩ ∧ isCurrent later ⟨true, 2⟩ = true ∧
      later.ontology.axioms = ((Ontology.new "wiki" "http://example.org/").run birdAndBeing).axioms ∧
      other = .ok ⟨true, 2⟩ ∧ isCurrent renamed ⟨true, 2⟩ = false := by
  obtain ⟨-, -, hreports⟩ :=
    revision_identifies_state approving "wiki" "http://example.org/" birdAndBeing
  have hreport : (checkedWhileSaving "bird" "birds").1 = .ok ⟨true, 2⟩ := by decide +kernel
  have hcurrent : isCurrent (createElement (checkedWhileSaving "bird" "birds").2 "noun").2
      ⟨true, 2⟩ = true := by decide +kernel
  let saving : Action := .perform (.commit bird .concept [.word "bird", .word "birds"])
  have hsaving : ∀ v : RecordedWorld, approving.Course v (approving.act v saving) :=
    fun v => Course.alone (.refl v) saving
  have hlater : approving.Course (checkedWhileSaving "bird" "birds").2
      (createElement (checkedWhileSaving "bird" "birds").2 "noun").2 :=
    Course.alone (.refl _) (.createElement "noun")
  obtain ⟨-, happlies⟩ := hreports _ 1 _ _ ⟨true, 2⟩ (fun _ v => hsaving v) hreport _ hlater
  obtain ⟨haxioms, -⟩ := happlies hcurrent
  exact ⟨hreport, hcurrent, haxioms, by decide +kernel, by decide +kernel⟩

end SemanticWiki.Engine
