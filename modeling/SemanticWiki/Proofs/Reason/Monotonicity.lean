import Mathlib
import SemanticWiki.Proofs.Ontology.SentenceStore
import SemanticWiki.Proofs.Reason.Verdicts

/-! What more axioms do to a verdict. Whatever is derived from some axioms is derived from more of
them, and what is contradictory stays so. Since a verdict depends on what the axioms say and not on
how they are listed, an answer outlives all that is added, and consistency all that is taken back. -/

namespace SemanticWiki.Reason

open Ontology

section Mono

variable {axioms more : List Axiom} {i a b c : ElementId} {ax : Axiom} (hsub : axioms ⊆ more)
include hsub

theorem Above.mono (h : Above axioms a b) : Above more a b :=
  Relation.ReflTransGen.mono (fun _ _ hstated => hsub hstated) a b h

theorem Falls.mono (h : Falls axioms i c) : Falls more i c := by
  obtain ⟨a, hstated, hac⟩ := h
  exact ⟨a, hsub hstated, hac.mono hsub⟩

theorem Parted.mono (h : Parted axioms a b) : Parted more a b :=
  h.imp (fun hstated => hsub hstated) (fun hstated => hsub hstated)

theorem Apart.mono (h : Apart axioms a b) : Apart more a b := by
  obtain ⟨x, y, hx, hy, hxy⟩ := h
  exact ⟨x, y, hx.mono hsub, hy.mono hsub, hxy.mono hsub⟩

theorem Excluded.mono (h : Excluded axioms i c) : Excluded more i c := by
  cases h with
  | denied hdenied ha => exact .denied (hsub hdenied) (ha.mono hsub)
  | parted ha hb hab => exact .parted (ha.mono hsub) (hb.mono hsub) (hab.mono hsub)

theorem Contradictory.mono (h : Contradictory axioms) : Contradictory more := by
  cases h with
  | parted ha hb hab => exact .parted (ha.mono hsub) (hb.mono hsub) (hab.mono hsub)
  | denied hdenied hc => exact .denied (hsub hdenied) (hc.mono hsub)

theorem Derives.mono (h : Derives axioms ax) : Derives more ax := by
  cases ax with
  | subClassOf sub sup =>
    -- a class that had no instances has none when more is stated
    exact h.imp (fun habove => Above.mono hsub habove) (fun happ => Apart.mono hsub happ)
  | disjointClasses first second => exact Apart.mono hsub h
  | classAssertion individual cls => exact Falls.mono hsub h
  | negativeClassAssertion individual cls => exact Excluded.mono hsub h
  | objectPropertyAssertion subject property object => exact hsub h

end Mono

/-- Whoever can pay for an answer to the query gets this one, in whatever order the closure is tested,
and every budget above some number of steps suffices. -/
structure Settled (query : Query) (answer : Bool) : Prop where
  only : ∀ (order : IterationOrder) (budget : Nat) (other : Bool),
    order.ask budget query = .ok other → other = answer
  given : ∀ order : IterationOrder, ∃ enough, ∀ budget, enough ≤ budget →
    order.ask budget query = .ok answer

namespace IterationOrder

variable {order : IterationOrder} {budget : Nat} {query query' : Query} {few many : AxiomSet}
  {ax : Axiom} {answer : Bool}

theorem settled_of_affirmed_iff (h : answer = true ↔ Affirmed query) : Settled query answer := by
  have honly (order : IterationOrder) (budget : Nat) (other : Bool)
      (hother : order.ask budget query = .ok other) : other = answer :=
    Bool.eq_iff_iff.2 ((ask_ok hother).trans h.symm)
  refine ⟨honly, fun order => ?_⟩
  obtain ⟨enough, hanswers⟩ := order.ask_answers query
  refine ⟨enough, fun budget hbudget => ?_⟩
  obtain ⟨other, hother⟩ := hanswers budget hbudget
  rw [hother, honly order budget other hother]

theorem settled_of_yes (h : Affirmed query → Affirmed query')
    (hyes : order.ask budget query = .ok true) : Settled query' true :=
  settled_of_affirmed_iff (iff_of_true rfl (h ((ask_ok hyes).1 rfl)))

theorem affirmed_entailment_mono (hsub : few.axioms ⊆ many.axioms)
    (h : Affirmed (.entailment few ax)) : Affirmed (.entailment many ax) :=
  h.imp (fun hcontra => hcontra.mono hsub) (fun hderives => hderives.mono hsub)

theorem affirmed_consistency_anti (hsub : few.axioms ⊆ many.axioms)
    (h : Affirmed (.consistency many)) : Affirmed (.consistency few) :=
  fun hcontra => h (hcontra.mono hsub)

end IterationOrder

open IterationOrder

theorem verdicts_monotone (order : IterationOrder) (budget : Nat) :
    (∀ few many : AxiomSet, few.axioms ⊆ many.axioms →
      (∀ ax, order.ask budget (.entailment few ax) = .ok true →
        Settled (.entailment many ax) true) ∧
      (order.ask budget (.consistency many) = .ok true → Settled (.consistency few) true)) ∧
    (∀ set other : AxiomSet, (∀ ax, ax ∈ set.axioms ↔ ax ∈ other.axioms) →
      (∀ ax answer, order.ask budget (.entailment set ax) = .ok answer →
        Settled (.entailment other ax) answer) ∧
      ∀ answer, order.ask budget (.consistency set) = .ok answer →
        Settled (.consistency other) answer) ∧
    ∀ name baseIri operations,
      let o := (Ontology.new name baseIri).run operations
      (∀ s expected ax, o.nextSentence.val + 1 < UInt64.size →
        order.ask budget (.entailment o.axioms ax) = .ok true →
        Settled (.entailment (o.addSentenceIf s expected).2.axioms ax) true) ∧
      ∀ id, order.ask budget (.consistency o.axioms) = .ok true →
        Settled (.consistency (o.retractSentence id).2.axioms) true := by
  refine ⟨?_, ?_, ?_⟩
  · intro few many hsub
    exact ⟨fun ax => settled_of_yes (affirmed_entailment_mono hsub),
      settled_of_yes (affirmed_consistency_anti hsub)⟩
  · intro set other hsame
    have hsub : set.axioms ⊆ other.axioms := fun ax => (hsame ax).1
    have hsub' : other.axioms ⊆ set.axioms := fun ax => (hsame ax).2
    refine ⟨fun ax answer hanswer => ?_, fun answer hanswer => ?_⟩
    · exact settled_of_affirmed_iff ((ask_ok hanswer).trans
        ⟨affirmed_entailment_mono hsub, affirmed_entailment_mono hsub'⟩)
    · exact settled_of_affirmed_iff ((ask_ok hanswer).trans
        ⟨affirmed_consistency_anti hsub', affirmed_consistency_anti hsub⟩)
  · intro name baseIri operations o
    have hnumbered : Numbered o := numbered_run (numbered_new name baseIri) operations
    refine ⟨fun s expected ax hroom => ?_, fun id => ?_⟩
    · exact settled_of_yes (affirmed_entailment_mono
        (axioms_subset (hnumbered.sentences_addSentenceIf hroom s expected)))
    · exact settled_of_yes (affirmed_consistency_anti
        (axioms_subset (sentences_retractSentence o id)))

/-! Penguins are birds, and birds are no fish. -/

def penguin : ElementId := ⟨.first⟩
def bird : ElementId := ⟨penguin.toSerial.succ⟩
def fish : ElementId := ⟨bird.toSerial.succ⟩
def nemo : ElementId := ⟨fish.toSerial.succ⟩

def birdsAreNoFish : List Axiom := [.subClassOf penguin bird, .disjointClasses bird fish]

def birdsCommitted : List Operation := [
  .commit penguin .concept [.word "penguin", .word "penguins"],
  .commit bird .concept [.word "bird", .word "birds"],
  .commit fish .concept [.word "fish", .word "fishes"],
  .commit nemo .individual [.word "Nemo", .flag false],
  .addSentenceIf (.assertion (.subsumption penguin bird) "en") none,
  .addSentenceIf (.assertion (.disjointness bird fish) "en") none]

theorem penguins_stay_no_fish :
    let few : AxiomSet := ⟨0, birdsAreNoFish⟩
    let many : AxiomSet := ⟨1, .classAssertion nemo fish :: birdsAreNoFish⟩
    let again : AxiomSet := ⟨2, birdsAreNoFish.reverse ++ birdsAreNoFish⟩
    let o := (Ontology.new "wiki" "http://example.org/").run birdsCommitted
    let nemoIsAFish : Sentence := .assertion (.membership nemo fish) "en"
    Settled (.entailment many (.disjointClasses penguin fish)) true ∧
      Settled (.consistency few) true ∧
      Settled (.entailment again (.subClassOf bird penguin)) false ∧
      Settled (.entailment (o.addSentenceIf nemoIsAFish none).2.axioms
        (.disjointClasses penguin fish)) true ∧
      Settled (.consistency (o.retractSentence .first).2.axioms) true := by
  intro few many again o nemoIsAFish
  obtain ⟨hmore, hsame, hwiki⟩ := verdicts_monotone .asBuilt 20
  obtain ⟨hadded, hretracted⟩ := hwiki "wiki" "http://example.org/" birdsCommitted
  have haxioms : o.axioms = ⟨6, birdsAreNoFish⟩ := by decide +kernel
  have hfew : IterationOrder.asBuilt.ask 20 (.entailment few (.disjointClasses penguin fish)) =
      .ok true := by cbv
  have hunknown : IterationOrder.asBuilt.ask 20 (.entailment few (.subClassOf bird penguin)) =
      .ok false := by cbv
  have hmany : IterationOrder.asBuilt.ask 20 (.consistency many) = .ok true := by cbv
  have hsub : few.axioms ⊆ many.axioms := List.subset_cons_self _ _
  have hyes : IterationOrder.asBuilt.ask 20
      (.entailment ⟨6, birdsAreNoFish⟩ (.disjointClasses penguin fish)) = .ok true := by cbv
  have hconsistent : IterationOrder.asBuilt.ask 20 (.consistency ⟨6, birdsAreNoFish⟩) =
      .ok true := by cbv
  refine ⟨(hmore few many hsub).1 _ hfew, (hmore few many hsub).2 hmany, ?_, ?_, ?_⟩
  · exact (hsame few again fun ax => by simp [few, again]).1 _ _ hunknown
  · exact hadded nemoIsAFish none _ (by decide +kernel) (haxioms ▸ hyes)
  · exact hretracted .first (haxioms ▸ hconsistent)

end SemanticWiki.Reason
