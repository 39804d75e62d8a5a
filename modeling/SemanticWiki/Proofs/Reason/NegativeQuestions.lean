import Mathlib
import SemanticWiki.Proofs.Reason.Models

/-! A negative question can be asked in two ways: whether the negation follows, or whether the
axioms stay consistent when instances are added. The verdicts agree for classes that can have
instances. A class below two disjoint classes can have none, which is only noticed when an instance
is added, or when the question is what the class is below. -/

universe u

namespace SemanticWiki

def Axiom.individuals : Axiom → List ElementId
  | .classAssertion individual _ | .negativeClassAssertion individual _ => [individual]
  | .objectPropertyAssertion subject _ object => [subject, object]
  | .subClassOf .. | .disjointClasses .. => []

namespace Reason

variable {axioms : List Axiom} {i j x a b c d : ElementId}

section Assertion

theorem above_assertion :
    Above (axioms ++ [.classAssertion i c]) a b ↔ Above axioms a b := by
  simp [Above]

theorem parted_assertion :
    Parted (axioms ++ [.classAssertion i c]) a b ↔ Parted axioms a b := by
  simp [Parted]

theorem apart_assertion :
    Apart (axioms ++ [.classAssertion i c]) a b ↔ Apart axioms a b := by
  simp only [Apart, above_assertion, parted_assertion]

theorem falls_assertion :
    Falls (axioms ++ [.classAssertion i c]) j d ↔
      Falls axioms j d ∨ (j = i ∧ Above axioms c d) := by
  simp only [Falls, above_assertion, List.mem_append, List.mem_singleton,
    Axiom.classAssertion.injEq]
  constructor
  · rintro ⟨a, hstated | ⟨rfl, rfl⟩, had⟩
    · exact .inl ⟨a, hstated, had⟩
    · exact .inr ⟨rfl, had⟩
  · rintro (⟨a, hstated, had⟩ | ⟨rfl, hcd⟩)
    · exact ⟨a, .inl hstated, had⟩
    · exact ⟨c, .inr ⟨rfl, rfl⟩, hcd⟩

theorem denied_assertion :
    Axiom.negativeClassAssertion j d ∈ axioms ++ [.classAssertion i c] ↔
      .negativeClassAssertion j d ∈ axioms := by
  simp

theorem contradictory_assertion :
    Contradictory (axioms ++ [.classAssertion i c]) ↔
      Contradictory axioms ∨ Excluded axioms i c ∨ Apart axioms c c := by
  constructor
  · intro h
    cases h with
    | parted ha hb hab =>
      rw [parted_assertion] at hab
      -- either class may be one that the individual has been added to
      rcases falls_assertion.1 ha with hia | ⟨rfl, hca⟩
      · rcases falls_assertion.1 hb with hib | ⟨rfl, hcb⟩
        · exact .inl (.parted hia hib hab)
        · exact .inr (.inl (.parted hia hcb hab))
      · rcases falls_assertion.1 hb with hib | ⟨-, hcb⟩
        · exact .inr (.inl (.parted hib hca hab.symm))
        · exact .inr (.inr ⟨_, _, hca, hcb, hab⟩)
    | denied hdenied hfalls =>
      rw [denied_assertion] at hdenied
      rcases falls_assertion.1 hfalls with hid | ⟨rfl, hcd⟩
      · exact .inl (.denied hdenied hid)
      · exact .inr (.inl (.denied hdenied hcd))
  · rintro (hcontra | hexcluded | ⟨a, b, hca, hcb, hab⟩)
    · cases hcontra with
      | parted ha hb hab =>
        exact .parted (falls_assertion.2 (.inl ha)) (falls_assertion.2 (.inl hb))
          (parted_assertion.2 hab)
      | denied hdenied hfalls =>
        exact .denied (denied_assertion.2 hdenied) (falls_assertion.2 (.inl hfalls))
    · cases hexcluded with
      | denied hdenied hca =>
        exact .denied (denied_assertion.2 hdenied) (falls_assertion.2 (.inr ⟨rfl, hca⟩))
      | parted ha hcb hab =>
        exact .parted (falls_assertion.2 (.inl ha)) (falls_assertion.2 (.inr ⟨rfl, hcb⟩))
          (parted_assertion.2 hab)
    · exact .parted (falls_assertion.2 (.inr ⟨rfl, hca⟩)) (falls_assertion.2 (.inr ⟨rfl, hcb⟩))
        (parted_assertion.2 hab)

end Assertion

section Fresh

variable (hx : ∀ ax ∈ axioms, x ∉ ax.individuals)
include hx

theorem not_falls_fresh : ¬ Falls axioms x c := by
  rintro ⟨a, hstated, -⟩
  exact hx _ hstated (List.mem_singleton_self x)

theorem not_denied_fresh : Axiom.negativeClassAssertion x c ∉ axioms :=
  fun hdenied => hx _ hdenied (List.mem_singleton_self x)

theorem not_excluded_fresh : ¬ Excluded axioms x c := by
  intro h
  cases h with
  | denied hdenied _ => exact not_denied_fresh hx hdenied
  | parted ha _ _ => exact not_falls_fresh hx ha

theorem excluded_fresh_assertion :
    Excluded (axioms ++ [.classAssertion x c]) x d ↔ Apart axioms c d := by
  constructor
  · intro h
    cases h with
    | denied hdenied _ => exact absurd (denied_assertion.1 hdenied) (not_denied_fresh hx)
    | parted ha hdb hab =>
      have hca := ((falls_assertion.1 ha).resolve_left (not_falls_fresh hx)).2
      exact ⟨_, _, hca, above_assertion.1 hdb, parted_assertion.1 hab⟩
  · rintro ⟨a, b, hca, hdb, hab⟩
    exact .parted (falls_assertion.2 (.inr ⟨rfl, hca⟩)) (above_assertion.2 hdb)
      (parted_assertion.2 hab)

/-- A common instance of two classes, of which nothing else is known, contradicts nothing but that
the classes are kept apart or that one of them can have no instance. -/
theorem contradictory_common_instance :
    Contradictory (axioms ++ [.classAssertion x c] ++ [.classAssertion x d]) ↔
      Contradictory axioms ∨ Apart axioms c d ∨ Apart axioms c c ∨ Apart axioms d d := by
  rw [contradictory_assertion, contradictory_assertion, excluded_fresh_assertion hx,
    apart_assertion, iff_false_intro (not_excluded_fresh hx)]
  tauto

end Fresh

section Verdicts

variable {order order' : IterationOrder} {budget budget' : Nat} {set : AxiomSet}
  {entailed consistent : Bool}

theorem instance_verdict
    (h : order.ask budget (.consistency (set.extend (.classAssertion i c))) = .ok consistent) :
    consistent = false ↔
      Contradictory set.axioms ∨ Excluded set.axioms i c ∨ Apart set.axioms c c := by
  rw [← contradictory_assertion, ← Bool.not_eq_true, IterationOrder.ask_ok h]
  exact not_not

theorem common_instance_verdict (hx : ∀ ax ∈ set.axioms, x ∉ ax.individuals)
    (h : order.ask budget (.consistency
      ((set.extend (.classAssertion x c)).extend (.classAssertion x d))) = .ok consistent) :
    consistent = false ↔ Contradictory set.axioms ∨ Apart set.axioms c d ∨
      Apart set.axioms c c ∨ Apart set.axioms d d := by
  rw [← contradictory_common_instance hx, ← Bool.not_eq_true, IterationOrder.ask_ok h]
  exact not_not

theorem agree_unless_vacant {excluded empty vacant : Prop}
    (hvacant : ¬ Contradictory axioms → (vacant ↔ empty)) :
    ((Contradictory axioms ∨ excluded) ↔ (Contradictory axioms ∨ excluded ∨ empty)) ↔
      (Satisfiable.{u} axioms → vacant → excluded) := by
  rw [satisfiable_iff]
  by_cases hcontra : Contradictory axioms
  · simp [hcontra]
  · rw [hvacant hcontra]
    tauto

theorem negative_questions_agree_iff (order order' : IterationOrder) (budget budget' : Nat)
    (set : AxiomSet) (i c d x : ElementId) :
    (∀ entailed consistent,
      order.ask budget (.entailment set (.negativeClassAssertion i c)) = .ok entailed →
      order'.ask budget' (.consistency (set.extend (.classAssertion i c))) = .ok consistent →
      ((entailed = true ↔ consistent = false) ↔
        (Satisfiable.{u} set.axioms → Vacant.{u} set.axioms c → Excluded set.axioms i c))) ∧
    ((∀ ax ∈ set.axioms, x ∉ ax.individuals) → ∀ entailed consistent,
      order.ask budget (.entailment set (.disjointClasses c d)) = .ok entailed →
      order'.ask budget' (.consistency
        ((set.extend (.classAssertion x c)).extend (.classAssertion x d))) = .ok consistent →
      ((entailed = true ↔ consistent = false) ↔
        (Satisfiable.{u} set.axioms → Vacant.{u} set.axioms c ∨ Vacant.{u} set.axioms d →
          Apart set.axioms c d))) := by
  constructor
  · intro entailed consistent hentailed hconsistent
    rw [IterationOrder.ask_ok hentailed, instance_verdict hconsistent]
    exact agree_unless_vacant fun hcontra => vacant_iff hcontra
  · intro hx entailed consistent hentailed hconsistent
    rw [IterationOrder.ask_ok hentailed, common_instance_verdict hx hconsistent]
    exact agree_unless_vacant fun hcontra => or_congr (vacant_iff hcontra) (vacant_iff hcontra)

end Verdicts

def mermaids (mermaid woman fish king arthur : ElementId) : AxiomSet where
  revision := 0
  axioms := [.subClassOf mermaid woman, .subClassOf mermaid fish, .disjointClasses woman fish,
    .classAssertion arthur king]

theorem mermaids_not_denied :
    let mermaid : ElementId := ⟨⟨1, by decide, by decide⟩⟩
    let king : ElementId := ⟨⟨4, by decide, by decide⟩⟩
    let arthur : ElementId := ⟨⟨9, by decide, by decide⟩⟩
    let x : ElementId := ⟨⟨10, by decide, by decide⟩⟩
    let set := mermaids mermaid ⟨⟨2, by decide, by decide⟩⟩ ⟨⟨3, by decide, by decide⟩⟩ king arthur
    let reasoner := Backend.saturation 100
    reasoner.ask (.entailment set (.negativeClassAssertion arthur mermaid)) = .ok false ∧
      reasoner.ask (.consistency (set.extend (.classAssertion arthur mermaid))) = .ok false ∧
      reasoner.ask (.entailment set (.disjointClasses mermaid king)) = .ok false ∧
      reasoner.ask (.consistency ((set.extend (.classAssertion x mermaid)).extend
        (.classAssertion x king))) = .ok false ∧
      reasoner.ask (.entailment set (.subClassOf mermaid king)) = .ok true := by
  intro mermaid king arthur x set reasoner
  refine ⟨?_, ?_, ?_, ?_, ?_⟩ <;> cbv

theorem mermaids_vacant :
    let mermaid : ElementId := ⟨⟨1, by decide, by decide⟩⟩
    let king : ElementId := ⟨⟨4, by decide, by decide⟩⟩
    let arthur : ElementId := ⟨⟨9, by decide, by decide⟩⟩
    let set := mermaids mermaid ⟨⟨2, by decide, by decide⟩⟩ ⟨⟨3, by decide, by decide⟩⟩ king arthur
    Satisfiable.{0} set.axioms ∧ Vacant.{0} set.axioms mermaid ∧
      ¬ Excluded set.axioms arthur mermaid ∧ ¬ Apart set.axioms mermaid king := by
  intro mermaid king arthur set
  let x : ElementId := ⟨⟨10, by decide, by decide⟩⟩
  have hfresh : ∀ ax ∈ set.axioms, x ∉ ax.individuals := by decide
  obtain ⟨hdenial, hdisjoint⟩ := negative_questions_agree_iff.{0} .asBuilt .asBuilt 100 100 set
    arthur mermaid king x
  have hone := hdenial false false (by cbv) (by cbv)
  have htwo := hdisjoint hfresh false false (by cbv) (by cbv)
  simp only [Bool.false_eq_true, false_iff, Classical.not_imp, not_true_eq_false] at hone htwo
  exact ⟨hone.1, hone.2.1, hone.2.2, htwo.2.2⟩

end Reason

end SemanticWiki
