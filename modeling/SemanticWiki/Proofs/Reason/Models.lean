import Mathlib.Data.Set.Basic
import SemanticWiki.Proofs.Reason.Verdicts

/-! The usual meaning of axioms: classes are sets of a domain, properties are relations on it, and
individuals are elements of it. What saturation derives holds in every model, and axioms that are
not contradictory have a model, made of the individuals and what they fall into. One more element
of that model can be put into any classes that are not kept apart. -/

universe u

namespace SemanticWiki.Reason

/-- An interpretation of classes, properties and individuals. Two individuals may be one element;
the domain is not empty, since every individual is in it. -/
structure Interpretation where
  Domain : Type u
  individual : ElementId → Domain
  cls : ElementId → Set Domain
  property : ElementId → Domain → Domain → Prop

namespace Interpretation

def Satisfies (M : Interpretation.{u}) : Axiom → Prop
  | .subClassOf sub sup => M.cls sub ⊆ M.cls sup
  | .disjointClasses first second => ∀ x ∈ M.cls first, x ∉ M.cls second
  | .classAssertion individual cls => M.individual individual ∈ M.cls cls
  | .negativeClassAssertion individual cls => M.individual individual ∉ M.cls cls
  | .objectPropertyAssertion subject property object =>
    M.property property (M.individual subject) (M.individual object)

def Models (M : Interpretation.{u}) (axioms : List Axiom) : Prop :=
  ∀ ax ∈ axioms, M.Satisfies ax

variable {M : Interpretation.{u}} {axioms : List Axiom} {i a b c : ElementId}

theorem Models.above (hM : M.Models axioms) (hab : Above axioms a b) : M.cls a ⊆ M.cls b := by
  induction hab with
  | refl => exact subset_rfl
  | tail _ hstep ih => exact ih.trans (hM _ hstep)

theorem Models.falls (hM : M.Models axioms) (hc : Falls axioms i c) :
    M.individual i ∈ M.cls c := by
  obtain ⟨a, hstated, hac⟩ := hc
  exact hM.above hac (hM _ hstated)

theorem Models.parted (hM : M.Models axioms) (hab : Parted axioms a b) {x : M.Domain}
    (ha : x ∈ M.cls a) : x ∉ M.cls b := by
  rcases hab with hstated | hstated
  · exact hM _ hstated x ha
  · intro hb
    exact hM _ hstated x hb ha

theorem Models.apart (hM : M.Models axioms) (hab : Apart axioms a b) {x : M.Domain}
    (ha : x ∈ M.cls a) : x ∉ M.cls b := by
  obtain ⟨a', b', haa', hbb', hparted⟩ := hab
  intro hb
  exact hM.parted hparted (hM.above haa' ha) (hM.above hbb' hb)

theorem Models.excluded (hM : M.Models axioms) (hc : Excluded axioms i c) :
    M.individual i ∉ M.cls c := by
  intro hmem
  cases hc with
  | denied hdenied ha => exact hM _ hdenied (hM.above ha hmem)
  | parted ha hb hab => exact hM.parted hab (hM.falls ha) (hM.above hb hmem)

theorem Models.not_contradictory (hM : M.Models axioms) : ¬ Contradictory axioms := by
  intro hcontra
  cases hcontra with
  | parted ha hb hab => exact hM.parted hab (hM.falls ha) (hM.falls hb)
  | denied hdenied hc => exact hM _ hdenied (hM.falls hc)

theorem Models.derives (hM : M.Models axioms) {ax : Axiom} (hax : Derives axioms ax) :
    M.Satisfies ax := by
  cases ax with
  | subClassOf sub sup =>
    rcases hax with habove | hempty
    · exact hM.above habove
    · intro x hx
      exact absurd hx (hM.apart hempty hx)
  | disjointClasses first second => exact fun x hx => hM.apart hax hx
  | classAssertion individual cls => exact hM.falls hax
  | negativeClassAssertion individual cls => exact hM.excluded hax
  | objectPropertyAssertion subject property object => exact hM _ hax

/-- The individuals with the classes they fall into, and one more element, in all classes above
those of the seed. -/
def canonical (axioms : List Axiom) (seed : Set ElementId) : Interpretation.{u} where
  Domain := ULift (Option ElementId)
  individual i := ⟨some i⟩
  cls c := {x | match x.down with
    | some i => Falls axioms i c
    | none => ∃ a ∈ seed, Above axioms a c}
  property p x y := ∃ a b, x.down = some a ∧ y.down = some b ∧
    .objectPropertyAssertion a p b ∈ axioms

theorem canonical_above {seed : Set ElementId} (hab : Above axioms a b) :
    (canonical.{u} axioms seed).cls a ⊆ (canonical.{u} axioms seed).cls b := by
  rintro ⟨_ | i⟩ hx
  · obtain ⟨s, hs, hsa⟩ := hx
    exact ⟨s, hs, hsa.trans hab⟩
  · exact Falls.above hx hab

theorem canonical_models {seed : Set ElementId} (hcontra : ¬ Contradictory axioms)
    (hseed : ∀ a ∈ seed, ∀ b ∈ seed, ¬ Apart axioms a b) :
    (canonical.{u} axioms seed).Models axioms := by
  intro ax hax
  cases ax with
  | subClassOf sub sup => exact canonical_above (Above.single hax)
  | disjointClasses first second =>
    -- the seed keeps the one more element out, consistency the individuals
    rintro ⟨_ | i⟩ hfirst hsecond
    · obtain ⟨a, ha, hafirst⟩ := hfirst
      obtain ⟨b, hb, hbsecond⟩ := hsecond
      exact hseed a ha b hb ⟨first, second, hafirst, hbsecond, .inl hax⟩
    · exact hcontra (.parted hfirst hsecond (.inl hax))
  | classAssertion individual cls => exact ⟨cls, hax, Above.refl cls⟩
  | negativeClassAssertion individual cls => exact fun hfalls => hcontra (.denied hax hfalls)
  | objectPropertyAssertion subject property object => exact ⟨subject, object, rfl, rfl, hax⟩

theorem canonical_empty_models (hcontra : ¬ Contradictory axioms) :
    (canonical.{u} axioms ∅).Models axioms :=
  canonical_models hcontra fun _ ha => ha.elim

theorem canonical_singleton_models (hcontra : ¬ Contradictory axioms)
    (hpossible : ¬ Apart axioms c c) : (canonical.{u} axioms {c}).Models axioms := by
  apply canonical_models hcontra
  rintro a rfl b rfl
  exact hpossible

theorem canonical_singleton_mem {d : ElementId} :
    ⟨none⟩ ∈ (canonical.{u} axioms {c}).cls d ↔ Above axioms c d := by
  constructor
  · rintro ⟨a, rfl, had⟩
    exact had
  · intro hcd
    exact ⟨c, rfl, hcd⟩

end Interpretation

def Satisfiable (axioms : List Axiom) : Prop := ∃ M : Interpretation.{u}, M.Models axioms

def Entails (axioms : List Axiom) (ax : Axiom) : Prop :=
  ∀ M : Interpretation.{u}, M.Models axioms → M.Satisfies ax

def Vacant (axioms : List Axiom) (c : ElementId) : Prop :=
  ∀ M : Interpretation.{u}, M.Models axioms → M.cls c = ∅

variable {axioms : List Axiom} {c : ElementId}

theorem satisfiable_iff : Satisfiable.{u} axioms ↔ ¬ Contradictory axioms := by
  constructor
  · rintro ⟨M, hM⟩
    exact hM.not_contradictory
  · intro hcontra
    exact ⟨_, Interpretation.canonical_empty_models hcontra⟩

theorem entails_of_derives {ax : Axiom} (h : Contradictory axioms ∨ Derives axioms ax) :
    Entails.{u} axioms ax := by
  intro M hM
  rcases h with hcontra | hderives
  · exact absurd hcontra hM.not_contradictory
  · exact hM.derives hderives

theorem vacant_iff (hcontra : ¬ Contradictory axioms) :
    Vacant.{u} axioms c ↔ Apart axioms c c := by
  constructor
  · intro hvacant
    by_contra happ
    have hmem : ⟨none⟩ ∈ (Interpretation.canonical.{u} axioms {c}).cls c :=
      Interpretation.canonical_singleton_mem.2 (Above.refl c)
    rw [hvacant _ (Interpretation.canonical_singleton_models hcontra happ)] at hmem
    exact hmem
  · intro happ M hM
    refine Set.eq_empty_of_forall_notMem fun x hx => ?_
    exact hM.apart happ hx hx

end SemanticWiki.Reason
