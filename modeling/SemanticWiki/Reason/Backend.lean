import SemanticWiki.Reason.Error
import SemanticWiki.Reason.IterationOrder

/-! The reasoners that come with the wiki: saturation of the class hierarchy within a budget of
steps, and the one that stands in when reasoning is switched off and answers nothing. -/

namespace SemanticWiki

inductive Query where
  /-- Whether the axioms have a model. -/
  | consistency (axioms : AxiomSet)
  /-- Whether the axiom follows from them. -/
  | entailment (axioms : AxiomSet) (ax : Axiom)
deriving DecidableEq

def Query.axioms : Query → AxiomSet
  | consistency axioms | entailment axioms _ => axioms

namespace Reason

def defaultBudget : Nat := 100000

namespace IterationOrder

def verdict (order : IterationOrder) : Query → Metered Bool
  | .consistency set => do (order.arrange (← Closure.build set.axioms)).consistent
  | .entailment set ax => do
    let closure := order.arrange (← Closure.build set.axioms)
    if ← closure.consistent then closure.entails ax else return true

def ask (order : IterationOrder) (budget : Nat) (query : Query) : Except ReasonError Bool :=
  match (order.verdict query).within budget with
  | some answer => .ok answer
  | none => .error (.budgetExceeded budget)

end IterationOrder

inductive Backend where
  | saturation (budget : Nat)
  | disabled
deriving DecidableEq

namespace Backend

def name : Backend → String
  | saturation _ => "saturation"
  | disabled => "disabled"

def ask : Backend → Query → Except ReasonError Bool
  | saturation budget, query => IterationOrder.asBuilt.ask budget query
  | disabled, _ =>
    .error (.unavailable "disabled" "reasoning is disabled in the engine configuration")

end Backend

end Reason

end SemanticWiki
