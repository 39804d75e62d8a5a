import SemanticWiki.Basic

/-! Why a reasoner gives no verdict. -/

namespace SemanticWiki

inductive ReasonError where
  | unavailable (reasoner reason : String)
  | budgetExceeded (budget : Nat)
deriving DecidableEq

def ReasonError.diagnostic : ReasonError → Diagnostic
  | unavailable reasoner reason =>
    { code := "wikilex::reason::unavailable"
      message := s!"reasoner \"{reasoner}\" is unavailable: {reason}"
      help := "Lexicon edits keep working while the reasoner is down. " ++
        "Call \u0060Engine::resync_reasoner()\u0060 once it is back." }
  | budgetExceeded budget =>
    { code := "wikilex::reason::budget_exceeded"
      message := s!"reasoning exceeded its budget of {budget} steps"
      help := "Increase \u0060reasoner.step_budget\u0060 in the engine configuration, or simplify " ++
        "the ontology." }

end SemanticWiki
