import SemanticWiki.Proofs.Except
import SemanticWiki.Proofs.Grammar.Typing
import SemanticWiki.Statement

/-! Computations that come to an end of their own. What ends the program is that the first of no
spellings is asked for, so a language that has a spelling for everything never does. -/

namespace SemanticWiki

variable {α β : Type}

/-- A result or a refusal, but no panic. -/
def Answers (x : Except GrammarError α) : Prop := ∀ error, x = .error error → error.isPanic = false

theorem answers_ok (a : α) : Answers (.ok a : Except GrammarError α) := fun _ h => nomatch h

theorem answers_error {error : GrammarError} (h : error.isPanic = false) :
    Answers (.error error : Except GrammarError α) := by
  rintro _ ⟨⟩
  exact h

theorem Answers.bind {x : Except GrammarError α} {f : α → Except GrammarError β} (hx : Answers x)
    (hf : ∀ a, Answers (f a)) : Answers (x >>= f) := by
  cases x with
  | error error => exact answers_error (hx error rfl)
  | ok a => exact hf a

theorem Statement.answers_expectKind (kindOf : ElementId → Option Kind) (allowed : List Kind)
    (id : ElementId) : Answers (expectKind kindOf allowed id) := by
  unfold expectKind
  split
  · exact answers_error rfl
  · split
    · exact answers_ok _
    · exact answers_error rfl

theorem Statement.answers_construct (kindOf : ElementId → Option Kind) (s : Statement) :
    Answers (s.construct kindOf) := by
  cases s with
  | subsumption | disjointness | membership | nonMembership =>
    exact (answers_expectKind _ _ _).bind fun _ => (answers_expectKind _ _ _).bind fun _ =>
      answers_ok _
  | relation =>
    exact (answers_expectKind _ _ _).bind fun _ => (answers_expectKind _ _ _).bind fun _ =>
      (answers_expectKind _ _ _).bind fun _ => answers_ok _

theorem Ontology.answers_validate (o : Ontology) (s : Sentence) : Answers (o.validate s) :=
  s.statement.answers_construct o.kindOf

def Item.isSpelled : Item → Bool
  | .keyword spellings => !spellings.isEmpty
  | .mark _ | .name _ | .word _ _ | .indefinite _ => true

def Indefinite.isSpelled : Indefinite → Bool
  | .bySound => true
  | .fixed spellings => !spellings.isEmpty

namespace Language

def isSpelled (g : Language) : Bool :=
  g.rules.all (fun r => r.items.all Item.isSpelled) && g.indefinite.isSpelled

theorem IsBuiltin.isSpelled {g : Language} (h : g.IsBuiltin) : g.isSpelled = true := by
  obtain ⟨b, hb, code, name, rfl⟩ := h
  have hall : ∀ b ∈ builtin, b.isSpelled = true := by decide
  exact hall b hb

variable {g : Language} {index : LexIndex} {b : Binding}

theorem answers_spelled {spellings : List String} (h : (!spellings.isEmpty) = true) :
    Answers (g.spelled spellings) := by
  cases spellings with
  | nil => cases h
  | cons text _ => exact answers_ok _

theorem answers_argument (role : Role) (cat : Cat) : Answers (g.argument b role cat) := by
  unfold argument
  split
  · exact answers_ok _
  · exact answers_error rfl

theorem answers_surface (cat : Cat) (id : ElementId) : Answers (g.surface index cat id) := by
  unfold Language.surface
  split
  · exact answers_ok _
  · exact answers_error rfl

theorem answers_piecesOfItem (hindefinite : g.indefinite.isSpelled = true) {item : Item}
    (hitem : item.isSpelled = true) : Answers (g.piecesOfItem index b item) := by
  cases item with
  | keyword spellings => exact answers_spelled hitem
  | mark text => exact answers_ok _
  | indefinite role =>
    unfold piecesOfItem
    cases hspelled : g.indefinite with
    | fixed spellings =>
      rw [hspelled] at hindefinite
      exact answers_spelled hindefinite
    | bySound =>
      exact (answers_argument _ _).bind fun id => (answers_surface _ id).bind fun _ => answers_ok _
  | name role | word role cat =>
    exact (answers_argument _ _).bind fun id => (answers_surface _ id).bind fun _ => answers_ok _

theorem answers_piecesOfItems (hindefinite : g.indefinite.isSpelled = true) {items : List Item}
    (hitems : ∀ item ∈ items, item.isSpelled = true) : Answers (g.piecesOfItems index b items) := by
  induction items with
  | nil => exact answers_ok _
  | cons item items ih =>
    obtain ⟨hitem, hrest⟩ := List.forall_mem_cons.1 hitems
    exact (answers_piecesOfItem hindefinite hitem).bind fun _ => (ih hrest).bind fun _ => answers_ok _

theorem answers_linearize (hg : g.isSpelled = true) (index : LexIndex) (s : Statement)
    (question : Bool) : Answers (g.linearize index s question) := by
  simp only [isSpelled, Bool.and_eq_true, List.all_eq_true] at hg
  refine (s.answers_construct index.kindOf).bind fun construct => ?_
  cases hrule : g.outputRule? construct question with
  | none => exact answers_error rfl
  | some r =>
    exact (answers_piecesOfItems hg.2 (hg.1 r (List.mem_of_find?_eq_some hrule))).bind fun _ =>
      answers_ok _

end Language

def ConcreteGrammar.Steady (g : ConcreteGrammar) : Prop :=
  ∀ index s question, Answers (g.linearize index s question)

theorem ConcreteGrammar.IsBuiltin.steady {g : ConcreteGrammar} (h : g.IsBuiltin) : g.Steady := by
  obtain ⟨b, hb, rfl⟩ := h
  exact Language.answers_linearize hb.isSpelled

end SemanticWiki
