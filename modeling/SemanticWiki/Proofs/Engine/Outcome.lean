import Mathlib.Data.List.Basic
import SemanticWiki.Proofs.Engine.Observation
import SemanticWiki.Proofs.Grammar.Panic

/-! The outcomes of an addition that is checked. All of them can be told by the calls of the reasoner:
calls that approve of what has changed meanwhile lead on to the next one, and any other call is the
last and decides. Whatever the reasoner lets happen to the ontology, an addition stores its sentence
on top of that or nothing. -/

namespace SemanticWiki.Engine

open Ontology

variable {σ : Type} {e : Engine σ} {s : Sentence} {n attempts : Nat} {w w' last : World σ}
  {answer : Except ReasonError Bool} {calls : List (Call σ)}
  {outcome : Except WikiError SentenceId × World σ}

theorem Attempt.result (hends : Attempt e s attempts w w' answer outcome)
    (hkept : answer = .ok true → w'.ontology.revision = w.ontology.revision) :
    (answer = .ok false ∧ outcome.1 = .error (refusal (e.describe w' s).1) ∧
        outcome.2.ontology = w'.ontology) ∨
      (∃ fault, answer ≠ .ok false ∧ fault.isPanic = false ∧ outcome.1 = .error (.grammar fault) ∧
        outcome.2.ontology = w'.ontology) ∨
      (answer ≠ .ok false ∧ outcome.1 = .ok w'.ontology.nextSentence ∧
        outcome.2.ontology = w'.ontology.withSentence s) := by
  cases hends with
  | unanswered error =>
    have hunchecked := commitUnchecked_unchecked (w'.recordError error) s
    generalize commitUnchecked (w'.recordError error) s = committed at hunchecked
    cases hunchecked with
    | misfit fault hinvalid =>
      exact .inr (.inl ⟨fault, by simp, answers_validate _ s fault hinvalid, rfl, rfl⟩)
    | committed construct hvalid => exact .inr (.inr ⟨by simp, rfl, rfl⟩)
  | refuted handlers => exact .inl ⟨rfl, rfl, rfl⟩
  | misfit fault hcurrent hinvalid =>
    exact .inr (.inl ⟨fault, by simp, answers_validate _ s fault hinvalid, rfl, rfl⟩)
  | committed construct hcurrent hvalid => exact .inr (.inr ⟨by simp, rfl, rfl⟩)
  | moved hmoved => exact absurd (hkept rfl) hmoved

theorem Call.kept {c : Call σ} (hlast : ¬ c.Outdated) (hanswer : c.answer = .ok true) :
    c.after.ontology.revision = c.before.ontology.revision :=
  Decidable.not_not.1 fun hmoved => hlast ⟨hanswer, hmoved⟩

theorem Ending.last_call (hends : Ending e s n w calls last outcome) {c : Call σ} (hc : c ∈ calls)
    (hlast : ¬ c.Outdated) :
    ∃ earlier attempts, calls = earlier ++ [c] ∧ (∀ d ∈ earlier, d.Outdated) ∧ c.after = last ∧
      Attempt e s attempts c.before c.after c.answer outcome := by
  cases hends with
  | exhausted hcalls hlength hlost => exact absurd (hlost c hc) hlast
  | settled hcalls hlength hlost hlast' hends =>
    rcases List.mem_append.1 hc with hearlier | hc
    · exact absurd (hlost c hearlier) hlast
    · obtain rfl := List.mem_singleton.1 hc
      exact ⟨_, _, rfl, hlost, rfl, hends⟩

theorem Ending.conflict_iff (hends : Ending e s n w calls last outcome) (tries : Nat) :
    outcome.1 = .error (.engine (.conflict tries)) ↔
      tries = e.config.maxCommitRetries ∧ calls.length = n ∧ ∀ c ∈ calls, c.Outdated := by
  cases hends with
  | exhausted hcalls hlength hlost =>
    constructor
    · rintro ⟨⟩
      exact ⟨rfl, hlength, hlost⟩
    · rintro ⟨rfl, -, -⟩
      rfl
  | settled hcalls hlength hlost hlast hends =>
    constructor
    · intro hconflict
      obtain ⟨-, hresult, -⟩ | ⟨fault, -, -, hresult, -⟩ | ⟨-, hresult, -⟩ :=
        hends.result (Call.kept hlast) <;> rw [hresult] at hconflict
      · exact absurd (Except.error.inj hconflict) (refusal_ne_conflict _ tries)
      · cases hconflict
      · cases hconflict
    · rintro ⟨-, -, hall⟩
      exact absurd (hall _ (by simp)) hlast

def Disapproved (calls : List (Call σ)) : Prop :=
  ∃ earlier c later, calls = earlier ++ c :: later ∧ c.answer = .ok false ∧ ∀ d ∈ earlier, d.Outdated

theorem Ending.refused (hends : Ending e s n w calls last outcome) (hcalls : Disapproved calls) :
    outcome.1 = .error (refusal (e.describe last s).1) := by
  obtain ⟨earlier, c, later, rfl, hanswer, -⟩ := hcalls
  have hlast : ¬ c.Outdated := by
    rintro ⟨happroved, -⟩
    cases hanswer.symm.trans happroved
  obtain ⟨-, attempts, -, -, rfl, hsettled⟩ := hends.last_call (by simp) hlast
  obtain ⟨-, hresult, -⟩ | ⟨fault, hother, -⟩ | ⟨hother, -⟩ := hsettled.result (Call.kept hlast)
  · exact hresult
  · exact absurd hanswer hother
  · exact absurd hanswer hother

theorem Ending.disapproved (hends : Ending e s n w calls last outcome)
    (hrefused : (∃ text, outcome.1 = .error (.engine (.inconsistentSentence text))) ∨
      ∃ panic : GrammarError, panic.isPanic = true ∧ outcome.1 = .error (.grammar panic)) :
    Disapproved calls := by
  cases hends with
  | exhausted hcalls hlength hlost =>
    obtain ⟨text, ⟨⟩⟩ | ⟨panic, -, ⟨⟩⟩ := hrefused
  | settled hcalls hlength hlost hlast hends =>
    obtain ⟨hanswer, -, -⟩ | ⟨fault, -, hfault, hresult, -⟩ | ⟨-, hresult, -⟩ :=
      hends.result (Call.kept hlast)
    · exact ⟨_, _, [], rfl, hanswer, hlost⟩
    · rw [hresult] at hrefused
      obtain ⟨text, ⟨⟩⟩ | ⟨_, hpanic, ⟨⟩⟩ := hrefused
      cases hfault.symm.trans hpanic
    · rw [hresult] at hrefused
      obtain ⟨text, ⟨⟩⟩ | ⟨panic, -, ⟨⟩⟩ := hrefused

theorem Ending.inconsistent_iff (hends : Ending e s n w calls last outcome) :
    (∃ text, outcome.1 = .error (.engine (.inconsistentSentence text))) ↔
      Disapproved calls ∧ ∀ panic : GrammarError, panic.isPanic = true →
        (e.translate last s s.language).1 ≠ .error panic := by
  constructor
  · intro hrefused
    have hcalls := hends.disapproved (.inl hrefused)
    refine ⟨hcalls, fun panic hpanic hworded => ?_⟩
    obtain ⟨text, hrefused⟩ := hrefused
    have hdescribed := describe_error_iff.2 ⟨hpanic, hworded⟩
    rw [hends.refused hcalls, hdescribed] at hrefused
    cases hrefused
  · rintro ⟨hcalls, hworded⟩
    rw [hends.refused hcalls]
    cases hdescribed : (e.describe last s).1 with
    | ok text => exact ⟨text, rfl⟩
    | error panic =>
      obtain ⟨hpanic, htranslated⟩ := describe_error_iff.1 hdescribed
      exact absurd htranslated (hworded panic hpanic)

theorem Ending.panic_iff (hends : Ending e s n w calls last outcome) {panic : GrammarError}
    (hpanic : panic.isPanic = true) : outcome.1 = .error (.grammar panic) ↔
      Disapproved calls ∧ (e.translate last s s.language).1 = .error panic := by
  have hrefused (hcalls : Disapproved calls) : outcome.1 = .error (.grammar panic) ↔
      (e.translate last s s.language).1 = .error panic := by
    rw [hends.refused hcalls, Except.error.injEq, refusal_eq_grammar_iff, describe_error_iff,
      and_iff_right hpanic]
  constructor
  · intro hresult
    have hcalls := hends.disapproved (.inr ⟨panic, hpanic, hresult⟩)
    exact ⟨hcalls, (hrefused hcalls).1 hresult⟩
  · rintro ⟨hcalls, hworded⟩
    exact (hrefused hcalls).2 hworded

theorem Ending.unchecked (hends : Ending e s n w calls last outcome) {c : Call σ} (hc : c ∈ calls)
    {error : ReasonError} (hanswer : c.answer = .error error) :
    c.after = last ∧ Unchecked (last.recordError error) s outcome := by
  have hlast : ¬ c.Outdated := by
    rintro ⟨happroved, -⟩
    cases hanswer.symm.trans happroved
  obtain ⟨-, attempts, -, -, rfl, hsettled⟩ := hends.last_call hc hlast
  rw [hanswer] at hsettled
  cases hsettled with
  | unanswered => exact ⟨rfl, commitUnchecked_unchecked _ s⟩

theorem Ending.stored (hends : Ending e s n w calls last outcome) :
    (∃ error, outcome.1 = .error error) ∧ outcome.2.ontology = last.ontology ∨
      outcome.1 = .ok last.ontology.nextSentence ∧
        outcome.2.ontology = last.ontology.withSentence s := by
  cases hends with
  | exhausted hcalls hlength hlost => exact .inl ⟨⟨_, rfl⟩, rfl⟩
  | settled hcalls hlength hlost hlast hends =>
    obtain ⟨-, hresult, hsame⟩ | ⟨fault, -, -, hresult, hsame⟩ | ⟨-, hresult, hadded⟩ :=
      hends.result (Call.kept hlast)
    · exact .inl ⟨⟨_, hresult⟩, hsame⟩
    · exact .inl ⟨⟨_, hresult⟩, hsame⟩
    · exact .inr ⟨hresult, hadded⟩

section Moves

variable (hmoves : ∀ query v, ∃ operations,
  (e.reasoner.consult query v).2.ontology = v.ontology.run operations)
include hmoves

theorem Calls.operations (hcalls : Calls e s w calls last) :
    ∃ operations, last.ontology = w.ontology.run operations := by
  induction hcalls with
  | nil w => exact ⟨[], rfl⟩
  | @cons w last calls hrest ih =>
    obtain ⟨first, hfirst⟩ := hmoves (approval w s) w
    obtain ⟨later, hlater⟩ := ih
    have hcall : (e.call s w).after.ontology = w.ontology.run first := hfirst
    refine ⟨first ++ later, ?_⟩
    rw [hlater, hcall]
    exact List.foldl_append.symm

end Moves

theorem addSentence_eq_attempt {construct : Construct} (hcheck : e.config.checkOnAdd = true)
    (hstated : s.question = false) (hvalid : w.ontology.validate s = .ok construct) :
    e.addSentence w s = e.attempt s e.config.maxCommitRetries w := by
  unfold addSentence
  rw [hstated, if_neg Bool.false_ne_true, hvalid]
  exact if_pos hcheck

/-- Before it answers, the reasoner may do whatever it likes to the ontology. A sentence that it
disapproves of is put into words, which is where a language may panic. -/
theorem addition_outcomes (e : Engine σ) (hcheck : e.config.checkOnAdd = true)
    (hmoves : ∀ query v, ∃ operations,
      (e.reasoner.consult query v).2.ontology = v.ontology.run operations)
    (name baseIri : String) (before : List Operation) (w : World σ)
    (hw : w.ontology = (Ontology.new name baseIri).run before) (s : Sentence)
    (hstated : s.question = false) (hvalid : ∃ construct, w.ontology.validate s = .ok construct) :
    let retries := e.config.maxCommitRetries
    let result := (e.addSentence w s).1
    let w' := (e.addSentence w s).2
    let observed := e.observed.addSentence (w.withCalls []) s
    let calls := observed.2.memory.2
    observed = (result, w'.withCalls calls) ∧
    ∃ last, Calls e s w calls last ∧ calls.length ≤ retries ∧
      (∀ tries, result = .error (.engine (.conflict tries)) ↔
        tries = retries ∧ calls.length = retries ∧ ∀ c ∈ calls, c.Outdated) ∧
      ((∃ text, result = .error (.engine (.inconsistentSentence text))) ↔
        (∃ earlier c later, calls = earlier ++ c :: later ∧ c.answer = .ok false ∧
          ∀ d ∈ earlier, d.Outdated) ∧
        ∀ panic : GrammarError, panic.isPanic = true →
          (e.translate last s s.language).1 ≠ .error panic) ∧
      (∀ panic : GrammarError, panic.isPanic = true →
        (result = .error (.grammar panic) ↔
          (∃ earlier c later, calls = earlier ++ c :: later ∧ c.answer = .ok false ∧
            ∀ d ∈ earlier, d.Outdated) ∧
          (e.translate last s s.language).1 = .error panic)) ∧
      (∀ c ∈ calls, ∀ error, c.answer = .error error →
        c.after = last ∧ Unchecked (last.recordError error) s (result, w')) ∧
      (∀ error, result = .error error → w'.ontology = last.ontology) ∧
      ∀ id, result = .ok id →
        w'.ontology.sentence? id = some s ∧
        (∀ other, other ≠ id → w'.ontology.sentence? other = last.ontology.sentence? other) ∧
        (id.val + 1 < UInt64.size →
          w'.ontology.sentences = last.ontology.sentences ++ [(id, s)]) := by
  intro retries result w' observed calls
  obtain ⟨construct, hvalid⟩ := hvalid
  have hattempt : e.addSentence w s = e.attempt s retries w :=
    addSentence_eq_attempt hcheck hstated hvalid
  have hattempt' : observed = e.observed.attempt s retries (w.withCalls []) :=
    addSentence_eq_attempt (e := e.observed) (w := w.withCalls []) hcheck hstated hvalid
  obtain ⟨made, last, hends, hobserved⟩ := attempt_observed e s retries w []
  rw [← hattempt] at hends
  have hnoted : observed = noted made (e.addSentence w s) := by
    rw [hattempt', hobserved, hattempt, List.nil_append]
  -- the calls that are written down are those that the ending is about
  have hcalls : calls = made := congrArg (·.2.memory.2) hnoted
  rw [← hcalls] at hends hnoted
  refine ⟨hnoted, last, hends.consecutive, hends.length_le, hends.conflict_iff,
    hends.inconsistent_iff, fun panic => hends.panic_iff,
    fun c hc error hanswer => hends.unchecked hc hanswer, ?_, ?_⟩
  · intro error hrefused
    obtain ⟨-, hsame⟩ | ⟨hadded, -⟩ := hends.stored
    · exact hsame
    · cases hrefused.symm.trans hadded
  · intro id hid
    obtain ⟨⟨error, hrefused⟩, -⟩ | ⟨hresult, hadded⟩ := hends.stored
    · cases hid.symm.trans hrefused
    · obtain rfl : id = last.ontology.nextSentence := Except.ok.inj (hid.symm.trans hresult)
      have hnumbered : last.ontology.Numbered := by
        obtain ⟨operations, hlast⟩ := hends.consecutive.operations hmoves
        rw [hlast, hw]
        exact numbered_run (numbered_run (numbered_new name baseIri) before) operations
      have hw' : w'.ontology = last.ontology.withSentence s := hadded
      rw [hw']
      refine ⟨?_, fun other hother => ?_, fun hroom => ?_⟩
      · rw [sentence?_withSentence, if_pos rfl]
      · rw [sentence?_withSentence, if_neg hother]
      · exact putSentence_eq_append (hnumbered hroom)

/-! A reasoner that somebody keeps interrupting. -/

abbrev Scene := List Operation × Except ReasonError Bool

def scripted : Reasoner (List Scene) where
  name := "scripted"
  consult _ w :=
    match w.memory with
    | [] => (.error (.unavailable "scripted" "the script has ended"), w)
    | (operations, answer) :: rest =>
      (answer, { w with ontology := w.ontology.run operations, memory := rest })

theorem scripted_moves (query : Query) (v : World (List Scene)) :
    ∃ operations, (scripted.consult query v).2.ontology = v.ontology.run operations := by
  unfold scripted
  dsimp only
  split
  · exact ⟨[], rfl⟩
  · exact ⟨_, rfl⟩

def twice : Engine (List Scene) where
  config := { maxCommitRetries := 2 }
  registry := .builtin
  languages := ["en"]
  reasoner := scripted
  exporters := []

def interrupted (answer : Except ReasonError Bool) : World (List Scene) :=
  twice.start ((Ontology.new "wiki" "http://example.org/").run birdAndBeing) [
    ([.addSentenceIf (.assertion (.subsumption being bird) "en") none], .ok true),
    ([.retractSentence .first], answer)]

theorem interrupted_addition :
    let lost := twice.observed.addSentence ((interrupted (.ok true)).withCalls []) everyBirdIsABeing
    let added := twice.addSentence (interrupted (.error (.budgetExceeded 7))) everyBirdIsABeing
    lost.1 = .error (.engine (.conflict 2)) ∧ lost.2.ontology.sentences = [] ∧
      lost.2.memory.2.length = 2 ∧ (∀ c ∈ lost.2.memory.2, c.Outdated) ∧
      added.1 = .ok ⟨SentenceId.first.toSerial.succ⟩ ∧
      added.2.ontology.sentence? ⟨SentenceId.first.toSerial.succ⟩ = some everyBirdIsABeing := by
  intro lost added
  have hvalid : ((Ontology.new "wiki" "http://example.org/").run birdAndBeing).validate
      everyBirdIsABeing = .ok .subsumption := by decide +kernel
  have houtcomes (answer : Except ReasonError Bool) :=
    addition_outcomes twice rfl scripted_moves "wiki" "http://example.org/" birdAndBeing
      (interrupted answer) rfl everyBirdIsABeing rfl ⟨.subsumption, hvalid⟩
  have hlost : lost.1 = .error (.engine (.conflict 2)) := by decide +kernel
  have hadded : added.1 = .ok ⟨SentenceId.first.toSerial.succ⟩ := by decide +kernel
  obtain ⟨hobserved, last, -, -, hconflict, -⟩ := houtcomes (.ok true)
  obtain ⟨-, _, -, -, -, -, -, -, -, hstored⟩ := houtcomes (.error (.budgetExceeded 7))
  have hresult : (twice.addSentence (interrupted (.ok true)) everyBirdIsABeing).1 =
      .error (.engine (.conflict 2)) := (congrArg Prod.fst hobserved).symm.trans hlost
  obtain ⟨-, hlength, houtdated⟩ := (hconflict 2).1 hresult
  exact ⟨hlost, by decide +kernel, hlength, houtdated, hadded, (hstored _ hadded).1⟩

/-! English without an indefinite article has no words for a sentence that the reasoner disapproves of. -/

def speechless : Engine (List Scene) :=
  { twice with registry := Registry.builtin.register { Language.english with indefinite := .fixed [] } }

example : (speechless.addSentence (speechless.start ((Ontology.new "wiki" "http://example.org/").run
    birdAndBeing) [([], .ok false)]) everyBirdIsABeing).1 =
      .error (.grammar (.linearizationFailed .nounSg "en" .noSpelling)) := by
  decide +kernel

end SemanticWiki.Engine
