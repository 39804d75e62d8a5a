import Mathlib.Data.List.Induction
import SemanticWiki.Proofs.Engine.Outcome

/-! The last error that a wiki reports. It takes note of every call of the reasoner that fails, and of
the success of a call for a check, for an answer, or for an addition that stores its sentence. The
success of a call for an addition that is refused goes unnoted. So the error is the one of the latest
call that has been noted, and it stays although the reasoner has answered since. -/

namespace SemanticWiki

open Ontology

variable {σ : Type}

def ReasonError.ofAnswer? : Except ReasonError Bool → Option ReasonError
  | .error error => some error
  | .ok _ => none

def Call.failure? (c : Call σ) : Option ReasonError := ReasonError.ofAnswer? c.answer

theorem Call.Outdated.failure?_eq_none {c : Call σ} (h : c.Outdated) : c.failure? = none := by
  rw [Call.failure?, h.1]
  rfl

structure Hearing (σ : Type) extends Call σ where
  noted : Bool
  failures_noted : noted = false → toCall.failure? = none

def Call.heard (c : Call σ) (successesNoted : Bool) : Hearing σ where
  toCall := c
  noted := c.failure?.isSome || successesNoted
  failures_noted h := by simpa using (Bool.or_eq_false_iff.1 h).1

namespace Engine

def reported (before : Option ReasonError) (h : Hearing σ) : Option ReasonError :=
  if h.noted then h.failure? else before

def actAll (e : Engine σ) (w : World σ) (actions : List Action) : World σ := actions.foldl e.act w

/-- Whether successes of the reasoner are noted: all but those for an addition that is refused. -/
def notesSuccesses (e : Engine σ) (w : World σ) : Action → Bool
  | .addSentence s => (e.addSentence w s).1.isOk
  | _ => true

def hearingsOf (e : Engine σ) (w : World (σ × List (Call σ))) (action : Action) : List (Hearing σ) :=
  ((e.observed.act w action).memory.2.drop w.memory.2.length).map
    (·.heard (e.observed.notesSuccesses w action))

def hearings (e : Engine σ) : World (σ × List (Call σ)) → List Action → List (Hearing σ)
  | _, [] => []
  | w, action :: rest => e.hearingsOf w action ++ e.hearings (e.observed.act w action) rest

variable {e : Engine σ} {s : Sentence} {n : Nat} {w w' last : World σ} {calls : List (Call σ)}
  {outcome : Except WikiError SentenceId × World σ} {before : Option ReasonError}

/-! The calls for one operation. -/

theorem foldl_reported_of_unnoted {heard : List (Hearing σ)} (h : ∀ c ∈ heard, c.noted = false) :
    heard.foldl reported before = before := by
  induction heard generalizing before with
  | nil => rfl
  | cons c rest ih =>
    obtain ⟨hc, hrest⟩ := List.forall_mem_cons.1 h
    have hkept : reported before c = before := by simp [reported, hc]
    rw [List.foldl_cons, hkept, ih hrest]

theorem reported_of_noted {c : Hearing σ} (h : c.noted = true) : reported before c = c.failure? :=
  if_pos h

theorem unnoted_of_successes (h : ∀ c ∈ calls, c.failure? = none) :
    ∀ c ∈ calls.map (·.heard false), c.noted = false := by
  intro hearing hmem
  obtain ⟨c, hc, rfl⟩ := List.mem_map.1 hmem
  simp [Call.heard, h c hc]

theorem lastError_commitUnchecked (w : World σ) (s : Sentence) :
    (commitUnchecked w s).2.lastError = w.lastError := by
  have hends := commitUnchecked_unchecked w s
  generalize commitUnchecked w s = outcome at hends ⊢
  cases hends with
  | misfit error hinvalid => rfl
  | committed construct hvalid => rfl

section Discreet

variable (hdiscreet : ∀ query (v : World σ), (e.reasoner.consult query v).2.lastError = v.lastError)
include hdiscreet

theorem Calls.lastError (hcalls : Calls e s w calls w') : w'.lastError = w.lastError := by
  induction hcalls with
  | nil w => rfl
  | cons hrest ih => exact ih.trans (hdiscreet _ _)

theorem Ending.lastError (hends : Ending e s n w calls last outcome) :
    outcome.2.lastError = (calls.map (·.heard outcome.1.isOk)).foldl reported w.lastError := by
  cases hends with
  | exhausted hcalls hlength hlost =>
    have hsuccesses : ∀ c ∈ calls, c.failure? = none := fun c hc => (hlost c hc).failure?_eq_none
    exact (Calls.lastError hdiscreet hcalls).trans
      (foldl_reported_of_unnoted (unnoted_of_successes hsuccesses)).symm
  | @settled earlier v attempts _ hcalls hlength hlost hlast hends =>
    have hbefore : (e.call s v).after.lastError = w.lastError :=
      (hdiscreet _ _).trans (Calls.lastError hdiscreet hcalls)
    -- if the last call is a success for nothing, so are the lost ones before it
    have hunnoted (hsuccess : (e.call s v).failure? = none) :
        w.lastError = ((earlier ++ [e.call s v]).map (·.heard false)).foldl reported w.lastError := by
      refine (foldl_reported_of_unnoted (unnoted_of_successes fun c hc => ?_)).symm
      rcases List.mem_append.1 hc with hc | hc
      · exact (hlost c hc).failure?_eq_none
      · rw [List.mem_singleton.1 hc, hsuccess]
    -- if it is noted, those before it do not matter
    have hnoted (stored : Bool) (hstored : ((e.call s v).heard stored).noted = true) :
        (e.call s v).failure? =
          ((earlier ++ [e.call s v]).map (·.heard stored)).foldl reported w.lastError := by
      rw [List.map_append, List.foldl_append]
      exact (reported_of_noted hstored).symm
    generalize hanswer : (e.call s v).answer = answer at hends
    have hfailure : (e.call s v).failure? = ReasonError.ofAnswer? answer :=
      congrArg ReasonError.ofAnswer? hanswer
    cases hends with
    | unanswered error =>
      have hrecorded : (commitUnchecked ((e.call s v).after.recordError error) s).2.lastError =
          some error := lastError_commitUnchecked _ s
      have hheard (stored : Bool) : ((e.call s v).heard stored).noted = true := by
        simp [Call.heard, hfailure, ReasonError.ofAnswer?]
      exact (hrecorded.trans hfailure.symm).trans (hnoted _ (hheard _))
    | refuted handlers => exact hbefore.trans (hunnoted hfailure)
    | misfit error hcurrent hinvalid => exact hbefore.trans (hunnoted hfailure)
    | committed construct hcurrent hvalid =>
      exact hfailure.symm.trans (hnoted true (by simp [Call.heard]))
    | moved hmoved => exact absurd ⟨hanswer, hmoved⟩ hlast

end Discreet

/-! One operation after the other. -/

/-- These are the calls for an operation: they are written down behind the earlier ones, and the wiki
makes of them what it reports afterwards. -/
structure HeardAs (e : Engine σ) (w : World σ) (earlier : List (Call σ)) (action : Action)
    (calls : List (Call σ)) : Prop where
  observed : e.observed.act (w.withCalls earlier) action =
    (e.act w action).withCalls (earlier ++ calls)
  lastError : (e.act w action).lastError =
    (calls.map (·.heard (e.observed.notesSuccesses (w.withCalls earlier) action))).foldl reported
      w.lastError

theorem heardAs_nil {earlier : List (Call σ)} {action : Action}
    (hobserved : e.observed.act (w.withCalls earlier) action = (e.act w action).withCalls earlier)
    (hlastError : (e.act w action).lastError = w.lastError) : HeardAs e w earlier action [] where
  observed := by rw [hobserved, List.append_nil]
  lastError := hlastError

theorem lastError_withHandler {α : Type} (e : Engine σ) (w : World σ) (code : String)
    (work : Handler → Ontology → α × Handler) :
    (e.withHandler w code work).2.lastError = w.lastError := by
  obtain ⟨handlers, hworld⟩ := e.withHandler_world w code work
  rw [hworld]

def callOf (e : Engine σ) (query : Query) (w : World σ) : Call σ :=
  ⟨⟨query, (e.reasoner.consult query w).1⟩, w, (e.reasoner.consult query w).2⟩

def settled (c : Call σ) (revision : Nat) : World σ :=
  match c.answer with
  | .ok _ => c.after.markSynced revision
  | .error error => c.after.recordError error

theorem checkConsistency_settled (e : Engine σ) (w : World σ) : (e.checkConsistency w).2 =
    settled (e.callOf (.consistency w.ontology.axioms) w) w.ontology.revision := by
  have hcall : e.reasoner.consult (.consistency w.ontology.axioms) w =
      ((e.callOf (.consistency w.ontology.axioms) w).answer,
        (e.callOf (.consistency w.ontology.axioms) w).after) := rfl
  unfold checkConsistency settled
  dsimp only
  rw [hcall]
  cases (e.callOf (.consistency w.ontology.axioms) w).answer <;> rfl

theorem answer_settled (e : Engine σ) (w : World σ) (s : Sentence) : (e.answer w s).2 =
    if s.question && (w.ontology.validate s).isOk then
      settled (e.callOf (.entailment w.ontology.axioms s.statement.toAxiom) w) w.ontology.revision
    else w := by
  have hcall : e.reasoner.consult (.entailment w.ontology.axioms s.statement.toAxiom) w =
      ((e.callOf (.entailment w.ontology.axioms s.statement.toAxiom) w).answer,
        (e.callOf (.entailment w.ontology.axioms s.statement.toAxiom) w).after) := rfl
  unfold answer settled
  cases s.question with
  | false => rfl
  | true =>
    cases w.ontology.validate s with
    | error error => rfl
    | ok construct =>
      dsimp only
      rw [hcall]
      cases (e.callOf (.entailment w.ontology.axioms s.statement.toAxiom) w).answer <;> rfl

theorem heardAs_settled {earlier : List (Call σ)} {action : Action} {query : Query} {revision : Nat}
    (hact : e.act w action = settled (e.callOf query w) revision)
    (hact' : e.observed.act (w.withCalls earlier) action =
      settled (e.observed.callOf query (w.withCalls earlier)) revision)
    (hnotes : e.observed.notesSuccesses (w.withCalls earlier) action = true) :
    HeardAs e w earlier action [e.callOf query w] := by
  have hcall : e.observed.callOf query (w.withCalls earlier) =
      ⟨⟨query, (e.callOf query w).answer⟩, w.withCalls earlier,
        (e.callOf query w).after.withCalls (earlier ++ [e.callOf query w])⟩ := rfl
  constructor
  · rw [hact, hact', hcall, settled, settled]
    cases (e.callOf query w).answer <;> rfl
  · have hlastError : (settled (e.callOf query w) revision).lastError =
        (e.callOf query w).failure? := by
      rw [settled, Call.failure?]
      cases (e.callOf query w).answer <;> rfl
    have hnoted : ((e.callOf query w).heard true).noted = true := by simp [Call.heard]
    rw [hact, hnotes, hlastError]
    exact (reported_of_noted hnoted).symm

theorem exists_heardAs_answer (e : Engine σ) (w : World σ) (earlier : List (Call σ)) (s : Sentence) :
    ∃ calls, HeardAs e w earlier (.answer s) calls := by
  have hact := answer_settled e w s
  have hact' := answer_settled e.observed (w.withCalls earlier) s
  by_cases hasked : (s.question && (w.ontology.validate s).isOk) = true
  · rw [if_pos hasked] at hact
    exact ⟨_, heardAs_settled hact (hact'.trans (if_pos hasked)) rfl⟩
  · rw [if_neg hasked] at hact
    have hsame : (e.observed.answer (w.withCalls earlier) s).2 = (e.answer w s).2.withCalls earlier := by
      rw [hact]
      exact hact'.trans (if_neg hasked)
    exact ⟨[], heardAs_nil hsame (congrArg World.lastError hact)⟩

section Discreet

variable (hdiscreet : ∀ query (v : World σ), (e.reasoner.consult query v).2.lastError = v.lastError)
include hdiscreet

theorem exists_heardAs_addSentence (w : World σ) (earlier : List (Call σ)) (s : Sentence) :
    ∃ calls, HeardAs e w earlier (.addSentence s) calls := by
  obtain ⟨calls, hobserved, hlastError⟩ : ∃ calls,
      e.observed.addSentence (w.withCalls earlier) s = noted (earlier ++ calls) (e.addSentence w s) ∧
        (e.addSentence w s).2.lastError =
          (calls.map (·.heard (e.addSentence w s).1.isOk)).foldl reported w.lastError := by
    obtain ⟨error, hrefused, hrefused'⟩ | ⟨-, -, hattempts, hattempts'⟩ | ⟨-, hcommits, hcommits'⟩ :=
      e.addSentence_observed_cases w earlier s
    · rw [hrefused, hrefused']
      exact ⟨[], by rw [List.append_nil]; rfl, rfl⟩
    · obtain ⟨calls, last, hends, hobserved⟩ :=
        attempt_observed e s e.config.maxCommitRetries w earlier
      rw [hattempts, hattempts']
      exact ⟨calls, hobserved, Ending.lastError hdiscreet hends⟩
    · rw [hcommits, hcommits']
      refine ⟨[], ?_, lastError_commitUnchecked w s⟩
      rw [List.append_nil]
      exact commitUnchecked_withCalls w earlier s
  refine ⟨calls, congrArg Prod.snd hobserved, ?_⟩
  show (e.addSentence w s).2.lastError =
    (calls.map (·.heard (e.observed.addSentence (w.withCalls earlier) s).1.isOk)).foldl reported _
  rw [hobserved]
  exact hlastError

theorem exists_heardAs (w : World σ) (earlier : List (Call σ)) (action : Action) :
    ∃ calls, HeardAs e w earlier action calls := by
  cases action with
  | perform operation => exact ⟨[], heardAs_nil rfl rfl⟩
  | createElement tag =>
    have hsame : (createElement w tag).2.lastError = w.lastError := by
      rw [(createElement_edited w tag).others]
    exact ⟨[], heardAs_nil (congrArg Prod.snd (createElement_withCalls w earlier tag)) hsame⟩
  | saveWords kind element wordNumber values => exact ⟨[], heardAs_nil rfl rfl⟩
  | removeElement id => exact ⟨[], heardAs_nil rfl rfl⟩
  | retractSentence id => exact ⟨[], heardAs_nil rfl rfl⟩
  | parse code text =>
    exact ⟨[], heardAs_nil (congrArg Prod.snd (parse_withCalls e w earlier code text))
      (e.lastError_withHandler w code fun h o => h.parse o text)⟩
  | translate s code =>
    exact ⟨[], heardAs_nil (congrArg Prod.snd (translate_withCalls e w earlier s code))
      (e.lastError_withHandler w code fun h o => h.render o s)⟩
  | addSentence s => exact exists_heardAs_addSentence hdiscreet w earlier s
  | checkConsistency =>
    exact ⟨_, heardAs_settled (checkConsistency_settled e w)
      (checkConsistency_settled e.observed (w.withCalls earlier)) rfl⟩
  | answer s => exact exists_heardAs_answer e w earlier s

omit hdiscreet in
theorem actAll_cons (e : Engine σ) (w : World σ) (action : Action) (rest : List Action) :
    e.actAll w (action :: rest) = e.actAll (e.act w action) rest := rfl

theorem actAll_observed (w : World σ) (earlier : List (Call σ)) (actions : List Action) :
    e.observed.actAll (w.withCalls earlier) actions = (e.actAll w actions).withCalls
        (earlier ++ (e.hearings (w.withCalls earlier) actions).map (·.toCall)) ∧
      (e.actAll w actions).lastError =
        (e.hearings (w.withCalls earlier) actions).foldl reported w.lastError := by
  induction actions generalizing w earlier with
  | nil =>
    refine ⟨?_, rfl⟩
    rw [hearings, List.map_nil, List.append_nil]
    rfl
  | cons action rest ih =>
    obtain ⟨calls, hobserved, hlastError⟩ := exists_heardAs hdiscreet w earlier action
    have hheard : e.hearingsOf (w.withCalls earlier) action =
        calls.map (·.heard (e.observed.notesSuccesses (w.withCalls earlier) action)) := by
      have hnew : ((e.act w action).withCalls (earlier ++ calls)).memory.2.drop
          (w.withCalls earlier).memory.2.length = calls := List.drop_left
      rw [hearingsOf, hobserved, hnew]
    have hcalls : (e.hearingsOf (w.withCalls earlier) action).map (·.toCall) = calls := by
      rw [hheard, List.map_map]
      exact List.map_id calls
    obtain ⟨hrun, hreported⟩ := ih (e.act w action) (earlier ++ calls)
    rw [actAll_cons, actAll_cons, hearings, hobserved]
    constructor
    · rw [List.map_append, hcalls, ← List.append_assoc, hrun]
    · rw [List.foldl_append, hheard, ← hlastError, hreported]

end Discreet

/-! What the wiki reports at the end. -/

def latestFailure? (heard : List (Hearing σ)) : Option ReasonError :=
  heard.getLast?.bind (·.failure?)

variable {heard front : List (Hearing σ)} {final : Hearing σ}

theorem latestFailure?_concat : latestFailure? (front ++ [final]) = final.failure? := by
  rw [latestFailure?, List.getLast?_concat]
  rfl

theorem foldl_reported_concat : (front ++ [final]).foldl reported none =
    if final.noted then final.failure? else front.foldl reported none := by
  rw [List.foldl_append]
  rfl

theorem concat_eq_append_cons {α : Type} {front earlier later : List α} {final c : α}
    (h : front ++ [final] = earlier ++ c :: later) :
    (later = [] ∧ c = final ∧ front = earlier) ∨
      ∃ behind, later = behind ++ [final] ∧ front = earlier ++ c :: behind := by
  rcases List.eq_nil_or_concat' later with rfl | ⟨behind, d, rfl⟩
  · obtain ⟨hfront, hfinal⟩ := List.append_inj' h rfl
    exact .inl ⟨rfl, (List.singleton_inj.1 hfinal).symm, hfront⟩
  · rw [← List.cons_append, ← List.append_assoc] at h
    obtain ⟨hfront, hfinal⟩ := List.append_inj' h rfl
    obtain rfl := List.singleton_inj.1 hfinal
    exact .inr ⟨behind, rfl, hfront⟩

theorem foldl_reported_eq_some_iff {error : ReasonError} :
    heard.foldl reported none = some error ↔ ∃ earlier c later, heard = earlier ++ c :: later ∧
      c.failure? = some error ∧ ∀ d ∈ later, d.noted = false := by
  induction heard using List.reverseRecOn with
  | nil => simp
  | append_singleton front final ih =>
    rw [foldl_reported_concat]
    cases hnoted : final.noted with
    | true =>
      rw [if_pos rfl]
      constructor
      · intro hfails
        exact ⟨front, final, [], rfl, hfails, by simp⟩
      · rintro ⟨earlier, c, later, hsplit, hfails, hunnoted⟩
        obtain ⟨-, rfl, -⟩ | ⟨behind, rfl, -⟩ := concat_eq_append_cons hsplit
        · exact hfails
        · cases hnoted.symm.trans (hunnoted final (by simp))
    | false =>
      rw [if_neg Bool.false_ne_true, ih]
      constructor
      · rintro ⟨earlier, c, later, rfl, hfails, hunnoted⟩
        refine ⟨earlier, c, later ++ [final], by simp, hfails, fun d hd => ?_⟩
        rcases List.mem_append.1 hd with hd | hd
        · exact hunnoted d hd
        · rw [List.mem_singleton.1 hd, hnoted]
      · rintro ⟨earlier, c, later, hsplit, hfails, hunnoted⟩
        obtain ⟨-, rfl, -⟩ | ⟨behind, rfl, hfront⟩ := concat_eq_append_cons hsplit
        · cases (c.failures_noted hnoted).symm.trans hfails
        · exact ⟨earlier, c, behind, hfront, hfails, fun d hd => hunnoted d (by simp [hd])⟩

/-- The report is out of date if and only if there have been calls since the failure that it is about,
and none of them has been noted. -/
theorem foldl_reported_ne_latestFailure?_iff :
    heard.foldl reported none ≠ latestFailure? heard ↔
      ∃ earlier c later, heard = earlier ++ c :: later ∧ c.failure? ≠ none ∧ later ≠ [] ∧
        ∀ d ∈ later, d.noted = false := by
  rcases List.eq_nil_or_concat' heard with rfl | ⟨front, final, rfl⟩
  · simp [latestFailure?]
  · cases hnoted : final.noted with
    | true =>
      rw [foldl_reported_concat, latestFailure?_concat, hnoted, if_pos rfl]
      refine iff_of_false (fun hne => hne rfl) ?_
      rintro ⟨earlier, c, later, hsplit, -, hlater, hunnoted⟩
      obtain ⟨rfl, -, -⟩ | ⟨behind, rfl, -⟩ := concat_eq_append_cons hsplit
      · exact hlater rfl
      · cases hnoted.symm.trans (hunnoted final (by simp))
    | false =>
      have hsuccess : final.failure? = none := final.failures_noted hnoted
      rw [latestFailure?_concat, hsuccess, Option.ne_none_iff_exists']
      simp only [foldl_reported_eq_some_iff, Option.ne_none_iff_exists']
      constructor
      · rintro ⟨error, earlier, c, later, hsplit, hfails, hunnoted⟩
        refine ⟨earlier, c, later, hsplit, ⟨error, hfails⟩, ?_, hunnoted⟩
        rintro rfl
        obtain ⟨-, rfl, -⟩ | ⟨behind, hbehind, -⟩ := concat_eq_append_cons hsplit
        · cases hsuccess.symm.trans hfails
        · simp at hbehind
      · rintro ⟨earlier, c, later, hsplit, ⟨error, hfails⟩, -, hunnoted⟩
        exact ⟨error, earlier, c, later, hsplit, hfails, hunnoted⟩

/-- The calls behind a failure that go unnoted are successes for additions that are refused. -/
theorem last_error_exact (e : Engine σ)
    (hdiscreet : ∀ query (v : World σ), (e.reasoner.consult query v).2.lastError = v.lastError)
    (ontology : Ontology) (memory : σ) (actions : List Action) :
    let start := e.start ontology memory
    let final := e.actAll start actions
    let heard := e.hearings (start.withCalls []) actions
    e.observed.actAll (start.withCalls []) actions = final.withCalls (heard.map (·.toCall)) ∧
    (∀ error, (e.status final).lastError = some error ↔
      ∃ earlier c later, heard = earlier ++ c :: later ∧ c.failure? = some error ∧
        ∀ d ∈ later, d.noted = false) ∧
    ((e.status final).lastError ≠ latestFailure? heard ↔
      ∃ earlier c later, heard = earlier ++ c :: later ∧ c.failure? ≠ none ∧ later ≠ [] ∧
        ∀ d ∈ later, d.noted = false) := by
  intro start final heard
  obtain ⟨hobserved, hreported⟩ := actAll_observed hdiscreet start [] actions
  have hstatus : (e.status final).lastError = heard.foldl reported none := hreported
  rw [hstatus]
  exact ⟨hobserved, fun _ => foldl_reported_eq_some_iff, foldl_reported_ne_latestFailure?_iff⟩

theorem scripted_discreet (query : Query) (v : World (List Scene)) :
    (scripted.consult query v).2.lastError = v.lastError := by
  unfold scripted
  dsimp only
  split <;> rfl

def recovering : World (List Scene) :=
  twice.start ((Ontology.new "wiki" "http://example.org/").run birdAndBeing)
    [([], .error (.unavailable "scripted" "no connection")), ([], .ok false), ([], .ok true)]

theorem refusal_goes_unnoted :
    let refused := [.checkConsistency, .addSentence everyBirdIsABeing]
    let checked := refused ++ [.checkConsistency]
    (∃ earlier c later, twice.hearings (recovering.withCalls []) refused = earlier ++ c :: later ∧
      c.failure? ≠ none ∧ later ≠ [] ∧ ∀ d ∈ later, d.noted = false) ∧
    (twice.status (twice.actAll recovering checked)).lastError = none := by
  intro refused checked
  have hstays : (twice.status (twice.actAll recovering refused)).lastError ≠
      latestFailure? (twice.hearings (recovering.withCalls []) refused) := by decide +kernel
  obtain ⟨-, -, houtdated⟩ := last_error_exact twice scripted_discreet recovering.ontology
    recovering.memory refused
  exact ⟨houtdated.1 hstays, by decide +kernel⟩

theorem error_outlives_answers :
    let outage : Scene := ([], .error (.unavailable "scripted" "no connection"))
    let actions := [.checkConsistency, .addSentence everyBirdIsABeing]
    let start (scenes : List Scene) :=
      twice.start ((Ontology.new "wiki" "http://example.org/").run birdAndBeing) (outage :: scenes)
    let heard (scenes : List Scene) := twice.hearings ((start scenes).withCalls []) actions
    let reports (scenes : List Scene) :=
      (twice.status (twice.actAll (start scenes) actions)).lastError
    let refused : List Scene := [([], .ok false)]
    let moving : List Scene := [
      ([.addSentenceIf (.assertion (.subsumption being bird) "en") none], .ok true),
      ([.retractSentence .first], .ok true)]
    (heard refused).map (·.answer) = [outage.2, .ok false] ∧ reports refused ≠ none ∧
      (heard moving).map (·.answer) = [outage.2, .ok true, .ok true] ∧
      reports moving ≠ none := by
  decide +kernel

end Engine

end SemanticWiki
