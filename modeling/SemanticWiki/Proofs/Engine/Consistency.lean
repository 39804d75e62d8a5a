import Mathlib
import SemanticWiki.Proofs.Engine.Run
import SemanticWiki.Proofs.Ontology.Revision
import SemanticWiki.Proofs.Reason.Models

/-! A wiki that checks what is added to it stays consistent, whatever happens to it while the reasoner
is busy. A verdict is about the axioms of one revision, and a sentence is added at that revision
only, so the axioms that were approved are the ones that the wiki has afterwards. -/

universe u

namespace SemanticWiki

open Ontology

theorem Reason.Satisfiable.mono {axioms axioms' : List Axiom} (h : Satisfiable.{u} axioms')
    (hsub : axioms ⊆ axioms') : Satisfiable.{u} axioms := by
  obtain ⟨M, hM⟩ := h
  exact ⟨M, fun ax hax => hM ax (hsub hax)⟩

theorem Reason.satisfiable_nil : Satisfiable.{u} [] :=
  satisfiable_iff.2 fun hcontra => by
    cases hcontra with
    | parted ha hb hab =>
      obtain ⟨a, hstated, -⟩ := ha
      cases hstated
    | denied hdenied hc => cases hdenied

def Reason.MayReply (budget : Nat) (query : Query) (answer : Except ReasonError Bool) : Prop :=
  ∃ order : IterationOrder, order.ask budget query = answer

open Reason

variable {w w' w'' : RecordedWorld} {s : Sentence} {id : SentenceId} {budget : Nat}

def World.Answered (w : RecordedWorld) : Prop :=
  ∀ c ∈ w.memory, ∃ verdict, c.answer = .ok verdict

structure World.Sound (w : RecordedWorld) : Prop where
  numbered : w.ontology.Numbered
  consistent : w.Answered → Satisfiable.{0} w.ontology.axioms.axioms

structure World.Keeps (w w' : RecordedWorld) : Prop where
  precedes : w.ontology.Precedes w'.ontology
  memory : w.memory <:+ w'.memory
  sound : w.Sound → w'.Sound

namespace World

theorem Answered.of_suffix (h : w'.Answered) (hsuffix : w.memory <:+ w'.memory) : w.Answered :=
  fun c hc => h c (hsuffix.subset hc)

theorem Keeps.refl (w : RecordedWorld) : w.Keeps w := ⟨.refl _, List.suffix_refl _, id⟩

theorem Keeps.trans (h : w.Keeps w') (h' : w'.Keeps w'') : w.Keeps w'' where
  precedes := h.precedes.trans h'.precedes
  memory := h.memory.trans h'.memory
  sound hsound := h'.sound (h.sound hsound)

theorem Keeps.of_change (hchange : Change w.ontology w'.ontology)
    (hmemory : w'.memory = w.memory)
    (hconsistent : w.Sound → w.Answered → Satisfiable.{0} w'.ontology.axioms.axioms) :
    w.Keeps w' := by
  have hsuffix : w.memory <:+ w'.memory := hmemory ▸ List.suffix_refl _
  refine ⟨hchange.precedes, hsuffix, fun hsound => ?_⟩
  exact ⟨hchange.numbered hsound.numbered, fun hanswered =>
    hconsistent hsound (hanswered.of_suffix hsuffix)⟩

theorem Keeps.of_same_ontology (hontology : w'.ontology = w.ontology)
    (hmemory : w'.memory = w.memory) : w.Keeps w' := by
  refine .of_change (hontology ▸ .none) hmemory fun hsound hanswered => ?_
  rw [hontology]
  exact hsound.consistent hanswered

theorem Edited.keeps (h : w.Edited w') : w.Keeps w' :=
  .of_change h.change (by rw [h.others]) fun hsound hanswered =>
    (hsound.consistent hanswered).mono (axioms_subset h.sentences)

theorem keeps_note (w : RecordedWorld) (c : Consultation) : w.Keeps (w.note c) where
  precedes := .refl _
  memory := List.suffix_cons c w.memory
  sound hsound := ⟨hsound.numbered, fun hanswered =>
    hsound.consistent (hanswered.of_suffix (List.suffix_cons c w.memory))⟩

end World

namespace Engine

open World

variable {e : Engine (List Consultation)} {attempts : Nat}
  {answer : Query → RecordedWorld → Except ReasonError Bool}
  {meanwhile : Query → RecordedWorld → RecordedWorld}

theorem keeps_commitUnchecked (hfailed : ¬ w.Answered) (s : Sentence) :
    w.Keeps (commitUnchecked w s).2 := by
  have hends := commitUnchecked_unchecked w s
  generalize commitUnchecked w s = result at hends ⊢
  cases hends with
  | misfit error hinvalid => exact .refl w
  | committed construct hvalid =>
    exact .of_change (.added s ⟨construct, hvalid⟩) rfl fun _ hanswered =>
      absurd hanswered hfailed

theorem satisfiable_withSentence {o : Ontology}
    (hreply : MayReply budget (.consistency (o.axioms.extend s.statement.toAxiom)) (.ok true)) :
    Satisfiable.{0} (o.withSentence s).axioms.axioms := by
  obtain ⟨order, hask⟩ := hreply
  have happroved : Satisfiable.{0} (o.axioms.axioms ++ [s.statement.toAxiom]) :=
    satisfiable_iff.2 ((IterationOrder.ask_ok hask).1 rfl)
  refine happroved.mono fun ax hax => ?_
  rw [List.mem_append, List.mem_singleton]
  exact mem_axioms_withSentence hax

theorem satisfiable_of_approval (hprecedes : w.ontology.Precedes w'.ontology)
    (hcurrent : w'.ontology.revision = w.ontology.revision)
    (hreply : MayReply budget (approval w s) (.ok true)) :
    Satisfiable.{0} (w'.ontology.withSentence s).axioms.axioms := by
  obtain ⟨allocator, hsame⟩ := hprecedes.eq_of_revision_eq hcurrent
  rw [hsame]
  exact satisfiable_withSentence (o := w.ontology) hreply

section Attempts

variable (hreplies : ∀ query v, MayReply budget query (answer query v))
  (hmeanwhile : ∀ query v, World.Keeps v (meanwhile query v))
include hreplies hmeanwhile

theorem attempt_among (e : Engine (List Consultation)) (attempts : Nat) (s : Sentence) (n : Nat)
    (w : RecordedWorld) :
    ∃ (w' : RecordedWorld) (reply : Except ReasonError Bool) (earlier : List Consultation),
      w.Keeps w' ∧ MayReply budget (approval w s) reply ∧
      w'.memory = ⟨approval w s, reply⟩ :: earlier ∧
      Attempt (e.among attempts answer meanwhile) s n w w' reply
        ((e.among attempts answer meanwhile).attempt s (n + 1) w) :=
  ⟨_, _, _, (hmeanwhile _ w).trans (keeps_note _ _), hreplies _ w, rfl, attempt_succ _ s n w⟩

theorem keeps_attempt (s : Sentence) (n : Nat) (w : RecordedWorld) :
    w.Keeps ((e.among attempts answer meanwhile).attempt s n w).2 := by
  induction n generalizing w with
  | zero => exact .refl w
  | succ n ih =>
    obtain ⟨w', reply, earlier, hkeeps, hreply, hmemory, hends⟩ :=
      attempt_among hreplies hmeanwhile e attempts s n w
    generalize (e.among attempts answer meanwhile).attempt s (n + 1) w = result at hends ⊢
    refine hkeeps.trans ?_
    cases hends with
    | unanswered error =>
      have hfailed : ¬ (w'.recordError error).Answered := by
        intro hanswered
        obtain ⟨verdict, hverdict⟩ := hanswered ⟨_, .error error⟩ (by
          rw [show (w'.recordError error).memory = _ from hmemory]
          exact List.mem_cons_self)
        cases hverdict
      have hrecorded : w'.Keeps (w'.recordError error) := .of_same_ontology rfl rfl
      exact hrecorded.trans (keeps_commitUnchecked hfailed s)
    | refuted handlers => exact .of_same_ontology rfl rfl
    | misfit error hcurrent hinvalid => exact .refl w'
    | committed construct hcurrent hvalid =>
      exact .of_change (.added s ⟨construct, hvalid⟩) rfl fun _ _ =>
        satisfiable_of_approval hkeeps.precedes hcurrent hreply
    | moved hmoved => exact ih w'

theorem keeps_addSentence (hcheck : e.config.checkOnAdd = true) (s : Sentence)
    (w : RecordedWorld) :
    w.Keeps ((e.among attempts answer meanwhile).addSentence w s).2 := by
  rcases (e.among attempts answer meanwhile).addSentence_checked hcheck w s with
    ⟨error, hrefused⟩ | ⟨-, hattempts⟩
  · rw [hrefused]
    exact .refl w
  · rw [hattempts]
    exact keeps_attempt hreplies hmeanwhile s _ w

omit hreplies in
theorem keeps_checkConsistency (w : RecordedWorld) :
    w.Keeps ((e.among attempts answer meanwhile).checkConsistency w).2 := by
  have hbusy := hmeanwhile (.consistency w.ontology.axioms) w
  unfold checkConsistency
  dsimp only [among, Reasoner.among]
  cases answer (.consistency w.ontology.axioms) w <;>
    exact hbusy.trans ((keeps_note _ _).trans (.of_same_ontology rfl rfl))

omit hreplies in
theorem keeps_answer (s : Sentence) (w : RecordedWorld) :
    w.Keeps ((e.among attempts answer meanwhile).answer w s).2 := by
  have hbusy := hmeanwhile (.entailment w.ontology.axioms s.statement.toAxiom) w
  unfold Engine.answer
  split
  · exact .refl w
  · split
    · exact .refl w
    · dsimp only [among, Reasoner.among]
      cases answer (.entailment w.ontology.axioms s.statement.toAxiom) w <;>
        exact hbusy.trans ((keeps_note _ _).trans (.of_same_ontology rfl rfl))

omit hreplies hmeanwhile in
theorem keeps_withHandler {α : Type} (e : Engine (List Consultation)) (w : RecordedWorld)
    (code : String) (work : Handler → Ontology → α × Handler) :
    w.Keeps (e.withHandler w code work).2 := by
  obtain ⟨handlers, hworld⟩ := e.withHandler_world w code work
  rw [hworld]
  exact .of_same_ontology rfl rfl

theorem keeps_act (hcheck : e.config.checkOnAdd = true) (w : RecordedWorld) (action : Action)
    (hoffered : action.offered = true) :
    w.Keeps ((e.among attempts answer meanwhile).act w action) := by
  cases action with
  | perform operation => cases hoffered
  | createElement tag => exact (createElement_edited w tag).keeps
  | saveWords kind element wordNumber values =>
    exact (saveWords_edited kind w element wordNumber values).keeps
  | removeElement id => exact (removeElement_edited w id).keeps
  | retractSentence id => exact (retractSentence_edited w id).keeps
  | parse code text => exact keeps_withHandler _ w code fun h o => h.parse o text
  | translate s code => exact keeps_withHandler _ w code fun h o => h.render o s
  | addSentence s => exact keeps_addSentence hreplies hmeanwhile hcheck s w
  | checkConsistency => exact keeps_checkConsistency hmeanwhile w
  | answer s => exact keeps_answer hmeanwhile s w

theorem attempt_approved (hstated : s.question = false) (n : Nat) (w : RecordedWorld)
    (hsound : w.Sound)
    (hadded : (e.among attempts answer meanwhile).attempt s n w = (.ok id, w'))
    (hroom : id.val + 1 < UInt64.size) :
    ∃ c earlier, w'.memory = c :: earlier ∧
      (c.answer = .ok true → c.query.axioms.axioms = w'.ontology.axioms.axioms) := by
  induction n generalizing w with
  | zero => cases hadded
  | succ n ih =>
    obtain ⟨v, reply, earlier, hkeeps, hreply, hmemory, hends⟩ :=
      attempt_among hreplies hmeanwhile e attempts s n w
    generalize (e.among attempts answer meanwhile).attempt s (n + 1) w = result at hends hadded
    cases hends with
    | unanswered error =>
      have hkept : w'.memory = v.memory := by
        rw [← congrArg (·.2.memory) hadded]
        exact memory_commitUnchecked (v.recordError error) s
      refine ⟨_, earlier, hkept.trans hmemory, fun hyes => ?_⟩
      cases hyes
    | refuted handlers => cases hadded
    | misfit error hcurrent hinvalid => cases hadded
    | committed construct hcurrent hvalid =>
      cases hadded
      refine ⟨_, earlier, hmemory, fun _ => ?_⟩
      exact axioms_of_approval hkeeps.precedes hcurrent (hkeeps.sound hsound).numbered hroom hstated
    | moved hmoved => exact ih v (hkeeps.sound hsound) hadded

theorem addSentence_approved (hcheck : e.config.checkOnAdd = true) (hsound : w.Sound)
    (hadded : (e.among attempts answer meanwhile).addSentence w s = (.ok id, w'))
    (hroom : id.val + 1 < UInt64.size) :
    ∃ c earlier, w'.memory = c :: earlier ∧
      (c.answer = .ok true → c.query.axioms.axioms = w'.ontology.axioms.axioms) := by
  rcases (e.among attempts answer meanwhile).addSentence_checked hcheck w s with
    ⟨error, hrefused⟩ | ⟨hstated, hattempts⟩
  · rw [hrefused] at hadded
    cases hadded
  · rw [hattempts] at hadded
    exact attempt_approved hreplies hmeanwhile hstated _ w hsound hadded hroom

end Attempts

theorem Run.keeps (hcheck : e.config.checkOnAdd = true) (hrun : e.Run (MayReply budget) w w') :
    w.Keeps w' :=
  hrun.induction .refl .trans fun _ action w hoffered hreplies hmeanwhile =>
    keeps_act hreplies hmeanwhile hcheck w action hoffered

theorem sound_start (e : Engine (List Consultation)) : (e.start e.emptyOntology []).Sound where
  numbered := numbered_new _ _
  consistent _ := satisfiable_nil

/-- The axioms that were approved are those that the wiki has afterwards, unless the numbers of sentences
have run out. -/
theorem checked_wiki_consistent (e : Engine (List Consultation))
    (hcheck : e.config.checkOnAdd = true) (budget : Nat) (w : RecordedWorld)
    (hrun : e.Run (MayReply budget) (e.start e.emptyOntology []) w) :
    ((∀ c ∈ w.memory, ∃ verdict, c.answer = .ok verdict) →
      Satisfiable.{u} w.ontology.axioms.axioms) ∧
    ∀ attempts s answer meanwhile id,
      (∀ query v, MayReply budget query (answer query v)) →
      (∀ query v, e.Run (MayReply budget) v (meanwhile query v)) →
      let added := (e.among attempts answer meanwhile).addSentence w s
      added.1 = .ok id → id.val + 1 < UInt64.size →
        ∃ c earlier, added.2.memory = c :: earlier ∧
          (c.answer = .ok true → c.query.axioms.axioms = added.2.ontology.axioms.axioms) := by
  have hsound : w.Sound := (hrun.keeps hcheck).sound (sound_start e)
  constructor
  · intro hanswered
    exact satisfiable_iff.2 (satisfiable_iff.1 (hsound.consistent hanswered))
  · intro attempts s answer meanwhile id hreplies hmeanwhile added hadded hroom
    exact addSentence_approved hreplies (fun query v => (hmeanwhile query v).keeps hcheck) hcheck
      hsound (Prod.ext hadded rfl) hroom

/-! Two sentences that contradict each other are added at the same time. -/

def man : ElementId := ⟨.first⟩
def woman : ElementId := ⟨man.toSerial.succ⟩
def sue : ElementId := ⟨woman.toSerial.succ⟩

def noManIsAWoman : Sentence := .assertion (.disjointness man woman) "en"
def sueIsA (concept : ElementId) : Sentence := .assertion (.membership sue concept) "en"

def knownVerdicts : List (Query × Bool) :=
  let rule : Axiom := .disjointClasses man woman
  [(.consistency ⟨3, [rule]⟩, true),
   (.consistency ⟨4, [rule, .classAssertion sue man]⟩, true),
   (.consistency ⟨4, [rule, .classAssertion sue woman]⟩, true),
   (.consistency ⟨5, [rule, .classAssertion sue woman, .classAssertion sue man]⟩, false)]

def knownReply (query : Query) (_ : RecordedWorld) : Except ReasonError Bool :=
  match knownVerdicts.lookup query with
  | some verdict => .ok verdict
  | none => (Backend.saturation 100).ask query

theorem mayReply_knownReply (query : Query) (w : RecordedWorld) :
    MayReply 100 query (knownReply query w) := by
  have hknown : ∀ entry ∈ knownVerdicts,
      (Backend.saturation 100).ask entry.1 = .ok entry.2 := by
    intro entry hentry
    simp only [knownVerdicts, List.mem_cons, List.not_mem_nil, or_false] at hentry
    rcases hentry with rfl | rfl | rfl | rfl <;> cbv
  refine ⟨.asBuilt, ?_⟩
  unfold knownReply
  split
  · rename_i verdict hlookup
    obtain ⟨before, after, hsplit, -⟩ := List.lookup_eq_some_iff.1 hlookup
    exact hknown (query, verdict) (by simp [hsplit])
  · rfl

def undisturbed : Engine (List Consultation) where
  config := {}
  registry := .builtin
  languages := ["en"]
  reasoner := .among "saturation" knownReply nothingMeanwhile
  exporters := []

def addedMeanwhile (_ : Query) (w : RecordedWorld) : RecordedWorld :=
  if w.memory.length = 1 then (undisturbed.addSentence w (sueIsA woman)).2 else w

theorem Run.known {w w' : RecordedWorld} (hrun : undisturbed.Run (MayReply 100) w w')
    {meanwhile : Query → RecordedWorld → RecordedWorld}
    (hmeanwhile : ∀ query v, undisturbed.Run (MayReply 100) v (meanwhile query v)) (action : Action)
    (hoffered : action.offered = true) :
    undisturbed.Run (MayReply 100) w ((undisturbed.among 3 knownReply meanwhile).act w' action) :=
  hrun.act ⟨3, knownReply, meanwhile⟩ mayReply_knownReply hmeanwhile action hoffered

theorem Run.addEntry {w w' : RecordedWorld} (hrun : undisturbed.Run (MayReply 100) w w')
    (entry : LexiconEntry) : undisturbed.Run (MayReply 100) w (Engine.addEntry w' entry).2 := by
  have hquiet : ∀ query v, undisturbed.Run (MayReply 100) v (nothingMeanwhile query v) :=
    fun _ v => .refl v
  have hcreated : undisturbed.Run (MayReply 100) w (Engine.createElement w' entry.tag).2 :=
    hrun.known hquiet (.createElement entry.tag) rfl
  unfold Engine.addEntry
  generalize Engine.createElement w' entry.tag = created at hcreated ⊢
  obtain ⟨element, v⟩ := created
  cases element with
  | none => exact hcreated
  | some element =>
    exact hcreated.known hquiet (.saveWords element.kind element 0 (entry.values element.kind)) rfl

def people : RecordedWorld :=
  let entries : List LexiconEntry :=
    [⟨"noun", ["man", "men"], false⟩, ⟨"noun", ["woman", "women"], false⟩,
     ⟨"propername", ["Sue"], false⟩]
  entries.foldl (fun w entry => (addEntry w entry).2)
    (undisturbed.start undisturbed.emptyOntology [])

def ruled : Except WikiError SentenceId × RecordedWorld :=
  undisturbed.addSentence people noManIsAWoman

def contested : Except WikiError SentenceId × RecordedWorld :=
  (undisturbed.among 3 knownReply addedMeanwhile).addSentence ruled.2 (sueIsA man)

/-- One of the two sentences is refused, though it was approved before the other one came. -/
theorem contradictory_additions_admit_one :
    ruled.1 = .ok .first ∧
      (∃ c earlier, ruled.2.memory = c :: earlier ∧ c.answer = .ok true ∧
        c.query.axioms.axioms = ruled.2.ontology.axioms.axioms) ∧
      contested.1 = .error (.engine (.inconsistentSentence "Sue is a man.")) ∧
      contested.2.ontology.axioms.axioms =
        [.disjointClasses man woman, .classAssertion sue woman] ∧
      Satisfiable.{0} contested.2.ontology.axioms.axioms := by
  let start := undisturbed.start undisturbed.emptyOntology []
  have hquiet : ∀ query v, undisturbed.Run (MayReply 100) v (nothingMeanwhile query v) :=
    fun _ v => .refl v
  have hpeople : undisturbed.Run (MayReply 100) start people :=
    Run.addEntry (Run.addEntry (Run.addEntry (.refl start) _) _) _
  have hruled : undisturbed.Run (MayReply 100) start ruled.2 :=
    Run.known hpeople hquiet (.addSentence noManIsAWoman) rfl
  have hmeanwhile : ∀ query v, undisturbed.Run (MayReply 100) v (addedMeanwhile query v) := by
    intro query v
    unfold addedMeanwhile
    split
    · exact Run.known (.refl v) hquiet (.addSentence (sueIsA woman)) rfl
    · exact .refl v
  have hcontested : undisturbed.Run (MayReply 100) start contested.2 :=
    Run.known hruled hmeanwhile (.addSentence (sueIsA man)) rfl
  obtain ⟨-, happroved⟩ := checked_wiki_consistent.{0} undisturbed rfl 100 people hpeople
  obtain ⟨hconsistent, -⟩ :=
    checked_wiki_consistent.{0} undisturbed rfl 100 contested.2 hcontested
  have hfirst : ruled.1 = .ok .first := by decide +kernel
  have hreplied : ruled.2.memory.map (·.answer) = [.ok true] := by decide +kernel
  have hanswers : contested.2.memory.map (·.answer) =
      [.ok false, .ok true, .ok true, .ok true] := by decide +kernel
  refine ⟨hfirst, ?_, by decide +kernel, by decide +kernel, hconsistent ?_⟩
  · obtain ⟨c, earlier, hmemory, hsame⟩ := happroved 3 noManIsAWoman knownReply
      nothingMeanwhile .first mayReply_knownReply hquiet hfirst (by decide)
    have hyes : c.answer = .ok true := by
      have hhead := hreplied
      rw [show ruled.2.memory = c :: earlier from hmemory] at hhead
      exact List.head_eq_of_cons_eq hhead
    exact ⟨c, earlier, hmemory, hyes, hsame hyes⟩
  · intro c hc
    have hmem : c.answer ∈ contested.2.memory.map (·.answer) := List.mem_map_of_mem hc
    rw [hanswers] at hmem
    simp only [List.mem_cons, List.not_mem_nil, or_false] at hmem
    rcases hmem with h | h | h | h <;> exact ⟨_, h⟩

end Engine

end SemanticWiki
