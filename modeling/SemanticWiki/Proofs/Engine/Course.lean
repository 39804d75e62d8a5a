import SemanticWiki.Proofs.Engine.Run

/-! Everything that can become of a wiki. Its operations and those of the ontology follow one another
in any order, and any of them may take place while the reasoner is busy for another one. A course of
such operations breaks down into a passage of a few kinds of steps, which all invariants go by. -/

namespace SemanticWiki

open Ontology

namespace Engine

/-- The steps that a course is made of. A verdict is taken note of and may then do without
consequences; it may be entered as the state of the revision that it is about; or it approves of a
sentence, which is stored at that revision. -/
inductive Passage : RecordedWorld → RecordedWorld → Prop
  | refl (w : RecordedWorld) : Passage w w
  | changed {w w' : RecordedWorld} (o : Ontology) (hpassage : Passage w w')
      (hchange : Change w'.ontology o) : Passage w { w' with ontology := o }
  | worded {w w' : RecordedWorld} (handlers : List Handler) (hpassage : Passage w w') :
      Passage w { w' with handlers }
  | failed {w w' : RecordedWorld} (query : Query) (error : ReasonError)
      (hpassage : Passage w w') : Passage w ((w'.note ⟨query, .error error⟩).recordError error)
  | judged {w w' : RecordedWorld} (query : Query) (verdict : Bool) (hpassage : Passage w w') :
      Passage w (w'.note ⟨query, .ok verdict⟩)
  | synced {w u w' : RecordedWorld} (query : Query) (verdict : Bool) (hbefore : Passage w u)
      (hmeanwhile : Passage u w') (haxioms : query.axioms = u.ontology.axioms) :
      Passage w ((w'.note ⟨query, .ok verdict⟩).markSynced u.ontology.revision)
  | approved {w u w' : RecordedWorld} (s : Sentence) (hbefore : Passage w u)
      (hmeanwhile : Passage u w') (hstated : s.question = false)
      (hvalid : ∃ construct, w'.ontology.validate s = .ok construct)
      (hcurrent : w'.ontology.revision = u.ontology.revision) :
      Passage w ({ w'.note ⟨approval u s, .ok true⟩ with
        ontology := w'.ontology.withSentence s }.markSynced (w'.ontology.revision + 1))

variable {e : Engine (List Consultation)} {w w' w'' : RecordedWorld} {s : Sentence}

theorem Passage.trans (h : Passage w w') (h' : Passage w' w'') : Passage w w'' := by
  induction h' with
  | refl w => exact h
  | changed o hpassage hchange ih => exact .changed o (ih h) hchange
  | worded handlers hpassage ih => exact .worded handlers (ih h)
  | failed query error hpassage ih => exact .failed query error (ih h)
  | judged query verdict hpassage ih => exact .judged query verdict (ih h)
  | synced query verdict hbefore hmeanwhile haxioms ih ihmeanwhile =>
    exact .synced query verdict (ih h) hmeanwhile haxioms
  | approved s hbefore hmeanwhile hstated hvalid hcurrent ih ihmeanwhile =>
    exact .approved s (ih h) hmeanwhile hstated hvalid hcurrent

theorem passage_of_handlers {handlers : List Handler} (h : w' = { w with handlers }) :
    Passage w w' := h ▸ .worded handlers (.refl w)

/-- How an addition turns out: the sentence is refused, stored at the revision at which the reasoner
has approved of it, or stored unchecked. -/
inductive Upshot (s : Sentence) (w : RecordedWorld) :
    Except WikiError SentenceId × RecordedWorld → Prop
  | refused {w' : RecordedWorld} (error : WikiError) (hpassage : Passage w w') :
      Upshot s w (.error error, w')
  | approved {u w' : RecordedWorld} (hbefore : Passage w u) (hmeanwhile : Passage u w')
      (hstated : s.question = false) (hvalid : ∃ construct, w'.ontology.validate s = .ok construct)
      (hcurrent : w'.ontology.revision = u.ontology.revision) :
      Upshot s w (.ok w'.ontology.nextSentence,
        { w'.note ⟨approval u s, .ok true⟩ with
          ontology := w'.ontology.withSentence s }.markSynced (w'.ontology.revision + 1))
  | unchecked {w' : RecordedWorld} (hpassage : Passage w w')
      (hvalid : ∃ construct, w'.ontology.validate s = .ok construct) :
      Upshot s w (.ok w'.ontology.nextSentence,
        { w' with ontology := w'.ontology.withSentence s })

section Upshot

variable {outcome : Except WikiError SentenceId × RecordedWorld}

theorem Upshot.of_passage (hpassage : Passage w w') (h : Upshot s w' outcome) :
    Upshot s w outcome := by
  cases h with
  | refused error hrest => exact .refused error (hpassage.trans hrest)
  | approved hbefore hmeanwhile hstated hvalid hcurrent =>
    exact .approved (hpassage.trans hbefore) hmeanwhile hstated hvalid hcurrent
  | unchecked hrest hvalid => exact .unchecked (hpassage.trans hrest) hvalid

theorem Upshot.passage (h : Upshot s w outcome) : Passage w outcome.2 := by
  cases h with
  | refused error hpassage => exact hpassage
  | approved hbefore hmeanwhile hstated hvalid hcurrent =>
    exact .approved s hbefore hmeanwhile hstated hvalid hcurrent
  | unchecked hpassage hvalid => exact .changed _ hpassage (.added s hvalid)

theorem upshot_commitUnchecked (w : RecordedWorld) (s : Sentence) :
    Upshot s w (commitUnchecked w s) := by
  have hends := commitUnchecked_unchecked w s
  generalize commitUnchecked w s = result at hends ⊢
  cases hends with
  | misfit error hinvalid => exact .refused _ (.refl w)
  | committed construct hvalid => exact .unchecked (.refl w) ⟨construct, hvalid⟩

end Upshot

section Meanwhile

variable {attempts : Nat} {answer : Query → RecordedWorld → Except ReasonError Bool}
  {meanwhile : Query → RecordedWorld → RecordedWorld}

theorem checkConsistency_ok {report : ConsistencyReport}
    (hreport : ((e.among attempts answer meanwhile).checkConsistency w).1 = .ok report) :
    let query := Query.consistency w.ontology.axioms
    report.revision = w.ontology.revision ∧ answer query w = .ok report.consistent ∧
      ((e.among attempts answer meanwhile).checkConsistency w).2 =
        ((meanwhile query w).note ⟨query, .ok report.consistent⟩).markSynced report.revision := by
  unfold checkConsistency at hreport ⊢
  dsimp only [among, Reasoner.among] at hreport ⊢
  cases hanswer : answer (.consistency w.ontology.axioms) w with
  | error error =>
    rw [hanswer] at hreport
    cases hreport
  | ok verdict =>
    rw [hanswer] at hreport
    cases hreport
    exact ⟨rfl, rfl, rfl⟩

variable (hmeanwhile : ∀ query v, Passage v (meanwhile query v))
include hmeanwhile

theorem upshot_attempt (hstated : s.question = false) (n : Nat) (w : RecordedWorld) :
    Upshot s w ((e.among attempts answer meanwhile).attempt s n w) := by
  induction n generalizing w with
  | zero => exact .refused _ (.refl w)
  | succ n ih =>
    have hbusy : Passage w (meanwhile (approval w s) w) := hmeanwhile _ w
    have hends : Attempt (e.among attempts answer meanwhile) s n w
        ((meanwhile (approval w s) w).note ⟨approval w s, answer (approval w s) w⟩)
        (answer (approval w s) w) ((e.among attempts answer meanwhile).attempt s (n + 1) w) :=
      attempt_succ _ s n w
    generalize (e.among attempts answer meanwhile).attempt s (n + 1) w = result at hends ⊢
    generalize answer (approval w s) w = reply at hends
    cases hends with
    | unanswered error =>
      exact .of_passage (hbusy.failed (approval w s) error) (upshot_commitUnchecked _ s)
    | refuted handlers =>
      exact .refused _ ((hbusy.judged (approval w s) false).worded handlers)
    | misfit error hcurrent hinvalid => exact .refused _ (hbusy.judged (approval w s) true)
    | committed construct hcurrent hvalid =>
      exact .approved (.refl w) hbusy hstated ⟨construct, hvalid⟩ hcurrent
    | moved hmoved =>
      -- a lost attempt has no consequences but the verdict, and the others begin where it ends
      exact .of_passage (hbusy.judged (approval w s) true) (ih _)

theorem upshot_addSentence (s : Sentence) (w : RecordedWorld) :
    Upshot s w ((e.among attempts answer meanwhile).addSentence w s) := by
  obtain ⟨error, hresult⟩ | ⟨hstated, -, hresult⟩ | ⟨-, hresult⟩ :=
    (e.among attempts answer meanwhile).addSentence_cases w s
  · rw [hresult]
    exact .refused error (.refl w)
  · rw [hresult]
    exact upshot_attempt hmeanwhile hstated _ w
  · rw [hresult]
    exact upshot_commitUnchecked w s

theorem passage_checkConsistency (w : RecordedWorld) :
    Passage w ((e.among attempts answer meanwhile).checkConsistency w).2 := by
  have hbusy := hmeanwhile (.consistency w.ontology.axioms) w
  unfold checkConsistency
  dsimp only [among, Reasoner.among]
  cases answer (.consistency w.ontology.axioms) w with
  | error error => exact .failed _ error hbusy
  | ok verdict => exact .synced (.consistency w.ontology.axioms) verdict (.refl w) hbusy rfl

theorem passage_answer (s : Sentence) (w : RecordedWorld) :
    Passage w ((e.among attempts answer meanwhile).answer w s).2 := by
  have hbusy := hmeanwhile (.entailment w.ontology.axioms s.statement.toAxiom) w
  unfold Engine.answer
  split
  · exact .refl w
  · split
    · exact .refl w
    · dsimp only [among, Reasoner.among]
      cases answer (.entailment w.ontology.axioms s.statement.toAxiom) w with
      | error error => exact .failed _ error hbusy
      | ok verdict => exact .synced (.entailment w.ontology.axioms _) verdict (.refl w) hbusy rfl

end Meanwhile

theorem passage_act (c : Circumstances) (hmeanwhile : ∀ query v, Passage v (c.meanwhile query v))
    (action : Action) (w : RecordedWorld) : Passage w ((e.inCircumstances c).act w action) := by
  have hacting := (e.inCircumstances c).acting w action
  generalize (e.inCircumstances c).act w action = w' at hacting ⊢
  cases hacting with
  | changed o hchange => exact .changed o (.refl w) hchange
  | parsed code text =>
    obtain ⟨handlers, hparsed⟩ := e.withHandler_world w code fun h o => h.parse o text
    exact passage_of_handlers hparsed
  | translated s code =>
    obtain ⟨handlers, htranslated⟩ := e.withHandler_world w code fun h o => h.render o s
    exact passage_of_handlers htranslated
  | added s => exact (upshot_addSentence hmeanwhile s w).passage
  | checked => exact passage_checkConsistency hmeanwhile w
  | answered s => exact passage_answer hmeanwhile s w

theorem Course.passage (hcourse : e.Course w w') : Passage w w' :=
  hcourse.induction .refl .trans fun c action w hmeanwhile => passage_act c hmeanwhile action w

theorem Passage.ontology_induction {p : Ontology → Prop}
    (hchange : ∀ o o', Change o o' → p o → p o') (h : Passage w w') (hw : p w.ontology) :
    p w'.ontology := by
  induction h with
  | refl w => exact hw
  | changed o hpassage hchanged ih => exact hchange _ _ hchanged (ih hw)
  | worded handlers hpassage ih => exact ih hw
  | failed query error hpassage ih => exact ih hw
  | judged query verdict hpassage ih => exact ih hw
  | synced query verdict hbefore hmeanwhile haxioms ih ihmeanwhile => exact ihmeanwhile (ih hw)
  | approved s hbefore hmeanwhile hstated hvalid hcurrent ih ihmeanwhile =>
    exact hchange _ _ (.added s hvalid) (ihmeanwhile (ih hw))

/-- What a new ontology has and every change keeps, the ontology of a wiki has, whatever happened before
and after the wiki took it over. -/
theorem Course.ontology_induction {p : Ontology → Prop}
    (hchange : ∀ o o', Change o o' → p o → p o') {o : Ontology} (ho : p o)
    {operations : List Operation} {memory : List Consultation}
    (hcourse : e.Course (e.start (o.run operations) memory) w) : p w.ontology :=
  hcourse.passage.ontology_induction hchange (run_induction hchange ho operations)

theorem Passage.precedes (h : Passage w w') : w.ontology.Precedes w'.ontology :=
  h.ontology_induction (p := w.ontology.Precedes)
    (fun _ _ hchange hprecedes => hprecedes.trans hchange.precedes) (.refl w.ontology)

end Engine

end SemanticWiki
