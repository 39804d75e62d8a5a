import Mathlib.Data.List.Basic
import SemanticWiki.Proofs.Engine.Course

/-! The state that the wiki reports of itself. It notes the revision of the latest axioms that the
reasoner has given a verdict on, so as long as it says that nothing is pending the axioms as they are
have had a verdict. -/

namespace SemanticWiki

open Ontology

variable {w w' : RecordedWorld} {s : Sentence}

def World.Judged (w : RecordedWorld) : Prop :=
  ∃ c ∈ w.memory, (∃ verdict, c.answer = .ok verdict) ∧
    c.query.axioms.axioms = w.ontology.axioms.axioms

def World.SyncedOrJudgedSince (w w' : RecordedWorld) : Prop :=
  ∃ later, w'.memory = later ++ w.memory ∧
    (w'.synced = w.synced ∨ ∃ c ∈ later, ∃ verdict, c.answer = .ok verdict)

def Ontology.Roomy (o : Ontology) : Prop :=
  ∀ stored ∈ o.sentences, stored.1.val + 1 < UInt64.size

structure World.Attested (w : RecordedWorld) : Prop where
  numbered : w.ontology.Numbered
  reached : ∀ r, w.synced = some r → r ≤ w.ontology.revision
  judged : w.synced = some w.ontology.revision → w.ontology.Roomy → w.Judged

namespace World

/-- While nothing is marked as synchronized, the wiki stays attested: either the revision has moved
on, or everything that the verdict was about is as it was. -/
theorem Attested.later (h : w.Attested) (hprecedes : w.ontology.Precedes w'.ontology)
    (hnumbered : w'.ontology.Numbered) (hsynced : w'.synced = w.synced)
    (hmemory : w.memory ⊆ w'.memory) : w'.Attested where
  numbered := hnumbered
  reached r hr := Nat.le_trans (h.reached r (hsynced ▸ hr)) hprecedes.revision_le
  judged hcurrent hroomy := by
    have hcurrent : w.synced = some w'.ontology.revision := hsynced ▸ hcurrent
    have hsame : w'.ontology.revision = w.ontology.revision :=
      Nat.le_antisymm (h.reached _ hcurrent) hprecedes.revision_le
    obtain ⟨allocator, hontology⟩ := hprecedes.eq_of_revision_eq hsame
    rw [hontology] at hroomy
    obtain ⟨c, hc, hanswer, haxioms⟩ := h.judged (hsame ▸ hcurrent) hroomy
    exact ⟨c, hmemory hc, hanswer, by rw [haxioms, hprecedes.axioms_eq hsame]⟩

theorem synced_markSynced (w : RecordedWorld) (revision : Nat) :
    (w.markSynced revision).synced = some revision ∨
      (w.markSynced revision).synced = w.synced := by
  unfold markSynced
  dsimp only
  split
  · exact .inl rfl
  · exact .inr rfl

theorem synced_markSynced_of_le {revision : Nat}
    (hle : ∀ r, w.synced = some r → r ≤ revision) :
    (w.markSynced revision).synced = some revision := by
  unfold markSynced
  dsimp only
  cases hsynced : w.synced with
  | none => rfl
  | some r =>
    rcases Nat.lt_or_eq_of_le (hle r hsynced) with hlower | rfl
    · exact if_pos (decide_eq_true hlower)
    · exact ite_self _

theorem Attested.markSynced (h : w.Attested) {revision : Nat}
    (hreached : revision ≤ w.ontology.revision)
    (hjudged : revision = w.ontology.revision → w.ontology.Roomy → w.Judged) :
    (w.markSynced revision).Attested := by
  rcases w.synced_markSynced revision with hraised | hkept
  · refine ⟨h.numbered, fun r hr => ?_, fun hcurrent hroomy => ?_⟩
    · obtain rfl := Option.some.inj (hraised.symm.trans hr)
      exact hreached
    · exact hjudged (Option.some.inj (hraised.symm.trans hcurrent)) hroomy
  · exact h.later (.refl _) h.numbered hkept (List.Subset.refl _)

end World

namespace Engine

open World

theorem Passage.attested (h : Passage w w') (hw : w.Attested) : w'.Attested := by
  induction h with
  | refl w => exact hw
  | changed o hpassage hchange ih =>
    have hbefore := ih hw
    exact hbefore.later hchange.precedes (hchange.numbered hbefore.numbered) rfl
      (List.Subset.refl _)
  | worded handlers hpassage ih =>
    exact (ih hw).later (.refl _) (ih hw).numbered rfl (List.Subset.refl _)
  | failed query error hpassage ih =>
    exact (ih hw).later (.refl _) (ih hw).numbered rfl (List.subset_cons_self _ _)
  | judged query verdict hpassage ih =>
    exact (ih hw).later (.refl _) (ih hw).numbered rfl (List.subset_cons_self _ _)
  | @synced w u w' query verdict hbefore hmeanwhile haxioms ih ihmeanwhile =>
    have hafter : w'.Attested := ihmeanwhile (ih hw)
    have hnoted : (w'.note ⟨query, .ok verdict⟩).Attested :=
      hafter.later (.refl _) hafter.numbered rfl (List.subset_cons_self _ _)
    -- the verdict may be about an older revision, and then it does not count
    refine hnoted.markSynced hmeanwhile.precedes.revision_le fun hcurrent _ => ?_
    have hsame : w'.ontology.axioms = u.ontology.axioms :=
      hmeanwhile.precedes.axioms_eq hcurrent.symm
    refine ⟨⟨query, .ok verdict⟩, List.mem_cons_self, ⟨verdict, rfl⟩, ?_⟩
    calc
      query.axioms.axioms = u.ontology.axioms.axioms := congrArg AxiomSet.axioms haxioms
      _ = w'.ontology.axioms.axioms := congrArg AxiomSet.axioms hsame.symm
  | @approved w u w' s hbefore hmeanwhile hstated hvalid hcurrent ih ihmeanwhile =>
    have hafter : w'.Attested := ihmeanwhile (ih hw)
    have hchange : Change w'.ontology (w'.ontology.withSentence s) := .added s hvalid
    have hadded : { w'.note ⟨approval u s, .ok true⟩ with
        ontology := w'.ontology.withSentence s }.Attested :=
      hafter.later hchange.precedes (hchange.numbered hafter.numbered) rfl
        (List.subset_cons_self _ _)
    refine hadded.markSynced (Nat.le_refl _) fun _ hroomy => ?_
    -- the sentence is stored by now, so its number was not the last one
    have hroom : w'.ontology.nextSentence.val + 1 < UInt64.size :=
      hroomy (w'.ontology.nextSentence, s) (mem_putSentence_self _ s w'.ontology.sentences)
    refine ⟨⟨approval u s, .ok true⟩, List.mem_cons_self, ⟨true, rfl⟩, ?_⟩
    exact axioms_of_approval hmeanwhile.precedes hcurrent hafter.numbered hroom hstated

theorem Passage.memory_suffix (h : Passage w w') : w.memory <:+ w'.memory := by
  induction h with
  | refl w => exact List.suffix_refl _
  | changed o hpassage hchange ih => exact ih
  | worded handlers hpassage ih => exact ih
  | failed query error hpassage ih => exact ih.trans (List.suffix_cons _ _)
  | judged query verdict hpassage ih => exact ih.trans (List.suffix_cons _ _)
  | synced query verdict hbefore hmeanwhile haxioms ih ihmeanwhile =>
    exact (ih.trans ihmeanwhile).trans (List.suffix_cons _ _)
  | approved s hbefore hmeanwhile hstated hvalid hcurrent ih ihmeanwhile =>
    exact (ih.trans ihmeanwhile).trans (List.suffix_cons _ _)

theorem Passage.judgedSince {w'' : RecordedWorld} (h : Passage w w') {query : Query} {verdict : Bool}
    (hmemory : w''.memory = ⟨query, .ok verdict⟩ :: w'.memory) : w.SyncedOrJudgedSince w'' := by
  obtain ⟨later, hlater⟩ := h.memory_suffix
  refine ⟨⟨query, .ok verdict⟩ :: later, ?_, .inr ⟨_, List.mem_cons_self, verdict, rfl⟩⟩
  rw [hmemory, ← hlater]
  rfl

theorem Passage.syncedOrJudgedSince (h : Passage w w') : w.SyncedOrJudgedSince w' := by
  induction h with
  | refl w => exact ⟨[], rfl, .inl rfl⟩
  | changed o hpassage hchange ih => exact ih
  | worded handlers hpassage ih => exact ih
  | failed query error hpassage ih =>
    obtain ⟨later, hmemory, hkept⟩ := ih
    refine ⟨⟨query, .error error⟩ :: later, congrArg _ hmemory, hkept.imp_right ?_⟩
    rintro ⟨c, hc, hanswer⟩
    exact ⟨c, List.mem_cons_of_mem _ hc, hanswer⟩
  | judged query verdict hpassage ih => exact hpassage.judgedSince rfl
  | synced query verdict hbefore hmeanwhile haxioms ih ihmeanwhile =>
    exact (hbefore.trans hmeanwhile).judgedSince rfl
  | approved s hbefore hmeanwhile hstated hvalid hcurrent ih ihmeanwhile =>
    exact (hbefore.trans hmeanwhile).judgedSince rfl

theorem pending_eq_false_iff (e : Engine (List Consultation)) (w : RecordedWorld) :
    (e.status w).pending = false ↔ w.synced = some w.ontology.revision :=
  bne_eq_false_iff_eq

theorem pending_of_markSynced (e : Engine (List Consultation)) {v : RecordedWorld}
    (hv : v.Attested) {c : Consultation} {report : ConsistencyReport}
    (hmarked : w = (v.note c).markSynced report.revision)
    (hcurrent : isCurrent w report = true) : (e.status w).pending = false := by
  subst hmarked
  have hrevision : report.revision = v.ontology.revision := beq_iff_eq.1 hcurrent
  have hsynced : ((v.note c).markSynced report.revision).synced = some report.revision :=
    synced_markSynced_of_le fun r hr => hrevision ▸ hv.reached r hr
  exact (e.pending_eq_false_iff _).2 (hsynced.trans (congrArg some hrevision))

/-- What has been stored on top of an attested wiki without a check is pending until there is another
verdict. -/
theorem pending_after_unchecked (e : Engine (List Consultation)) (v : RecordedWorld)
    (hv : v.Attested) (hlater : Passage { v with ontology := v.ontology.withSentence s } w') :
    ∃ later, w'.memory = later ++ v.memory ∧
      ((e.status w').pending = true ∨ ∃ c ∈ later, ∃ verdict, c.answer = .ok verdict) := by
  obtain ⟨later, hmemory, hkept⟩ := hlater.syncedOrJudgedSince
  refine ⟨later, hmemory, hkept.imp_left fun hsynced => ?_⟩
  rw [← Bool.not_eq_false]
  intro hcurrent
  have hreached : w'.ontology.revision ≤ v.ontology.revision :=
    hv.reached _ (hsynced.symm.trans ((e.pending_eq_false_iff w').1 hcurrent))
  have hmoved : v.ontology.revision + 1 ≤ w'.ontology.revision := hlater.precedes.revision_le
  exact Nat.not_succ_le_self _ (Nat.le_trans hmoved hreached)

theorem Upshot.unchecked_of_failed {outcome : Except WikiError SentenceId × RecordedWorld}
    (h : Upshot s w outcome) {id : SentenceId} (hadded : outcome.1 = .ok id) {query : Query}
    {error : ReasonError} (hfailed : outcome.2.memory.head? = some ⟨query, .error error⟩) :
    ∃ v, Passage w v ∧ outcome.2 = { v with ontology := v.ontology.withSentence s } := by
  cases h with
  | refused error hpassage => cases hadded
  | approved hbefore hmeanwhile hstated hvalid hcurrent => cases hfailed
  | unchecked hpassage hvalid => exact ⟨_, hpassage, rfl⟩

/-- No sentence has the last number as long as fewer than `2 ^ 64 - 1` have been added. -/
theorem not_pending_means_judged (e : Engine (List Consultation)) (name baseIri : String)
    (operations : List Operation) (w : RecordedWorld)
    (hcourse : e.Course (e.start ((Ontology.new name baseIri).run operations) []) w) :
    (∀ revision, (e.status w).synced = some revision → revision ≤ (e.status w).current) ∧
    ((∀ stored ∈ w.ontology.sentences, stored.1.val + 1 < UInt64.size) →
      (e.status w).pending = false →
      ∃ c ∈ w.memory, (∃ verdict, c.answer = .ok verdict) ∧
        c.query.axioms.axioms = w.ontology.axioms.axioms) ∧
    ∀ (attempts : Nat) (answer : Query → RecordedWorld → Except ReasonError Bool)
      (meanwhile : Query → RecordedWorld → RecordedWorld),
      (∀ query v, e.Course v (meanwhile query v)) →
      (∀ report,
        let checked := (e.among attempts answer meanwhile).checkConsistency w
        checked.1 = .ok report → isCurrent checked.2 report = true →
        (e.status checked.2).pending = false) ∧
      ∀ s id,
        let added := (e.among attempts answer meanwhile).addSentence w s
        added.1 = .ok id →
        (e.config.checkOnAdd = false ∨
          ∃ query error, added.2.memory.head? = some ⟨query, .error error⟩) →
        ∀ w', e.Course added.2 w' → ∃ later, w'.memory = later ++ added.2.memory ∧
          ((e.status w').pending = true ∨ ∃ c ∈ later, ∃ verdict, c.answer = .ok verdict) := by
  have hstart : (e.start ((Ontology.new name baseIri).run operations) []).Attested := by
    refine ⟨numbered_run (numbered_new name baseIri) operations, fun r hr => ?_, fun hcurrent => ?_⟩
    · cases hr
    · cases hcurrent
  have hattested : w.Attested := hcourse.passage.attested hstart
  refine ⟨hattested.reached, fun hroomy hcurrent => ?_, ?_⟩
  · exact hattested.judged ((e.pending_eq_false_iff w).1 hcurrent) hroomy
  intro attempts answer meanwhile hmeanwhile
  have hpassages : ∀ query v, Passage v (meanwhile query v) := fun query v =>
    (hmeanwhile query v).passage
  constructor
  · intro report checked hreport hcurrent
    obtain ⟨-, -, hchecked⟩ := checkConsistency_ok hreport
    exact pending_of_markSynced e ((hpassages _ w).attested hattested) hchecked hcurrent
  · intro s id added hadded hunchecked w' hlater
    have hcommitted : ∃ v, Passage w v ∧
        added.2 = { v with ontology := v.ontology.withSentence s } := by
      obtain hcheck | ⟨query, error, hfailed⟩ := hunchecked
      · exact ⟨w, .refl w, addSentence_unchecked hcheck hadded⟩
      · have hupshot : Upshot s w added := upshot_addSentence hpassages s w
        exact hupshot.unchecked_of_failed hadded hfailed
    obtain ⟨v, hbefore, hstored⟩ := hcommitted
    have hpassage := hlater.passage
    rw [hstored] at hpassage ⊢
    exact pending_after_unchecked e v (hbefore.attested hattested) hpassage

theorem outage_pending_until_check :
    let start := approving.start ((Ontology.new "wiki" "http://example.org/").run birdAndBeing) []
    let added := (approving.among 3 (fun _ _ => .error (.unavailable "approving" "no connection"))
      nothingMeanwhile).addSentence start everyBirdIsABeing
    let renamed : RecordedWorld := { added.2 with
      ontology := added.2.ontology.perform (.commit bird .concept [.word "fowl", .word "fowls"]) }
    let checked := (approving.among 3 (fun _ _ => .ok true) nothingMeanwhile).checkConsistency renamed
    added.1 = .ok .first ∧ (approving.status renamed).pending = true ∧
      (approving.status checked.2).pending = false ∧
      ∃ c ∈ checked.2.memory, (∃ verdict, c.answer = .ok verdict) ∧
        c.query.axioms.axioms = [.subClassOf bird being] := by
  intro start added renamed checked
  have hquiet : ∀ query v, approving.Course v (nothingMeanwhile query v) := fun _ v => .refl v
  let saving : Action := .perform (.commit bird .concept [.word "fowl", .word "fowls"])
  have hrenamed : approving.Course added.2 renamed := Course.alone (.refl added.2) saving
  have hadded : added.1 = .ok .first := by decide +kernel
  have hpending : (approving.status renamed).pending = true := by
    obtain ⟨-, -, hunchecked⟩ :=
      not_pending_means_judged approving "wiki" "http://example.org/" birdAndBeing start (.refl start)
    obtain ⟨-, hpending⟩ := hunchecked 3 _ nothingMeanwhile hquiet
    obtain ⟨later, hmemory, hpending | ⟨c, hc, -⟩⟩ := hpending everyBirdIsABeing .first hadded
      (.inr ⟨_, _, rfl⟩) renamed hrenamed
    · exact hpending
    · have hnone : later = [] := List.self_eq_append_left.1 hmemory
      rw [hnone] at hc
      cases hc
  have hadding : approving.Course start added.2 :=
    Course.act (.refl start) ⟨3, _, nothingMeanwhile⟩ hquiet (.addSentence everyBirdIsABeing)
  have hcourse : approving.Course start checked.2 :=
    Course.alone (Course.alone hadding saving) .checkConsistency
  obtain ⟨-, hjudged, -⟩ :=
    not_pending_means_judged approving "wiki" "http://example.org/" birdAndBeing checked.2 hcourse
  have hchecked : (approving.status checked.2).pending = false := by decide +kernel
  have haxioms : checked.2.ontology.axioms.axioms = [.subClassOf bird being] := by decide +kernel
  refine ⟨hadded, hpending, hchecked, ?_⟩
  rw [← haxioms]
  exact hjudged (by decide +kernel) hchecked

end Engine

end SemanticWiki
