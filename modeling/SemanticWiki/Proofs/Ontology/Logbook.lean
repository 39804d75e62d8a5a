import SemanticWiki.Proofs.Distinct
import SemanticWiki.Proofs.Ontology.SentenceStore

/-! Sentences written down in a log. Whoever notes which sentences are stored and which are retracted,
each with its number, has the sentences of the ontology without any store: they are the ones that have
been stored and not been retracted later. This is so as long as numbers have not run out. -/

namespace SemanticWiki

inductive Entry where
  | stored (id : SentenceId) (s : Sentence)
  | retracted (id : SentenceId) (s : Sentence)
deriving DecidableEq

namespace Entry

def stored? : Entry → Option (SentenceId × Sentence)
  | stored id s => some (id, s)
  | retracted _ _ => none

def retracts (id : SentenceId) : Entry → Bool
  | stored _ _ => false
  | retracted other _ => other == id

end Entry

abbrev Logbook := List Entry

namespace Logbook

def stored (log : Logbook) : List (SentenceId × Sentence) := log.filterMap Entry.stored?

def standing : Logbook → List (SentenceId × Sentence)
  | [] => []
  | .stored id s :: later =>
    if later.any (·.retracts id) then standing later else (id, s) :: standing later
  | .retracted _ _ :: later => standing later

theorem stored_append (log later : Logbook) : stored (log ++ later) = stored log ++ stored later :=
  List.filterMap_append

theorem standing_sublist (log : Logbook) : (standing log).Sublist (stored log) := by
  induction log with
  | nil => exact List.Sublist.slnil
  | cons entry later ih =>
    cases entry with
    | stored id s =>
      unfold standing
      split
      · exact ih.cons (id, s)
      · exact ih.cons_cons (id, s)
    | retracted id s => exact ih

theorem standing_concat_stored (log : Logbook) (id : SentenceId) (s : Sentence) :
    standing (log ++ [.stored id s]) = standing log ++ [(id, s)] := by
  induction log with
  | nil => rfl
  | cons entry later ih =>
    cases entry with
    | stored other t =>
      have hsame : (later ++ [Entry.stored id s]).any (·.retracts other) =
          later.any (·.retracts other) := by
        rw [List.any_append]
        exact Bool.or_false _
      rw [List.cons_append, standing, standing, hsame, ih]
      split
      · rfl
      · rfl
    | retracted other t => exact ih

theorem standing_concat_retracted (log : Logbook) (id : SentenceId) (s : Sentence) :
    standing (log ++ [.retracted id s]) = (standing log).filter (·.1 != id) := by
  induction log with
  | nil => rfl
  | cons entry later ih =>
    cases entry with
    | stored other t =>
      have hlater : (later ++ [Entry.retracted id s]).any (·.retracts other) =
          (later.any (·.retracts other) || id == other) := by
        rw [List.any_append]
        exact congrArg _ (Bool.or_false _)
      rw [List.cons_append, standing, standing, hlater, ih]
      by_cases hretracted : later.any (·.retracts other) = true
      · rw [hretracted, Bool.true_or, if_pos rfl, if_pos rfl]
      · rw [Bool.eq_false_iff.2 hretracted, Bool.false_or, if_neg Bool.false_ne_true]
        by_cases hid : id = other
        · subst hid
          simp
        · have hother : other ≠ id := Ne.symm hid
          simp [hid, hother]
    | retracted other t => exact ih

/-- Numbers have not run out: the next sentence gets one that no sentence has had. -/
def HasRoom (log : Logbook) : Prop := log.stored.length < 2 ^ 64 - 1

theorem HasRoom.of_append {later : Logbook} (h : HasRoom (log ++ later)) : HasRoom log := by
  unfold HasRoom at h ⊢
  rw [stored_append, List.length_append] at h
  exact Nat.lt_of_le_of_lt (Nat.le_add_right _ _) h

end Logbook

namespace Ontology

variable {o o' : Ontology} {log : Logbook} {id : SentenceId} {s : Sentence}

structure Kept (o o' : Ontology) : Prop where
  sentences : o'.sentences = o.sentences
  nextSentence : o'.nextSentence = o.nextSentence

theorem Kept.refl (o : Ontology) : Kept o o := ⟨rfl, rfl⟩

theorem Kept.trans {o'' : Ontology} (h : Kept o o') (h' : Kept o' o'') : Kept o o'' where
  sentences := h'.sentences.trans h.sentences
  nextSentence := h'.nextSentence.trans h.nextSentence

theorem kept_commit (o : Ontology) (id : ElementId) (kind : Kind) (values : List Value) :
    Kept o (o.commit id kind values).2 := by
  have hends := o.commit_commitment id kind values
  generalize o.commit id kind values = result at hends ⊢
  cases hends with
  | refused | unchanged | stored => exact ⟨rfl, rfl⟩

theorem kept_removeElement (o : Ontology) (id : ElementId) : Kept o (o.removeElement id).2 := by
  refine ⟨sentences_removeElement o id, ?_⟩
  unfold removeElement
  repeat' split
  all_goals rfl

/-- The ontology has the sentences that stand in the log, and its next number is behind all numbers of
the log. -/
structure LoggedIn (o : Ontology) (log : Logbook) : Prop where
  sentences : o.sentences = log.standing
  next : o.nextSentence.val = log.stored.length + 1
  numbered : log.stored.Pairwise (·.1.val < ·.1.val)
  behind : ∀ stored ∈ log.stored, stored.1.val < o.nextSentence.val

theorem loggedIn_new (name baseIri : String) : (new name baseIri).LoggedIn [] where
  sentences := rfl
  next := rfl
  numbered := List.Pairwise.nil
  behind _ hstored := absurd hstored List.not_mem_nil

theorem LoggedIn.of_kept (h : o.LoggedIn log) (hkept : Kept o o') : o'.LoggedIn log where
  sentences := hkept.sentences.trans h.sentences
  next := hkept.nextSentence ▸ h.next
  numbered := h.numbered
  behind := hkept.nextSentence ▸ h.behind

theorem LoggedIn.withSentence (h : o.LoggedIn log) (s : Sentence)
    (hroom : Logbook.HasRoom (log ++ [.stored o.nextSentence s])) :
    (o.withSentence s).LoggedIn (log ++ [.stored o.nextSentence s]) := by
  have hstored : Logbook.stored (log ++ [.stored o.nextSentence s]) =
      log.stored ++ [(o.nextSentence, s)] := Logbook.stored_append log _
  have hfree : o.nextSentence.val + 1 < UInt64.size := by
    unfold Logbook.HasRoom at hroom
    rw [hstored, List.length_append, List.length_singleton] at hroom
    rw [h.next, UInt64.size]
    omega
  have hsucc : (o.withSentence s).nextSentence.val = o.nextSentence.val + 1 := by
    unfold Ontology.withSentence SentenceId.succ Serial.succ
    dsimp only
    rw [dif_pos hfree]
  refine ⟨?_, ?_, ?_, ?_⟩
  · have hlast : ∀ stored ∈ o.sentences, stored.1.val < o.nextSentence.val := by
      intro stored hmem
      rw [h.sentences] at hmem
      exact h.behind stored ((Logbook.standing_sublist log).subset hmem)
    rw [Logbook.standing_concat_stored, ← h.sentences]
    exact putSentence_eq_append hlast
  · rw [hsucc, hstored, h.next, List.length_append, List.length_singleton]
  · rw [hstored, List.pairwise_append]
    refine ⟨h.numbered, List.pairwise_singleton _ _, fun stored hmem new hnew => ?_⟩
    rw [List.mem_singleton.1 hnew]
    exact h.behind stored hmem
  · intro stored hmem
    rw [hsucc]
    rw [hstored, List.mem_append, List.mem_singleton] at hmem
    rcases hmem with hold | rfl
    · exact Nat.lt_succ_of_lt (h.behind stored hold)
    · exact Nat.lt_succ_self _

theorem LoggedIn.withoutSentence (h : o.LoggedIn log) (id : SentenceId) (s : Sentence) :
    (o.withoutSentence id).LoggedIn (log ++ [.retracted id s]) := by
  have hstored : Logbook.stored (log ++ [.retracted id s]) = log.stored :=
    (Logbook.stored_append log _).trans (List.append_nil _)
  refine ⟨?_, ?_, ?_, ?_⟩
  · rw [Logbook.standing_concat_retracted, ← h.sentences]
    rfl
  · rw [hstored]
    exact h.next
  · rw [hstored]
    exact h.numbered
  · rw [hstored]
    exact h.behind

def Unretracted (o : Ontology) : Prop := ∃ log, o.LoggedIn log ∧ log.standing = log.stored

theorem unretracted_new (name baseIri : String) : (new name baseIri).Unretracted :=
  ⟨[], loggedIn_new name baseIri, rfl⟩

theorem Unretracted.of_kept (h : o.Unretracted) (hkept : Kept o o') : o'.Unretracted := by
  obtain ⟨log, hlogged, hstanding⟩ := h
  exact ⟨log, hlogged.of_kept hkept, hstanding⟩

theorem Unretracted.withSentence (h : o.Unretracted) (s : Sentence)
    (hroom : o.sentences.length + 2 < UInt64.size) :
    (o.withSentence s).Unretracted ∧
      (o.withSentence s).sentences.length = o.sentences.length + 1 := by
  obtain ⟨log, hlogged, hstanding⟩ := h
  have hstored : Logbook.stored (log ++ [.stored o.nextSentence s]) =
      log.stored ++ [(o.nextSentence, s)] := Logbook.stored_append log _
  have hlength : o.sentences.length = log.stored.length := by rw [hlogged.sentences, hstanding]
  have hroom' : Logbook.HasRoom (log ++ [.stored o.nextSentence s]) := by
    unfold Logbook.HasRoom
    rw [hstored, List.length_append, List.length_singleton, ← hlength]
    exact Nat.lt_sub_of_add_lt hroom
  have hlogged' := hlogged.withSentence s hroom'
  have hstanding' : Logbook.standing (log ++ [.stored o.nextSentence s]) =
      Logbook.stored (log ++ [.stored o.nextSentence s]) := by
    rw [Logbook.standing_concat_stored, hstanding, hstored]
  refine ⟨⟨_, hlogged', hstanding'⟩, ?_⟩
  rw [hlogged'.sentences, hstanding', hstored, List.length_append, List.length_singleton, hlength]

theorem Sequenced.nodup_numbers (h : Sequenced o) : (o.sentences.map Prod.fst).Nodup := by
  refine List.pairwise_map.2 (h.imp ?_)
  intro stored other hlt hsame
  exact Nat.lt_irrefl _ (hsame ▸ hlt)

theorem LoggedIn.sequenced (h : o.LoggedIn log) : Sequenced o := by
  rw [Sequenced, h.sentences]
  exact h.numbered.sublist (Logbook.standing_sublist log)

inductive Retraction (o : Ontology) (id : SentenceId) :
    Except OntologyError Sentence × Ontology → Prop
  | unknown (hunknown : o.sentence? id = none) :
      Retraction o id (.error (.unknownSentence id.val), o)
  | retracted (s : Sentence) (hfound : o.sentence? id = some s) :
      Retraction o id (.ok s, o.withoutSentence id)

theorem retractSentence_retraction (o : Ontology) (id : SentenceId) :
    Retraction o id (o.retractSentence id) := by
  unfold retractSentence
  split
  · exact .unknown ‹_›
  · exact .retracted _ ‹_›

theorem Sequenced.retractSentence_ok_iff (h : Sequenced o) :
    (o.retractSentence id).1 = .ok s ↔ (id, s) ∈ o.sentences := by
  rw [← lookup_eq_some_iff h.nodup_numbers, ← sentence?]
  have hends := o.retractSentence_retraction id
  generalize o.retractSentence id = result at hends ⊢
  cases hends with
  | unknown hunknown => simp [hunknown]
  | retracted found hfound => simp [hfound]

end Ontology

end SemanticWiki
