import SemanticWiki.CommandLine
import SemanticWiki.Proofs.Engine.Observation

/-! Jobs under observation. A job on a wiki whose reasoner is observed comes to the same as the job on
the wiki itself, and the calls that are made for it are written down. What a job does on success is
put together from what its parts do. -/

namespace SemanticWiki.CommandLine

variable {σ α β ε : Type}

def Progress.withCalls (p : Progress σ) (calls : List (Call σ)) : Progress (σ × List (Call σ)) where
  world := p.world.withCalls calls
  rejected := p.rejected

abbrev Effect (σ α : Type) := Progress σ → List (Call σ) → α → Progress σ → Prop

/-- The observed job comes to what the job comes to, with its calls behind the earlier ones, and on
success the job has the effect. -/
def Watched (job : Job σ α) (observed : Job (σ × List (Call σ)) α) (effect : Effect σ α) : Prop :=
  ∀ p earlier, ∃ calls,
    observed.run.run (p.withCalls earlier) =
        ((job.run.run p).1, (job.run.run p).2.withCalls (earlier ++ calls)) ∧
      ∀ a, (job.run.run p).1 = .ok a → effect p calls a (job.run.run p).2

def Quiet (effect : Progress σ → α → Progress σ → Prop) : Effect σ α :=
  fun p calls a p' => calls = [] ∧ effect p a p'

theorem run_bind (job : Job σ α) (next : α → Job σ β) (p : Progress σ) :
    (job >>= next).run.run p =
      match job.run.run p with
      | (.ok a, p') => (next a).run.run p'
      | (.error failure, p') => (.error failure, p') := by
  show (ExceptT.bindCont next (job.run.run p).1).run (job.run.run p).2 = _
  generalize job.run.run p = done
  obtain ⟨result, p'⟩ := done
  cases result <;> rfl

namespace Watched

variable {job : Job σ α} {observed : Job (σ × List (Call σ)) α} {effect effect' : Effect σ α}
  {next : α → Job σ β} {next' : α → Job (σ × List (Call σ)) β} {after : α → Effect σ β}

theorem mono (h : Watched job observed effect)
    (heffect : ∀ p calls a p', effect p calls a p' → effect' p calls a p') :
    Watched job observed effect' := by
  intro p earlier
  obtain ⟨calls, hsame, hdone⟩ := h p earlier
  exact ⟨calls, hsame, fun a ha => heffect _ _ _ _ (hdone a ha)⟩

theorem bind (h : Watched job observed effect) (hnext : ∀ a, Watched (next a) (next' a) (after a)) :
    Watched (job >>= next) (observed >>= next') fun p calls b p'' => ∃ a p' front rear,
      calls = front ++ rear ∧ effect p front a p' ∧ after a p' rear b p'' := by
  intro p earlier
  obtain ⟨front, hsame, hdone⟩ := h p earlier
  rw [run_bind, run_bind, hsame]
  generalize job.run.run p = done at hdone
  obtain ⟨result, p'⟩ := done
  cases result with
  | error failure => exact ⟨front, rfl, fun b hb => by cases hb⟩
  | ok a =>
    obtain ⟨rear, hsame', hdone'⟩ := hnext a p' (earlier ++ front)
    refine ⟨front ++ rear, ?_, fun b hb => ⟨a, p', front, rear, rfl, hdone a rfl, hdone' b hb⟩⟩
    rw [← List.append_assoc]
    exact hsame'

end Watched

theorem watched_pure (a : α) :
    Watched (pure a : Job σ α) (pure a) (Quiet fun p b p' => b = a ∧ p' = p) := by
  intro p earlier
  refine ⟨[], ?_, fun b hb => ⟨rfl, by cases hb; rfl, rfl⟩⟩
  rw [List.append_nil]
  rfl

theorem watched_throw (failure : Failure) (effect : Effect σ α) :
    Watched (throw failure : Job σ α) (throw failure) effect := by
  intro p earlier
  refine ⟨[], ?_, fun a ha => by cases ha⟩
  rw [List.append_nil]
  rfl

theorem watched_ofExcept (failure : ε → Failure) (result : Except ε α) :
    Watched (Job.ofExcept failure result : Job σ α) (Job.ofExcept failure result)
      (Quiet fun p a p' => result = .ok a ∧ p' = p) := by
  cases result with
  | error error => exact watched_throw _ _
  | ok a => exact (watched_pure a).mono fun _ _ b _ h => ⟨h.1, by rw [h.2.1], h.2.2⟩

theorem watched_file (files : Files) (path : String) :
    Watched (Job.file files path : Job σ String) (Job.file files path)
      (Quiet fun p text p' => files path = some text ∧ p' = p) := by
  unfold Job.file
  cases files path with
  | none => exact watched_throw _ _
  | some text => exact (watched_pure text).mono fun _ _ b _ h => ⟨h.1, by rw [h.2.1], h.2.2⟩

theorem watched_change {work : World σ → α × World σ}
    {work' : World (σ × List (Call σ)) → α × World (σ × List (Call σ))}
    (effect : World σ → List (Call σ) → α × World σ → Prop)
    (h : ∀ w earlier, ∃ calls,
      work' (w.withCalls earlier) = Engine.noted (earlier ++ calls) (work w) ∧
        effect w calls (work w)) :
    Watched (Job.change work) (Job.change work')
      fun p calls a p' => ∃ w, effect p.world calls (a, w) ∧ p' = { p with world := w } := by
  intro p earlier
  obtain ⟨calls, hsame, hdone⟩ := h p.world earlier
  refine ⟨calls, ?_, fun a ha => ⟨(work p.world).2, ?_, rfl⟩⟩
  · show (Except.ok (work' (p.world.withCalls earlier)).1,
      Progress.mk (work' (p.world.withCalls earlier)).2 p.rejected) = _
    rw [hsame]
    rfl
  · cases ha
    exact hdone

theorem watched_reject (reason : String) :
    Watched (modify fun p => { p with rejected := p.rejected ++ [reason] } : Job σ Unit)
      (modify fun p => { p with rejected := p.rejected ++ [reason] })
      (Quiet fun p _ p' => p' = { p with rejected := p.rejected ++ [reason] }) := by
  intro p earlier
  refine ⟨[], ?_, fun _ _ => ⟨rfl, rfl⟩⟩
  rw [List.append_nil]
  rfl

theorem watched_gets (f : Progress σ → α) (f' : Progress (σ × List (Call σ)) → α)
    (h : ∀ p calls, f' (p.withCalls calls) = f p) :
    Watched (do return f (← get)) (do return f' (← get))
      (Quiet fun p a p' => a = f p ∧ p' = p) := by
  intro p earlier
  refine ⟨[], ?_, fun a ha => ⟨rfl, by cases ha; rfl, rfl⟩⟩
  rw [List.append_nil]
  exact congrArg (fun a => (Except.ok a, p.withCalls earlier)) (h p earlier)

/-- A loop has the effect of all its rounds, if the effect of no round and of one round more is known. -/
theorem watched_forM {items : List β} {work : β → Job σ Unit}
    {work' : β → Job (σ × List (Call σ)) Unit} (effect : List β → Effect σ Unit)
    (hnil : ∀ p, effect [] p [] () p)
    (hcons : ∀ item rest, Watched (work item) (work' item) fun p front _ p' =>
      ∀ rear p'', effect rest p' rear () p'' → effect (item :: rest) p (front ++ rear) () p'') :
    Watched (items.forM work) (items.forM work') (effect items) := by
  induction items with
  | nil =>
    refine (watched_pure ()).mono fun p calls _ p' h => ?_
    obtain ⟨rfl, -, rfl⟩ := h
    exact hnil p'
  | cons item rest ih =>
    refine ((hcons item rest).bind fun _ => ih).mono fun p calls _ p'' h => ?_
    obtain ⟨-, p', front, rear, rfl, hround, hrest⟩ := h
    exact hround rear p'' hrest

end SemanticWiki.CommandLine
