import SemanticWiki.Proofs.CommandLine.Job
import SemanticWiki.Proofs.Engine.Logbook
import SemanticWiki.Proofs.Engine.Undisturbed
import SemanticWiki.Proofs.Text.ByteOrder
import SemanticWiki.Proofs.Text.Pieces

/-! Files at work on a wiki. A lexicon does nothing to sentences. Of a file of sentences every line that
holds one is added or rejected, or else the run ends with a failure; and where additions are checked,
what is added stays consistent with what is there, unless the reasoner gives up on the way. -/

namespace SemanticWiki.CommandLine

open Ontology Reason

variable {σ : Type} {e : Engine σ} {b : Backend}

/-! The lines of a file. -/

def HoldsSentence (line : List Char) : Prop :=
  ∃ c, line.find? (fun c => !Text.isBlank c) = some c ∧ c ≠ '#'

theorem holdsSentence_iff {line : List Char} : HoldsSentence line ↔
    (!(Text.trim line).isEmpty && (Text.trim line).head? != some '#') = true := by
  rw [HoldsSentence, ← Text.head?_trim]
  cases Text.trim line with
  | nil => simp
  | cons c rest => simp

instance : DecidablePred HoldsSentence := fun _ => decidable_of_iff _ holdsSentence_iff.symm

theorem length_sentenceLines (text : String) : (sentenceLines text).length =
    (text.toList.splitOn '\n').countP fun line => HoldsSentence line := by
  have hempty (line : List Char) (hline : HoldsSentence line) : line.isEmpty = false := by
    cases line with
    | nil => obtain ⟨c, hc, -⟩ := hline; cases hc
    | cons c rest => rfl
  unfold sentenceLines
  rw [List.length_map, ← List.countP_eq_length_filter, List.countP_map,
    Text.pieces_eq_filter_splitOnP, List.countP_filter]
  refine List.countP_congr fun line _ => ?_
  simp only [Function.comp_apply, Bool.and_eq_true, decide_eq_true_eq, holdsSentence_iff]
  constructor
  · exact And.left
  · intro hline
    exact ⟨hline, by rw [hempty line (holdsSentence_iff.2 (by simpa using hline))]; rfl⟩

theorem length_sentenceLines_lt {text : String} (hsize : text.utf8ByteSize < UInt64.size) :
    (sentenceLines text).length + 1 < UInt64.size := by
  have hlines : (sentenceLines text).length ≤
      (Text.pieces (· == '\n') text.toList).length := by
    unfold sentenceLines
    rw [List.length_map]
    refine (List.length_filter_le _ _).trans ?_
    rw [List.length_map]
  have hpieces := Text.two_mul_length_pieces_le (· == '\n') text.toList
  have hlength := Text.length_le_utf8ByteSize text
  rw [UInt64.size] at hsize ⊢
  omega

/-! The words. -/

def Spares (p : Progress σ) (_ : Unit) (p' : Progress σ) : Prop :=
  Kept p.world.ontology p'.world.ontology ∧ p'.rejected = p.rejected

theorem watched_loadEntry (entry : LexiconEntry) :
    Watched (loadEntry entry : Job σ Unit) (loadEntry entry) (Quiet Spares) := by
  have hentry (w : World σ) (earlier : List (Call σ)) : ∃ calls,
      Engine.addEntry (w.withCalls earlier) entry =
        Engine.noted (earlier ++ calls) (Engine.addEntry w entry) ∧
      calls = [] ∧ Kept w.ontology (Engine.addEntry w entry).2.ontology := by
    refine ⟨[], ?_, rfl, Engine.kept_addEntry w entry⟩
    rw [List.append_nil]
    exact Engine.addEntry_withCalls w earlier entry
  have hadded : Watched (Job.change fun w => Engine.addEntry w entry)
      (Job.change fun w => Engine.addEntry w entry) fun p calls _ p' => ∃ w : World σ,
        (calls = [] ∧ Kept p.world.ontology w.ontology) ∧ p' = { p with world := w } :=
    watched_change (fun w calls done => calls = [] ∧ Kept w.ontology done.2.ontology) hentry
  unfold loadEntry
  refine (hadded.bind fun result => show Watched _ _ (Quiet fun p _ p' => p' = p) from ?_).mono ?_
  · cases result with
    | none => exact watched_throw _ _
    | some saved =>
      refine ((watched_ofExcept _ saved.1).bind fun _ => watched_pure ()).mono ?_
      rintro p calls - p'' ⟨_, p', front, rear, rfl, ⟨rfl, -, rfl⟩, rfl, -, rfl⟩
      exact ⟨rfl, rfl⟩
  · rintro p calls - p'' ⟨_, p', front, rear, rfl, ⟨w, ⟨rfl, hkept⟩, rfl⟩, rfl, rfl⟩
    exact ⟨rfl, hkept, rfl⟩

theorem watched_loadLexicon (files : Files) (path : String) :
    Watched (loadLexicon files path : Job σ Unit) (loadLexicon files path) (Quiet Spares) := by
  have hentries (entries : List LexiconEntry) : Watched (entries.forM loadEntry : Job σ Unit)
      (entries.forM loadEntry) (Quiet Spares) := by
    refine watched_forM (fun _ => Quiet Spares) (fun p => ⟨rfl, .refl _, rfl⟩) fun entry rest =>
      (watched_loadEntry entry).mono ?_
    rintro p front - p' ⟨rfl, hkept, hrejected⟩ rear p'' ⟨rfl, hkept', hrejected'⟩
    exact ⟨rfl, hkept.trans hkept', hrejected'.trans hrejected⟩
  refine ((watched_file files path).bind fun text => show Watched _ _ (Quiet Spares) from ?_).mono ?_
  · cases LexiconEntry.readAll? text with
    | none => exact watched_throw _ _
    | some entries => exact hentries entries
  · rintro p calls _ p'' ⟨text, p', front, rear, rfl, ⟨rfl, -, rfl⟩, rfl, hspared⟩
    exact ⟨rfl, hspared⟩

/-! The sentences. -/

def Progress.added (p : Progress σ) : Nat := p.world.ontology.sentences.length

/-- So many lines have been dealt with: each has been added or rejected. As long as the reasoner keeps
within its budget, that has not made the wiki inconsistent. -/
structure Advances (e : Engine σ) (b : Backend) (lines : Nat) (p : Progress σ)
    (calls : List (Call σ)) (p' : Progress σ) : Prop where
  counted : p.world.ontology.Unretracted → p.added + lines + 1 < UInt64.size →
    p'.world.ontology.Unretracted ∧ p.rejected.length ≤ p'.rejected.length ∧
      p'.added + p'.rejected.length = p.added + p.rejected.length + lines
  consistent : e.config.checkOnAdd = true → b ≠ .disabled → (∀ c ∈ calls, c.WithinBudget) →
    Satisfiable.{0} p.world.ontology.axioms.axioms →
      Satisfiable.{0} p'.world.ontology.axioms.axioms

namespace Advances

variable {p p' p'' : Progress σ} {calls front rear : List (Call σ)} {lines lines' : Nat}

theorem of_kept (e : Engine σ) (b : Backend) (calls : List (Call σ))
    (hkept : Kept p.world.ontology p'.world.ontology) (hrejected : p'.rejected = p.rejected) :
    Advances e b 0 p calls p' where
  counted h _ := by
    refine ⟨h.of_kept hkept, Nat.le_of_eq (by rw [hrejected]), ?_⟩
    unfold Progress.added
    rw [hkept.sentences, hrejected, Nat.add_zero]
  consistent _ _ _ hsatisfiable := by
    unfold axioms at hsatisfiable ⊢
    rwa [hkept.sentences]

theorem trans (h : Advances e b lines p front p') (h' : Advances e b lines' p' rear p'') :
    Advances e b (lines + lines') p (front ++ rear) p'' where
  counted hkept hroom := by
    obtain ⟨hkept', hmore, hcounted⟩ := h.counted hkept (by omega)
    obtain ⟨hkept'', hmore', hcounted'⟩ := h'.counted hkept' (by omega)
    exact ⟨hkept'', hmore.trans hmore', by omega⟩
  consistent hcheck henabled hwithin hsatisfiable := by
    rw [List.forall_mem_append] at hwithin
    exact h'.consistent hcheck henabled hwithin.2
      (h.consistent hcheck henabled hwithin.1 hsatisfiable)

end Advances

theorem watched_parse (e : Engine σ) (language text : String) :
    Watched (parse e language text) (parse e.observed language text)
      (Quiet fun p _ p' => p'.world.ontology = p.world.ontology ∧ p'.rejected = p.rejected) := by
  have hparse (w : World σ) (earlier : List (Call σ)) : ∃ calls,
      e.observed.parse (w.withCalls earlier) language text =
        Engine.noted (earlier ++ calls) (e.parse w language text) ∧
      calls = [] ∧ (e.parse w language text).2.ontology = w.ontology := by
    refine ⟨[], ?_, rfl, e.ontology_withHandler w language fun h o => h.parse o text⟩
    rw [List.append_nil]
    exact e.parse_withCalls w earlier language text
  refine ((watched_change (fun w calls done => calls = [] ∧ done.2.ontology = w.ontology)
    hparse).bind fun result => watched_ofExcept _ result).mono ?_
  rintro p calls s p'' ⟨result, p', front, rear, rfl, ⟨w, ⟨rfl, hsame⟩, rfl⟩, rfl, -, rfl⟩
  exact ⟨rfl, hsame, rfl⟩

theorem advances_of_concluded (hserves : e.reasoner.Serves b) {p p' : Progress σ}
    {calls : List (Call σ)} {w : World σ} {s : Sentence}
    {done : Except WikiError SentenceId × World σ} (hw : w.ontology = p.world.ontology)
    (hconcluded : Engine.Concluded e s w calls done) (hworld : p'.world = done.2)
    (hfiled : p'.rejected.length = p.rejected.length + if done.1.isOk then 0 else 1) :
    Advances e b 1 p calls p' where
  counted hkept hroom := by
    unfold Progress.added at hroom ⊢
    rw [← hw] at hkept hroom ⊢
    rw [hworld]
    cases hconcluded with
    | refused error hsame =>
      rw [hsame]
      exact ⟨hkept, by omega, by rw [hfiled]; rfl⟩
    | stored id hstored happroved =>
      obtain ⟨hkept', hlength⟩ := hkept.withSentence s hroom
      rw [hstored, hlength, hfiled]
      exact ⟨hkept', Nat.le_add_right _ _, Nat.add_right_comm _ _ _⟩
  consistent hcheck henabled hwithin hsatisfiable := by
    rw [hworld]
    exact hconcluded.satisfiable hserves hcheck hwithin (hw ▸ hsatisfiable) henabled

theorem watched_fileResult (result : Except WikiError SentenceId) :
    Watched (fileResult result : Job σ Unit) (fileResult result)
      (Quiet fun p _ p' => p'.world = p.world ∧
        p'.rejected.length = p.rejected.length + if result.isOk then 0 else 1) := by
  cases result with
  | ok id =>
    refine (watched_pure ()).mono ?_
    rintro p calls - p' ⟨rfl, -, rfl⟩
    exact ⟨rfl, rfl, rfl⟩
  | error error =>
    cases error with
    | engine error =>
      cases error with
      | inconsistentSentence text =>
        refine (watched_reject _).mono ?_
        rintro p calls - p' ⟨rfl, rfl⟩
        exact ⟨rfl, rfl, List.length_append⟩
      | _ => exact watched_throw _ _
    | _ => exact watched_throw _ _

theorem watched_addLine (hserves : e.reasoner.Serves b) (language line : String) :
    Watched (addLine e language line) (addLine e.observed language line)
      fun p calls _ p' => Advances e b 1 p calls p' := by
  have hadd (s : Sentence) : Watched (Job.change fun w => e.addSentence w s)
      (Job.change fun w => e.observed.addSentence w s) fun p calls result p' =>
        ∃ w, Engine.Concluded e s p.world calls (result, w) ∧ p' = { p with world := w } :=
    watched_change (fun w calls done => Engine.Concluded e s w calls done)
      fun w earlier => Engine.addSentence_concluded hserves.still s w earlier
  refine ((watched_parse e language line).bind fun s => (hadd s).bind watched_fileResult).mono ?_
  rintro p calls - p'' ⟨s, v, _, rear, rfl, ⟨rfl, hontology, hrejected⟩, result, _, front, _, rfl,
    ⟨w, hconcluded, rfl⟩, rfl, hworld, hfiled⟩
  rw [hrejected] at hfiled
  rw [List.nil_append, List.append_nil]
  exact advances_of_concluded hserves hontology hconcluded hworld hfiled

theorem watched_loadSentences (hserves : e.reasoner.Serves b) (files : Files)
    (language path : String) :
    Watched (loadSentences e files language path) (loadSentences e.observed files language path)
      fun p calls _ p' => ∃ text, files path = some text ∧
        Advances e b (sentenceLines text).length p calls p' := by
  have hlines (lines : List String) : Watched (lines.forM (addLine e language))
      (lines.forM (addLine e.observed language))
      fun p calls _ p' => Advances e b lines.length p calls p' := by
    refine watched_forM (fun lines p calls _ p' => Advances e b lines.length p calls p')
      (fun p => .of_kept e b [] (.refl _) rfl) fun line rest => ?_
    refine (watched_addLine hserves language line).mono fun p front _ p' h rear p'' hrest => ?_
    rw [List.length_cons, Nat.add_comm]
    exact h.trans hrest
  refine ((watched_file files path).bind fun text => hlines (sentenceLines text)).mono ?_
  rintro p calls - p'' ⟨text, p', front, rear, rfl, ⟨rfl, htext, rfl⟩, hadvances⟩
  exact ⟨text, htext, hadvances⟩

end SemanticWiki.CommandLine
