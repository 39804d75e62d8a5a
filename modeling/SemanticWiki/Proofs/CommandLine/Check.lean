import SemanticWiki.Proofs.CommandLine.Loading
import SemanticWiki.Proofs.Engine.Languages
import SemanticWiki.Proofs.Except

/-! The check of a file of sentences. It ends with a summary, which counts all sentences of the file and
says whether the wiki is consistent. -/

namespace SemanticWiki.CommandLine

open Ontology Reason

variable {σ : Type} {e : Engine σ} {b : Backend}

def Concludes (b : Backend) (output : String) (p : Progress σ) (consistent : Bool) : Prop :=
  output = summary p.added p.rejected.length consistent ∧
    b.MayReply (.consistency p.world.ontology.axioms) (.ok consistent)

theorem watched_verdict (hserves : e.reasoner.Serves b) :
    Watched (verdict e) (verdict e.observed) fun p calls output p' =>
      Advances e b 0 p calls p' ∧ ∃ consistent, Concludes b output p' consistent := by
  have hchecked : Watched (Job.change e.checkConsistency) (Job.change e.observed.checkConsistency)
      fun p _ result p' => ∃ w, (w.ontology = p.world.ontology ∧ ∀ report, result = .ok report →
        b.MayReply (.consistency p.world.ontology.axioms) (.ok report.consistent)) ∧
        p' = { p with world := w } := by
    refine watched_change (fun w _ (done : Except WikiError ConsistencyReport × World σ) =>
      done.2.ontology = w.ontology ∧ ∀ report, done.1 = .ok report →
        b.MayReply (.consistency w.ontology.axioms) (.ok report.consistent)) fun w earlier => ?_
    obtain ⟨c, hobserved, hdone⟩ := Engine.checkConsistency_observed hserves w earlier
    exact ⟨[c], hobserved, hdone⟩
  refine (hchecked.bind fun result => (watched_ofExcept .wiki result).bind fun report =>
    watched_gets (fun p => summary p.added p.rejected.length report.consistent) _
      fun p calls => rfl).mono ?_
  rintro p calls output p'' ⟨_, _, _, _, rfl, ⟨w, ⟨hsame, hreply⟩, rfl⟩, report, _, _, _, rfl,
    ⟨rfl, rfl, rfl⟩, rfl, rfl, rfl⟩
  refine ⟨.of_kept e b _ (hsame ▸ .refl _) rfl, report.consistent, rfl, ?_⟩
  rw [hsame]
  exact hreply report rfl

theorem watched_check (hserves : e.reasoner.Serves b) (files : Files) {i : Invocation}
    {path : String} {code : Option String} (hcheck : i.command = .check path code) :
    Watched (i.job files e) (i.job files e.observed) fun p calls output p' =>
      ∃ text consistent, files path = some text ∧
        Advances e b (sentenceLines text).length p calls p' ∧ Concludes b output p' consistent := by
  have hperform : Watched (i.command.perform e files) (i.command.perform e.observed files)
      fun p calls output p' => ∃ text consistent, files path = some text ∧
        Advances e b (sentenceLines text).length p calls p' ∧ Concludes b output p' consistent := by
    rw [hcheck]
    refine ((watched_loadSentences hserves files _ path).bind fun _ => watched_verdict hserves).mono ?_
    rintro p calls output p'' ⟨-, p', front, rear, rfl, ⟨text, htext, hadvances⟩, hstays, consistent,
      hconcludes⟩
    exact ⟨text, consistent, htext, hadvances.trans hstays, hconcludes⟩
  unfold Invocation.job
  cases i.lexicon with
  | none => exact hperform
  | some lexicon =>
    refine ((watched_loadLexicon files lexicon).bind fun _ => hperform).mono ?_
    rintro p calls output p'' ⟨-, p', front, rear, rfl, ⟨rfl, hkept, hrejected⟩, text, consistent,
      htext, hadvances, hconcludes⟩
    have hloaded : Advances e b 0 p [] p' := .of_kept e b [] hkept hrejected
    have htotal := hloaded.trans hadvances
    rw [Nat.zero_add] at htotal
    exact ⟨text, consistent, htext, htotal, hconcludes⟩

theorem runWith_eq {new : Config → Except WikiError (Engine σ)} {files : Files}
    {arguments : List String} {i : Invocation} {config : Config}
    (harguments : Invocation.ofArguments arguments = .ok i) (hconfig : i.config? files = .ok config)
    (hnew : new config = .ok e) (memory : σ) : runWith new memory files arguments =
      conclude ((i.job files e).run.run { world := e.start e.emptyOntology memory }) := by
  have hbind : (i.config? files >>= new) = .ok e := by rw [hconfig]; exact hnew
  unfold runWith Invocation.perform
  rw [harguments]
  dsimp only
  rw [hbind]

theorem exists_setup {new : Config → Except WikiError (Engine σ)} {memory : σ} {files : Files}
    {arguments : List String} {i : Invocation}
    (harguments : Invocation.ofArguments arguments = .ok i)
    (hprinted : (runWith new memory files arguments).1.failure = none) :
    ∃ config e, i.config? files = .ok config ∧ new config = .ok e := by
  unfold runWith Invocation.perform at hprinted
  rw [harguments] at hprinted
  dsimp only at hprinted
  cases hsetup : i.config? files >>= new with
  | error error =>
    rw [hsetup] at hprinted
    cases hprinted
  | ok e =>
    obtain ⟨config, hconfig, hnew⟩ := bind_ok hsetup
    exact ⟨config, e, hconfig, hnew⟩

theorem summary_eq (added rejected : Nat) (consistent : Bool) : summary added rejected consistent =
    toString added ++ " sentence(s) added, " ++ toString rejected ++ " rejected, ontology is " ++
      (if consistent then "consistent" else "inconsistent") ++ "\n" := by
  rw [summary]
  rfl

/-- The calls of the reasoner are those that are written down if it is observed, which changes nothing
about the run. A memory with addresses of 64 bits holds no larger file. -/
theorem check_accounts_for_every_line (reasoner : Config → Reasoner σ)
    (hserves : ∀ config, (reasoner config).Serves config.backend) (memory : σ) (files : Files)
    (arguments : List String) (i : Invocation) (path : String) (code : Option String)
    (harguments : Invocation.ofArguments arguments = .ok i) (hcheck : i.command = .check path code)
    (hsize : ∀ text, files path = some text → text.utf8ByteSize < UInt64.size) :
    let ran := runWith (fun config => Engine.init config .builtin (reasoner config)) memory files
      arguments
    let observed := runWith (fun config => Engine.init config .builtin (reasoner config).observed)
      (memory, []) files arguments
    ran.1.failure = none →
      ∃ config text w calls consistent, i.config? files = .ok config ∧ files path = some text ∧
        ran.2 = some w ∧ observed = (ran.1, some (w.withCalls calls)) ∧
        ran.1.output = toString w.ontology.sentences.length ++ " sentence(s) added, " ++
          toString ran.1.rejected.length ++ " rejected, ontology is " ++
          (if consistent then "consistent" else "inconsistent") ++ "\n" ∧
        w.ontology.sentences.length + ran.1.rejected.length =
          (text.toList.splitOn '\n').countP (fun line => HoldsSentence line) ∧
        (config.checkOnAdd = true → (∀ c ∈ calls, c.WithinBudget) → consistent = true) := by
  intro ran observed hprinted
  obtain ⟨config, e, hconfig, hinit⟩ := exists_setup harguments hprinted
  have hinit' : Engine.init config .builtin (reasoner config).observed = .ok e.observed := by
    rw [Engine.init_observed, hinit]
    rfl
  have hserves' : e.reasoner.Serves config.backend := by
    rw [(Engine.init_ok_iff.1 hinit).2.2]
    exact hserves config
  obtain ⟨calls, hsame, hdone⟩ := watched_check hserves' files hcheck
    { world := e.start e.emptyOntology memory } []
  have hran : ran = conclude ((i.job files e).run.run { world := e.start e.emptyOntology memory }) :=
    runWith_eq harguments hconfig hinit memory
  have hobserved : observed = conclude ((i.job files e.observed).run.run
      { world := (e.start e.emptyOntology memory).withCalls [] }) :=
    runWith_eq harguments hconfig hinit' (memory, [])
  rw [hran] at hprinted
  rw [hran, hobserved]
  have hsame' : (i.job files e.observed).run.run
      { world := (e.start e.emptyOntology memory).withCalls [] } = _ := hsame
  rw [hsame']
  generalize (i.job files e).run.run { world := e.start e.emptyOntology memory } = done
    at hprinted hdone
  obtain ⟨result, p⟩ := done
  cases result with
  | error failure => cases hprinted
  | ok output =>
    obtain ⟨text, consistent, htext, hadvances, houtput, hreply⟩ := hdone output rfl
    have hroom : 0 + (sentenceLines text).length + 1 < UInt64.size := by
      rw [Nat.zero_add]
      exact length_sentenceLines_lt (hsize text htext)
    obtain ⟨-, -, hcounted⟩ := hadvances.counted (unretracted_new _ _) hroom
    rw [length_sentenceLines] at hcounted
    refine ⟨config, text, p.world, calls, consistent, hconfig, htext, rfl, rfl,
      houtput.trans (summary_eq _ _ _),
      hcounted.trans (Nat.zero_add _), fun hchecked hwithin => ?_⟩
    have henabled : config.backend ≠ .disabled := by
      intro hdisabled
      rw [hdisabled] at hreply
      cases hreply
    have hchecked' : e.config.checkOnAdd = true := by
      rw [(Engine.init_ok_iff.1 hinit).2.2]
      exact hchecked
    exact hreply.consistent_iff.2
      (hadvances.consistent hchecked' henabled hwithin satisfiable_nil)

/-! A file with a comment, an empty line, and three sentences, of which the last one contradicts the
others. -/

def peopleFiles : Files := fun path => [
  ("lexicon.json",
    "[[\"noun\", [\"man\", \"men\"]], [\"noun\", [\"woman\", \"women\"]], [\"propername\", [\"Sue\"]]]"),
  ("sentences.txt", "# People\nNo man is a woman.\n\nSue is a woman.\n  Sue is a man.\n")].lookup path

def checkPeople : List String := ["--lexicon", "lexicon.json", "check", "sentences.txt"]

def peopleCheck : Invocation := ⟨none, some "lexicon.json", .check "sentences.txt" none⟩

def standard (r : Reasoner σ) : Engine σ where
  config := {}
  registry := .builtin
  languages := ["de", "en", "es"]
  reasoner := r
  exporters := Engine.builtinExporters .builtin ["de", "en", "es"]

theorem init_standard (r : Reasoner σ) : Engine.init {} .builtin r = .ok (standard r) := by
  rw [Engine.init_ok_iff, Engine.visibleLanguages_builtin]
  have hoffered : "en" ∈ ["de", "en", "es"] := by decide
  exact ⟨by decide +kernel, fun _ => hoffered, rfl⟩

open Engine in
def peopleVerdicts : List ((Backend × Query) × Bool) :=
  let saturation : Backend := .saturation defaultBudget
  let rule : Axiom := .disjointClasses man woman
  let standing : List Axiom := [rule, .classAssertion sue woman]
  [((saturation, .consistency ⟨3, [rule]⟩), true),
   ((saturation, .consistency ⟨4, standing⟩), true),
   ((saturation, .consistency ⟨5, standing ++ [.classAssertion sue man]⟩), false),
   ((saturation, .consistency ⟨5, standing⟩), true)]

def rehearsed (b : Backend) : Reasoner Unit where
  name := b.name
  consult query w := ((peopleVerdicts.lookup (b, query)).elim (b.ask query) .ok, w)

theorem rehearsed_eq (b : Backend) : rehearsed b = .ofBackend b := by
  have hknown : ∀ entry ∈ peopleVerdicts, entry.1.1.ask entry.1.2 = .ok entry.2 := by
    intro entry hentry
    simp only [peopleVerdicts, List.mem_cons, List.not_mem_nil, or_false] at hentry
    rcases hentry with rfl | rfl | rfl | rfl <;> cbv
  have hask (query : Query) :
      (peopleVerdicts.lookup (b, query)).elim (b.ask query) .ok = b.ask query := by
    cases hlookup : peopleVerdicts.lookup (b, query) with
    | none => rfl
    | some verdict =>
      obtain ⟨before, after, hsplit, -⟩ := List.lookup_eq_some_iff.1 hlookup
      exact (hknown ((b, query), verdict) (by simp [hsplit])).symm
  unfold rehearsed Reasoner.ofBackend
  simp only [hask]

theorem contradictory_line_rejected :
    let ran := runWith Engine.new () peopleFiles checkPeople
    let observed := runWith (fun config => Engine.init config .builtin
      (Reasoner.ofBackend config.backend).observed) ((), []) peopleFiles checkPeople
    ran.1 = run peopleFiles checkPeople ∧ ran.1.failure = none ∧ ran.1.rejected.length = 1 ∧
      ∃ text w calls, peopleFiles "sentences.txt" = some text ∧ ran.2 = some w ∧
        observed = (ran.1, some (w.withCalls calls)) ∧ (∀ c ∈ calls, c.WithinBudget) ∧
        ran.1.output = "2 sentence(s) added, 1 rejected, ontology is consistent\n" ∧
        w.ontology.sentences.length + 1 =
          (text.toList.splitOn '\n').countP (fun line => HoldsSentence line) := by
  intro ran observed
  have harguments : Invocation.ofArguments checkPeople = .ok peopleCheck := by decide +kernel
  have hran : ran.1.failure = none ∧ ran.1.rejected.length = 1 := by
    rw [show ran = _ from runWith_eq harguments rfl (init_standard _) (), ← rehearsed_eq]
    decide +kernel
  have hanswers : observed.2.map (fun w => w.memory.2.map (·.answer)) =
      some [.ok true, .ok true, .ok false, .ok true] := by
    rw [show observed = _ from runWith_eq harguments rfl (init_standard _) ((), []), ← rehearsed_eq]
    decide +kernel
  obtain ⟨config, text, w, calls, consistent, hconfig, htext, hw, hobserved, houtput, hcount,
      hconsistent⟩ :=
    check_accounts_for_every_line (fun config => .ofBackend config.backend)
      (fun config => Reasoner.serves_ofBackend config.backend) () peopleFiles checkPeople peopleCheck
      "sentences.txt" none harguments rfl (fun text htext => by
        cases htext
        decide +kernel) hran.1
  have hwithin : ∀ c ∈ calls, c.WithinBudget := by
    rw [show observed = _ from hobserved] at hanswers
    have hanswers : calls.map (·.answer) = [.ok true, .ok true, .ok false, .ok true] :=
      Option.some.inj hanswers
    intro c hc budget hexceeded
    have hmem : c.answer ∈ calls.map (·.answer) := List.mem_map_of_mem hc
    rw [hanswers, hexceeded] at hmem
    simp at hmem
  have hchecked : config.checkOnAdd = true := by
    cases hconfig
    rfl
  have hlines : (text.toList.splitOn '\n').countP (fun line => HoldsSentence line) = 3 := by
    cases htext
    decide +kernel
  have hrejected : (runWith (fun config => Engine.init config .builtin
      (Reasoner.ofBackend config.backend)) () peopleFiles checkPeople).1.rejected.length = 1 := hran.2
  rw [hrejected] at houtput hcount
  have hadded : w.ontology.sentences.length = 2 := Nat.succ.inj (hcount.trans hlines)
  rw [hconsistent hchecked hwithin, hadded] at houtput
  exact ⟨rfl, hran.1, hran.2, text, w, calls, htext, hw, hobserved, hwithin, houtput, hcount⟩

end SemanticWiki.CommandLine
