import SemanticWiki.Proofs.Grammar.Legibility
import SemanticWiki.Proofs.Lexicon.Shape

/-! Writing and reading. What a language writes for a statement is read back as that statement. A
reader may find other readings besides, and then refuses the text. -/

namespace SemanticWiki

theorem Statement.assemble?_ofStatement {kindOf : ElementId → Option Kind} {s : Statement}
    {construct : Construct} (h : s.construct kindOf = .ok construct) :
    (Binding.ofStatement s).assemble? construct = some s ∧
      ((Binding.ofStatement s).relation.isSome = true →
        Language.isRelational construct = true) := by
  cases s with
  | subsumption sub sup | disjointness sub sup | membership sub sup | nonMembership sub sup =>
    obtain ⟨_, -, h⟩ := bind_ok h
    obtain ⟨_, -, h⟩ := bind_ok h
    obtain rfl := Except.ok.inj h
    exact ⟨rfl, by simp [Binding.ofStatement]⟩
  | relation a r b =>
    obtain ⟨_, -, h⟩ := bind_ok h
    obtain ⟨kind, -, h⟩ := bind_ok h
    obtain ⟨_, -, h⟩ := bind_ok h
    obtain rfl := Except.ok.inj h
    by_cases hkind : kind = .transitiveAdjective
    · rw [if_pos hkind]
      exact ⟨rfl, fun _ => rfl⟩
    · rw [if_neg hkind]
      exact ⟨rfl, fun _ => rfl⟩

namespace Language

theorem outputRule?_eq_some {g : Language} {construct : Construct} {question : Bool} {r : Rule}
    (h : g.outputRule? construct question = some r) :
    r ∈ g.rules ∧ r.construct = construct ∧ r.question = question := by
  have hr := List.find?_some h
  simp only [Bool.and_eq_true, beq_iff_eq] at hr
  exact ⟨List.mem_of_find?_eq_some h, hr⟩

theorem subject_mem {r : Rule} (hr : isComplete r = true) :
    .subject ∈ r.items.filterMap Item.role? := by
  simp only [isComplete, Bool.and_eq_true, List.contains_iff_mem] at hr
  exact hr.1.1

theorem Spells.ne_nil {g : Language} {index : LexIndex} {c : Binding} {items : List Item}
    {tokens : List String} {role : Role} (h : Spells g index c items tokens)
    (hrole : role ∈ items.filterMap Item.role?) : tokens ≠ [] := by
  induction h with
  | nil => simp at hrole
  | keyword _ _ _ | mark _ _ | indefinite _ _ _ | definiteName _ _ _ _ _ => simp
  | unmarked _ ih => exact ih (by simpa [Item.role?] using hrole)
  | word _ hlists _ _ | name _ hlists _ _ => exact List.append_ne_nil_of_left_ne_nil hlists.1 _

theorem fills_ofStatement {r : Rule} (hr : isComplete r = true) {s : Statement}
    (hrelation : (Binding.ofStatement s).relation.isSome = true →
      isRelational r.construct = true) :
    (Binding.ofStatement s).Fills .empty (r.items.filterMap Item.role?) := by
  simp only [isComplete, Bool.and_eq_true, Bool.or_eq_true, Bool.not_eq_true',
    List.contains_iff_mem] at hr
  obtain ⟨⟨hsubject, hobject⟩, hrelational⟩ := hr
  refine ⟨fun role id h => by simp at h, fun role hrole => ?_⟩
  cases role with
  | subject => exact absurd hsubject hrole
  | object => exact absurd hobject hrole
  | relation =>
    rw [Binding.get?_empty]
    cases hsome : (Binding.ofStatement s).relation with
    | none => exact hsome
    | some id =>
      have hrequired := hrelation (by rw [hsome]; rfl)
      exact absurd (hrelational.resolve_left (by simp [hrequired])) hrole

theorem pieces_of_linearize {g : Language} (hg : g.legible = true) {index : LexIndex}
    (hindex : index.Readable) {s : Statement} {question : Bool} {text : String}
    (h : g.linearize index s question = .ok text) :
    ∃ r ∈ g.rules, s.construct index.kindOf = .ok r.construct ∧ r.question = question ∧
      ∃ pieces, g.piecesOfItems index (.ofStatement s) r.items = .ok pieces ∧
        Grammar.tokenize text = pieces.flatMap Piece.tokens := by
  obtain ⟨construct, hconstruct, h⟩ := bind_ok h
  cases hrule : g.outputRule? construct question with
  | none => simp [hrule, throw, throwThe, MonadExceptOf.throw] at h
  | some r =>
    rw [hrule] at h
    obtain ⟨pieces, hpieces, h⟩ := bind_ok h
    obtain rfl := Except.ok.inj h
    obtain ⟨hr, rfl, rfl⟩ := outputRule?_eq_some hrule
    obtain ⟨hsound, -⟩ := spells_piecesOfItems hg hindex ((legible_iff.1 hg).1 r hr).1 hpieces
    refine ⟨r, hr, hconstruct, rfl, pieces, hpieces, ?_⟩
    rw [Grammar.tokenize, String.toList_ofList,
      Piece.tokens_join (fun p hp => (hsound p hp).1) (fun p hp => (hsound p hp).2.plain),
      List.map_flatMap]
    rfl

theorem mem_readings_of_linearize {g : Language} (hg : g.legible = true) {index : LexIndex}
    (hindex : index.Readable) {s : Statement} {question : Bool} {text : String}
    (h : g.linearize index s question = .ok text) :
    (s, question) ∈ g.readings index (Grammar.tokenize text) := by
  obtain ⟨r, hr, hconstruct, rfl, pieces, hpieces, htokens⟩ := pieces_of_linearize hg hindex h
  obtain ⟨hitems, hcomplete⟩ := (legible_iff.1 hg).1 r hr
  obtain ⟨-, hspells⟩ := spells_piecesOfItems hg hindex hitems hpieces
  obtain ⟨hassemble, hrelation⟩ := Statement.assemble?_ofStatement hconstruct
  -- the rule that the text was written with is one that it can be read with
  rw [htokens, mem_readings_iff]
  exact ⟨hspells.ne_nil (subject_mem hcomplete), r, hr, rfl, _, hspells,
    fills_ofStatement hcomplete hrelation, hassemble⟩

theorem parse_of_mem_readings {g : Language} {index : LexIndex} {text : String}
    {reading : Reading} (h : reading ∈ g.readings index (Grammar.tokenize text)) :
    g.parse index text = .ok reading ∨
      ∃ n, 2 ≤ n ∧ g.parse index text = .error (.ambiguousParse text g.code n) := by
  unfold parse
  cases hreadings : g.readings index (Grammar.tokenize text) with
  | nil => simp [hreadings] at h
  | cons first rest =>
    cases rest with
    | nil =>
      rw [hreadings, List.mem_singleton] at h
      exact .inl (h ▸ rfl)
    | cons second rest => exact .inr ⟨_, by simp, rfl⟩

end Language

theorem LexIndex.readable_build (g : Language) (revision : Nat) {elements : List Element}
    (h : ∀ e ∈ elements, e.WellWorded) : (LexIndex.build g revision elements).Readable := by
  intro id cat surface hsurface
  obtain ⟨⟨e, he, -, -, hword, rfl⟩, hlists⟩ := surface?_build hsurface
  exact ⟨g.inflect_firstLetterBasic cat hword ((h e he).word cat.slot hword).1, hlists⟩

/-- The numbers of the elements need not be distinct. -/
theorem linearize_never_misread {g : Language}
    (hg : g ∈ [Language.english, Language.german, Language.spanish]) (code name : String)
    (revision : Nat) {elements : List Element}
    (hvalues : ∀ e ∈ elements, ∃ raw, Lexicon.validateValues e.kind raw = .ok e.values)
    {s : Statement} {question : Bool} {text : String}
    (h : (g.renamed code name).linearize
      (LexIndex.build (g.renamed code name) revision elements) s question = .ok text) :
    let index := LexIndex.build (g.renamed code name) revision elements
    (s, question) ∈ (g.renamed code name).readings index (Grammar.tokenize text) ∧
      ((g.renamed code name).parse index text = .ok (s, question) ∨
        ∃ n, 2 ≤ n ∧ (g.renamed code name).parse index text =
          .error (.ambiguousParse text code n)) := by
  have hlegible : (g.renamed code name).legible = true := by
    rw [Language.legible_renamed]
    simp only [List.mem_cons, List.not_mem_nil, or_false] at hg
    rcases hg with rfl | rfl | rfl
    · exact Language.english_legible
    · exact Language.german_legible
    · exact Language.spanish_legible
  have hwords : ∀ e ∈ elements, e.WellWorded := by
    intro e he word hword
    obtain ⟨raw, hraw⟩ := hvalues e he
    exact Lexicon.validateValues_word hraw hword
  have hreadable := LexIndex.readable_build (g.renamed code name) revision hwords
  have hmem := Language.mem_readings_of_linearize hlegible hreadable h
  exact ⟨hmem, Language.parse_of_mem_readings hmem⟩

def overlappingNames (likes newYork new yorkCity city : ElementId) : List Element :=
  [⟨likes, .relation, [.word "likes", .word "like", .word "liked"]⟩,
   ⟨newYork, .individual, [.word "New_York", .flag false]⟩,
   ⟨new, .individual, [.word "New", .flag false]⟩,
   ⟨yorkCity, .individual, [.word "York_City", .flag false]⟩,
   ⟨city, .individual, [.word "City", .flag false]⟩]

theorem overlapping_names_not_misread :
    let likes : ElementId := ⟨⟨7, by decide, by decide⟩⟩
    let newYork : ElementId := ⟨⟨9, by decide, by decide⟩⟩
    let city : ElementId := ⟨⟨13, by decide, by decide⟩⟩
    let elements := overlappingNames likes newYork ⟨⟨11, by decide, by decide⟩⟩
      ⟨⟨12, by decide, by decide⟩⟩ city
    let g := Language.german.renamed "xx" "Test"
    let index := LexIndex.build g 3 elements
    g.linearize index (.relation newYork likes city) true = .ok "Likes New York City?" ∧
      (.relation newYork likes city, true) ∈
        g.readings index (Grammar.tokenize "Likes New York City?") ∧
      (g.parse index "Likes New York City?" = .ok (.relation newYork likes city, true) ∨
        ∃ n, 2 ≤ n ∧ g.parse index "Likes New York City?" =
          .error (.ambiguousParse "Likes New York City?" "xx" n)) := by
  intro likes newYork city elements g index
  have hvalues : ∀ e ∈ elements, ∃ raw, Lexicon.validateValues e.kind raw = .ok e.values := by
    have hall : ∀ e ∈ elements, Lexicon.validateValues e.kind e.values = .ok e.values := by
      decide +kernel
    exact fun e he => ⟨e.values, hall e he⟩
  have hwritten : g.linearize index (.relation newYork likes city) true =
      .ok "Likes New York City?" := by decide +kernel
  exact ⟨hwritten, linearize_never_misread (by simp) "xx" "Test" 3 hvalues hwritten⟩

end SemanticWiki
