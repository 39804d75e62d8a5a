import SemanticWiki.Proofs.Grammar.Form
import SemanticWiki.Proofs.Grammar.Verdict
import SemanticWiki.Grammar.Registry

/-! Languages without ambiguity. Over words that a reader can tell apart, a text can be cut into
segments in one way only. Two forms that differ at some place then stand for different texts, and
that can be decided without knowing the words. -/

namespace SemanticWiki

/-- A reader who goes through a text of the language knows where a word starts, where it ends and
whose word it is. -/
structure LexIndex.Decodable (g : Language) (index : LexIndex) : Prop where
  prefixFree : ∀ {id cat run id' cat' run'}, index.Lists id cat run → index.Lists id' cat' run' →
    run <+: run' → run = run' ∧ id = id' ∧ cat.kind = cat'.kind
  unreserved : ∀ {id cat run}, index.Lists id cat run → ∀ t ∈ run,
    t ∉ g.functionWords ∧ t ∉ g.marks

namespace Form

/-- Whether the forms differ at some place in a way that words cannot bridge: another keyword, a
word of another kind of element, a word against a keyword, or the end. -/
def clash : Form → Form → Bool
  | [], [] => false
  | .token spellings :: form, .token spellings' :: form' =>
    spellings.all (!spellings'.contains ·) || clash form form'
  | .word _ cat :: form, .word _ cat' :: form' => cat.kind != cat'.kind || clash form form'
  | .token _ :: _, .word .. :: _ | .word .. :: _, .token _ :: _ | [], _ :: _ | _ :: _, [] => true

variable {g : Language} {index : LexIndex} {c c' : Binding} {form form' : Form}
  {tokens : List String}

theorem Spells.eq_nil_iff (h : Spells index c form tokens) : tokens = [] ↔ form = [] := by
  cases h with
  | nil => simp
  | token _ _ => simp
  | word _ hlists _ => simp [hlists.1]

/-- Of two words at the front of the same tokens neither goes on after the other has ended. -/
theorem lists_unique (hindex : index.Decodable g) {id id' : ElementId} {cat cat' : Cat}
    {run run' rest rest' : List String} (h : index.Lists id cat run)
    (h' : index.Lists id' cat' run') (htokens : run ++ rest = run' ++ rest') :
    id = id' ∧ cat.kind = cat'.kind ∧ rest = rest' := by
  rcases List.prefix_or_prefix_of_prefix (List.prefix_append run rest)
    (htokens ▸ List.prefix_append run' rest') with hprefix | hprefix
  · obtain ⟨rfl, hid, hkind⟩ := hindex.prefixFree h h' hprefix
    exact ⟨hid, hkind, List.append_cancel_left htokens⟩
  · obtain ⟨rfl, hid, hkind⟩ := hindex.prefixFree h' h hprefix
    exact ⟨hid.symm, hkind.symm, List.append_cancel_left htokens⟩

theorem not_token_and_word (hindex : index.Decodable g) {id : ElementId} {cat : Cat}
    {run rest rest' : List String} (hlists : index.Lists id cat run) {t : String}
    (hown : t ∈ g.functionWords ∨ t ∈ g.marks) : t :: rest ≠ run ++ rest' := by
  intro heq
  obtain ⟨first, more, rfl⟩ := List.exists_cons_of_ne_nil hlists.1
  obtain ⟨rfl, -⟩ := List.cons.inj heq
  obtain ⟨hwords, hmarks⟩ := hindex.unreserved hlists t List.mem_cons_self
  exact hown.elim hwords hmarks

theorem Spells.agree (hindex : index.Decodable g) (h : Spells index c form tokens)
    (h' : Spells index c' form' tokens) (hown : g.Own form) (hown' : g.Own form') :
    clash form form' = false ∧
      (form.roles = form'.roles → ∀ role ∈ form.roles, c.get? role = c'.get? role) := by
  -- Going through the first form; what stands at the place decides how the second one goes on.
  induction h generalizing form' with
  | nil =>
    obtain rfl := h'.eq_nil_iff.1 rfl
    exact ⟨rfl, by simp [roles]⟩
  | @token spellings t form rest ht _ ih =>
    have hlater : g.Own form := fun _ hmem => hown _ (List.mem_cons_of_mem _ hmem)
    generalize htokens : t :: rest = tokens at h'
    cases h' with
    | nil => cases htokens
    | token ht' h' =>
      obtain ⟨rfl, rfl⟩ := List.cons.inj htokens
      obtain ⟨hclash, hroles⟩ := ih h' hlater fun _ hmem => hown' _ (List.mem_cons_of_mem _ hmem)
      refine ⟨?_, hroles⟩
      simp only [clash, hclash, Bool.or_false, List.all_eq_false]
      exact ⟨t, ht, by simpa using ht'⟩
    | word _ hlists' _ =>
      exact absurd htokens (not_token_and_word hindex hlists' (hown _ List.mem_cons_self t ht))
  | @word role cat id run form rest hrole hlists _ ih =>
    have hlater : g.Own form := fun _ hmem => hown _ (List.mem_cons_of_mem _ hmem)
    generalize htokens : run ++ rest = tokens at h'
    cases h' with
    | nil => exact absurd htokens (List.append_ne_nil_of_left_ne_nil hlists.1 rest)
    | @token _ t _ _ ht' _ =>
      exact absurd htokens.symm
        (not_token_and_word hindex hlists (hown' _ List.mem_cons_self t ht'))
    | word hrole' hlists' h' =>
      obtain ⟨rfl, hkind, rfl⟩ := lists_unique hindex hlists hlists' htokens
      obtain ⟨hclash, hroles⟩ := ih h' hlater fun _ hmem => hown' _ (List.mem_cons_of_mem _ hmem)
      refine ⟨by simp [clash, hclash, hkind], fun hsame => ?_⟩
      obtain ⟨rfl, hrest⟩ := List.cons.inj hsame
      exact List.forall_mem_cons.2 ⟨hrole.trans hrole'.symm, hroles hrest⟩

def endsIn (closers : List String) (form : Form) : Bool :=
  match form.getLast? with
  | some (.token spellings) => spellings.any closers.contains
  | some (.word ..) | none => false

theorem endsIn_cons {closers : List String} (segment : Segment) (h : form ≠ []) :
    endsIn closers (segment :: form) = endsIn closers form := by
  obtain ⟨next, rest, rfl⟩ := List.exists_cons_of_ne_nil h
  simp [endsIn]

theorem Spells.endsIn (h : Spells index c form tokens) {closers : List String} {t : String}
    (ht : t ∈ closers) (hfree : ∀ {id cat run}, index.Lists id cat run → t ∉ run)
    (hlast : tokens.getLast? = some t) : form.endsIn closers = true := by
  induction h with
  | nil => cases hlast
  | @token spellings first form rest hfirst hrest ih =>
    by_cases hform : form = []
    · subst hform
      obtain rfl := hrest.eq_nil_iff.2 rfl
      obtain rfl := Option.some.inj hlast
      simp only [Form.endsIn, List.getLast?_singleton, List.any_eq_true]
      exact ⟨first, hfirst, by simpa using ht⟩
    · have hsome : rest ≠ [] := mt hrest.eq_nil_iff.1 hform
      rw [endsIn_cons _ hform]
      exact ih (by rwa [← List.singleton_append, List.getLast?_append_of_ne_nil _ hsome] at hlast)
  | @word role cat id run form rest hrole hlists hrest ih =>
    by_cases hform : form = []
    · subst hform
      obtain rfl := hrest.eq_nil_iff.2 rfl
      rw [List.append_nil] at hlast
      exact absurd (List.mem_of_getLast? hlast) (hfree hlists)
    · have hsome : rest ≠ [] := mt hrest.eq_nil_iff.1 hform
      rw [endsIn_cons _ hform]
      exact ih (by rwa [List.getLast?_append_of_ne_nil _ hsome] at hlast)

end Form

def unambiguous (forms : List (Rule × Form)) : Bool :=
  forms.all fun (r, form) => forms.all fun (r', form') =>
    form.clash form' || (r.construct == r'.construct && r.question == r'.question &&
      form.roles == form'.roles)

theorem unambiguous_iff {forms : List (Rule × Form)} : unambiguous forms = true ↔
    ∀ r form, (r, form) ∈ forms → ∀ r' form', (r', form') ∈ forms →
      form.clash form' = true ∨
        (r.construct = r'.construct ∧ r.question = r'.question ∧ form.roles = form'.roles) := by
  simp only [unambiguous, List.all_eq_true, Prod.forall, Bool.or_eq_true, Bool.and_eq_true,
    beq_iff_eq, and_assoc]

theorem Binding.Fills.eq_of_agree {c c' : Binding} {roles : List Role} (h : c.Fills .empty roles)
    (h' : c'.Fills .empty roles) (hagree : ∀ role ∈ roles, c.get? role = c'.get? role) :
    c = c' := by
  ext role : 1
  by_cases hrole : role ∈ roles
  · exact hagree role hrole
  · rw [h.2 role hrole, h'.2 role hrole]

namespace Language

variable {g : Language} {index : LexIndex} {forms : List (Rule × Form)}

theorem reading_unique (hindex : index.Decodable g) (hforms : unambiguous forms = true)
    {tokens : List String} (hcover : ∀ r form c, (r, form) ∈ g.ruleForms →
      Form.Spells index c form tokens → (r, form) ∈ forms)
    {reading reading' : Reading} (h : reading ∈ g.readings index tokens)
    (h' : reading' ∈ g.readings index tokens) : reading = reading' := by
  obtain ⟨-, r, hr, hquestion, c, hspells, hfills, hassemble⟩ := mem_readings_iff.1 h
  obtain ⟨-, r', hr', hquestion', c', hspells', hfills', hassemble'⟩ := mem_readings_iff.1 h'
  obtain ⟨form, hform, hspells⟩ := hspells.form
  obtain ⟨form', hform', hspells'⟩ := hspells'.form
  rw [← roles_of_mem_forms hform] at hfills
  rw [← roles_of_mem_forms hform'] at hfills'
  obtain ⟨hclash, hagree⟩ :=
    hspells.agree hindex hspells' (own_of_mem_forms hr hform) (own_of_mem_forms hr' hform')
  obtain hdiffer | ⟨hconstruct, hasked, hroles⟩ := unambiguous_iff.1 hforms
    r form (hcover r form c (mem_ruleForms.2 ⟨hr, hform⟩) hspells)
    r' form' (hcover r' form' c' (mem_ruleForms.2 ⟨hr', hform'⟩) hspells')
  · simp [hclash] at hdiffer
  · obtain rfl := hfills.eq_of_agree (hroles ▸ hfills') (hagree hroles)
    rw [hconstruct, hassemble'] at hassemble
    exact Prod.ext (Option.some.inj hassemble).symm (hquestion.symm.trans (hasked.trans hquestion'))

theorem parse_ne_ambiguous {text : String}
    (h : ∀ reading ∈ g.readings index (Grammar.tokenize text),
      ∀ reading' ∈ g.readings index (Grammar.tokenize text), reading = reading')
    (input code : String) (n : Nat) :
    g.parse index text ≠ .error (.ambiguousParse input code n) := by
  intro hambiguous
  rcases g.parse_cases index text with ⟨-, hparse⟩ | ⟨only, -, hparse⟩ | ⟨hmany, -⟩
  · cases hparse.symm.trans hambiguous
  · cases hparse.symm.trans hambiguous
  · -- two readings would be the same, but none is counted twice
    have hdistinct : (g.readings index (Grammar.tokenize text)).Nodup := nodup_readings
    have hsame := h _ (List.getElem_mem (Nat.zero_lt_of_lt hmany)) _ (List.getElem_mem hmany)
    exact absurd ((List.Nodup.getElem_inj_iff hdistinct).1 hsame) (by decide)

theorem english_unambiguous : unambiguous english.ruleForms = true := by decide +kernel

theorem german_unambiguous : unambiguous german.ruleForms = true := by decide +kernel

theorem spanish_unambiguous :
    unambiguous (spanish.ruleForms.filter (·.2.endsIn [".", "?"])) = true := by decide +kernel

end Language

end SemanticWiki
