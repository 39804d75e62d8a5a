import SemanticWiki.Grammar.Reading
import SemanticWiki.Proofs.Grammar.Lookup

/-! Which token lists a sentence pattern spells. `Spells` says so without a search: every item
stands for some tokens, and one assignment of elements to the argument positions serves all items.
The search for bindings finds exactly the assignments under which the pattern spells the tokens. -/

namespace SemanticWiki

/-- The argument position that an item fills. An article names its noun but fills nothing. -/
def Item.role? : Item → Option Role
  | .name role | .word role _ => some role
  | .keyword _ | .mark _ | .indefinite _ => none

namespace Binding

variable {b c : Binding} {role : Role} {id : ElementId}

@[ext]
theorem ext_get? (h : ∀ role, b.get? role = c.get? role) : b = c := by
  obtain ⟨subject, object, relation⟩ := b
  obtain ⟨subject', object', relation'⟩ := c
  have hs : subject = subject' := h .subject
  have ho : object = object' := h .object
  have hr : relation = relation' := h .relation
  rw [hs, ho, hr]

@[simp]
theorem get?_empty : empty.get? role = none := by cases role <;> rfl

def Free (b : Binding) (role : Role) (id : ElementId) : Prop :=
  ∀ other, b.get? role = some other → other = id

theorem free_iff : b.Free role id ↔ (b.get? role).all (· == id) = true := by
  unfold Free
  cases b.get? role <;> simp

theorem Free.bind (h : b.Free role id) :
    ∃ next, b.bind? role id = some next ∧ next.get? role = some id ∧
      ∀ other, other ≠ role → next.get? other = b.get? other := by
  unfold bind?
  rw [if_pos (free_iff.1 h)]
  refine ⟨_, rfl, by cases role <;> rfl, fun other hother => ?_⟩
  cases role <;> cases other <;> first | rfl | exact absurd rfl hother

theorem free_of_bind? (h : b.bind? role id = some c) : b.Free role id := by
  unfold bind? at h
  split at h
  · rename_i hall
    exact free_iff.2 hall
  · exact absurd h (by simp)

theorem get?_of_bind? (h : b.bind? role id = some c) :
    c.get? role = some id ∧ ∀ other, other ≠ role → c.get? other = b.get? other := by
  obtain ⟨next, hnext, hspec⟩ := (free_of_bind? h).bind
  obtain rfl := Option.some.inj (h.symm.trans hnext)
  exact hspec

def Extends (c b : Binding) : Prop := ∀ role id, b.get? role = some id → c.get? role = some id

theorem extends_of_bind? (h : b.bind? role id = some c) : c.Extends b := by
  obtain ⟨hself, hothers⟩ := get?_of_bind? h
  intro other element helement
  by_cases hother : other = role
  · subst hother
    rw [free_of_bind? h element helement]
    exact hself
  · rw [hothers other hother]
    exact helement

/-- `c` is `b` with some of the positions in `roles` filled. -/
def Fills (c b : Binding) (roles : List Role) : Prop :=
  c.Extends b ∧ ∀ role, role ∉ roles → c.get? role = b.get? role

theorem fills_nil_iff : c.Fills b [] ↔ c = b := by
  constructor
  · rintro ⟨-, hsame⟩
    ext role : 1
    exact hsame role List.not_mem_nil
  · rintro rfl
    exact ⟨fun _ _ h => h, fun _ _ => rfl⟩

theorem fills_cons_iff {roles : List Role} {next : Binding} (h : b.bind? role id = some next) :
    c.Fills next roles ↔ c.get? role = some id ∧ c.Fills b (role :: roles) := by
  obtain ⟨hself, hothers⟩ := get?_of_bind? h
  constructor
  · rintro ⟨hext, hsame⟩
    refine ⟨hext role id hself, fun other element helement => ?_, fun other hother => ?_⟩
    · exact hext other element (extends_of_bind? h other element helement)
    · rw [List.mem_cons, not_or] at hother
      rw [hsame other hother.2, hothers other hother.1]
  · rintro ⟨hrole, hext, hsame⟩
    refine ⟨fun other element helement => ?_, fun other hother => ?_⟩
    · by_cases heq : other = role
      · subst heq
        exact Option.some.inj (hself.symm.trans helement) ▸ hrole
      · exact hext other element (hothers other heq ▸ helement)
    · by_cases heq : other = role
      · rw [heq, hrole, hself]
      · rw [hothers other heq, hsame other (by simp [heq, hother])]

theorem Extends.free (h : c.Extends b) (hrole : c.get? role = some id) : b.Free role id :=
  fun other hother => Option.some.inj ((h role other hother).symm.trans hrole)

end Binding

namespace Language

variable {g : Language} {index : LexIndex}

/-- Under the assignment `c` the items spell the tokens. -/
inductive Spells (g : Language) (index : LexIndex) (c : Binding) :
    List Item → List String → Prop where
  | nil : Spells g index c [] []
  | keyword {spellings t items rest} : t ∈ spellings → Spells g index c items rest →
      Spells g index c (.keyword spellings :: items) (t :: rest)
  /-- A mark may be left out. -/
  | unmarked {text items rest} : Spells g index c items rest →
      Spells g index c (.mark text :: items) rest
  | mark {text items rest} : Spells g index c items rest →
      Spells g index c (.mark text :: items) (text :: rest)
  | indefinite {role t items rest} : g.isIndefinite t = true → Spells g index c items rest →
      Spells g index c (.indefinite role :: items) (t :: rest)
  | word {role cat id run items rest} : c.get? role = some id → index.Lists id cat run →
      Spells g index c items rest → Spells g index c (.word role cat :: items) (run ++ rest)
  | name {role id run items rest} : c.get? role = some id → index.Lists id .properName run →
      Spells g index c items rest → Spells g index c (.name role :: items) (run ++ rest)
  /-- A name may follow the definite article, whether or not the individual asks for one. -/
  | definiteName {role id article run items rest} : article ∈ g.definite →
      c.get? role = some id → index.Lists id .properName run →
      Spells g index c items rest →
      Spells g index c (.name role :: items) (article :: (run ++ rest))

theorem mem_readToken {c : Binding} {test : String → Bool} {next : List String → List Binding}
    {tokens : List String} {p : List String → Prop} {q : Prop}
    (hnext : ∀ tokens, c ∈ next tokens ↔ p tokens ∧ q) :
    c ∈ (match tokens with
      | [] => []
      | t :: rest => if test t then next rest else []) ↔
    (∃ t rest, tokens = t :: rest ∧ test t = true ∧ p rest) ∧ q := by
  cases tokens with
  | nil => simp
  | cons t rest =>
    by_cases ht : test t = true
    · simp only [ht, if_true, hnext]
      refine and_congr_left fun _ => ⟨fun h => ⟨t, rest, rfl, ht, h⟩, ?_⟩
      rintro ⟨_, _, heq, -, h⟩
      obtain ⟨rfl, rfl⟩ := List.cons.inj heq
      exact h
    · simp only [ht, if_neg, Bool.false_eq_true, not_false_eq_true, List.not_mem_nil, false_iff]
      rintro ⟨⟨_, _, heq, htest, -⟩, -⟩
      obtain ⟨rfl, rfl⟩ := List.cons.inj heq
      exact ht htest

theorem mem_tryWords {items : List Item} {b c : Binding} {role : Role} {cat : Cat}
    {tokens : List String} {roles : List Role}
    (hitems : ∀ tokens b, c ∈ g.bindings index items tokens b ↔
      Spells g index c items tokens ∧ c.Fills b roles) :
    c ∈ (index.matchesFront tokens cat).flatMap (fun (id, n) =>
      match b.bind? role id with
      | none => []
      | some b => g.bindings index items (tokens.drop n) b) ↔
    (∃ id run rest, tokens = run ++ rest ∧ c.get? role = some id ∧ index.Lists id cat run ∧
      Spells g index c items rest) ∧ c.Fills b (role :: roles) := by
  simp only [List.mem_flatMap, Prod.exists, LexIndex.mem_matchesFront]
  constructor
  · rintro ⟨id, _, ⟨run, rest, rfl, rfl, hlists⟩, hc⟩
    cases hbind : b.bind? role id with
    | none => simp [hbind] at hc
    | some next =>
      simp only [hbind, List.drop_left] at hc
      obtain ⟨hspells, hfills⟩ := (hitems rest next).1 hc
      obtain ⟨hrole, hfills⟩ := (Binding.fills_cons_iff hbind).1 hfills
      exact ⟨⟨id, run, rest, rfl, hrole, hlists, hspells⟩, hfills⟩
  · rintro ⟨⟨id, run, rest, rfl, hrole, hlists, hspells⟩, hfills⟩
    obtain ⟨next, hbind, -⟩ := (hfills.1.free hrole).bind
    refine ⟨id, run.length, ⟨run, rest, rfl, rfl, hlists⟩, ?_⟩
    simp only [hbind, List.drop_left]
    exact (hitems rest next).2 ⟨hspells, (Binding.fills_cons_iff hbind).2 ⟨hrole, hfills⟩⟩

/-- The search finds an assignment if the items spell the tokens under it and it fills no other
positions than those of the items and those filled before. -/
theorem mem_bindings_iff {items : List Item} {tokens : List String} {b c : Binding} :
    c ∈ g.bindings index items tokens b ↔
      Spells g index c items tokens ∧ c.Fills b (items.filterMap Item.role?) := by
  -- Each item passes on what the items behind it may read and fill, so the tokens and the bindings
  -- vary along the induction.
  induction items generalizing tokens b with
  | nil =>
    rw [bindings, List.filterMap_nil, Binding.fills_nil_iff]
    cases tokens with
    | nil => simp [Spells.nil]
    | cons t rest => exact ⟨by simp, fun h => nomatch h.1⟩
  | cons item items ih =>
    cases item with
    | keyword spellings =>
      refine (mem_readToken fun _ => ih).trans (and_congr_left fun _ => ⟨?_, fun h => ?_⟩)
      · rintro ⟨t, rest, rfl, ht, h⟩
        exact .keyword (by simpa using ht) h
      · cases h with
        | keyword ht h => exact ⟨_, _, rfl, by simpa using ht, h⟩
    | mark text =>
      refine List.mem_append.trans ((or_congr (mem_readToken fun _ => ih) ih).trans ?_)
      rw [← or_and_right]
      refine and_congr_left fun _ => ⟨?_, fun h => ?_⟩
      · rintro (⟨t, rest, rfl, ht, h⟩ | h)
        · exact eq_of_beq ht ▸ .mark h
        · exact .unmarked h
      · cases h with
        | unmarked h => exact .inr h
        | mark h => exact .inl ⟨_, _, rfl, beq_self_eq_true text, h⟩
    | indefinite role =>
      refine (mem_readToken fun _ => ih).trans (and_congr_left fun _ => ⟨?_, fun h => ?_⟩)
      · rintro ⟨t, rest, rfl, ht, h⟩
        exact .indefinite ht h
      · cases h with
        | indefinite ht h => exact ⟨_, _, rfl, ht, h⟩
    | word role cat =>
      refine (mem_tryWords fun _ _ => ih).trans (and_congr_left fun _ => ⟨?_, fun h => ?_⟩)
      · rintro ⟨id, run, rest, rfl, hrole, hlists, h⟩
        exact .word hrole hlists h
      · cases h with
        | word hrole hlists h => exact ⟨_, _, _, rfl, hrole, hlists, h⟩
    | name role =>
      refine List.mem_append.trans ((or_congr (mem_tryWords fun _ _ => ih)
        (mem_readToken fun _ => mem_tryWords fun _ _ => ih)).trans ?_)
      rw [← or_and_right]
      refine and_congr_left fun _ => ⟨?_, fun h => ?_⟩
      · rintro (⟨id, run, rest, rfl, hrole, hlists, h⟩ |
          ⟨t, _, rfl, ht, id, run, rest, rfl, hrole, hlists, h⟩)
        · exact .name hrole hlists h
        · exact .definiteName (by simpa using ht) hrole hlists h
      · cases h with
        | name hrole hlists h => exact .inl ⟨_, _, _, rfl, hrole, hlists, h⟩
        | definiteName ht hrole hlists h =>
          exact .inr ⟨_, _, rfl, by simpa using ht, _, _, _, rfl, hrole, hlists, h⟩

theorem mem_readings_iff {tokens : List String} {s : Statement} {question : Bool} :
    (s, question) ∈ g.readings index tokens ↔ tokens ≠ [] ∧ ∃ r ∈ g.rules,
      r.question = question ∧ ∃ c : Binding, Spells g index c r.items tokens ∧
        c.Fills .empty (r.items.filterMap Item.role?) ∧ c.assemble? r.construct = some s := by
  unfold readings
  split
  · rename_i hempty
    simp [List.isEmpty_iff.1 hempty]
  · rename_i hsome
    have hsome : tokens ≠ [] := fun h => hsome (List.isEmpty_iff.2 h)
    simp only [List.mem_eraseDups, List.mem_flatMap, readingsOfRule, List.mem_map,
      List.mem_filterMap, mem_bindings_iff, Prod.mk.injEq]
    constructor
    · rintro ⟨r, hr, _, ⟨c, ⟨hspells, hfills⟩, hassemble⟩, rfl, rfl⟩
      exact ⟨hsome, r, hr, rfl, c, hspells, hfills, hassemble⟩
    · rintro ⟨-, r, hr, rfl, c, hspells, hfills, hassemble⟩
      exact ⟨r, hr, s, ⟨c, ⟨hspells, hfills⟩, hassemble⟩, rfl, rfl⟩

end Language

end SemanticWiki
