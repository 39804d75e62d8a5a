import SemanticWiki.Proofs.Grammar.Spelling

/-! Forms of sentence patterns. Where an item leaves a choice whether to be read, each choice gives a
form of its own, and a form leaves none: it is a fixed sequence of single tokens and of words. What
a pattern spells, one of its forms spells. -/

namespace SemanticWiki

inductive Segment where
  /-- One token, in any of these spellings. -/
  | token (spellings : List String)
  /-- All the tokens of a word. -/
  | word (role : Role) (cat : Cat)
deriving DecidableEq

abbrev Form := List Segment

def Form.roles : Form → List Role
  | [] => []
  | .token _ :: form => roles form
  | .word role _ :: form => role :: roles form

/-- Under the assignment `c` the form stands for the tokens. -/
inductive Form.Spells (index : LexIndex) (c : Binding) : Form → List String → Prop where
  | nil : Spells index c [] []
  | token {spellings t form rest} : t ∈ spellings → Spells index c form rest →
      Spells index c (.token spellings :: form) (t :: rest)
  | word {role cat id run form rest} : c.get? role = some id → index.Lists id cat run →
      Spells index c form rest → Spells index c (.word role cat :: form) (run ++ rest)

def Item.keywords : Item → List String
  | keyword spellings => spellings
  | mark _ | indefinite _ | name _ | word _ _ => []

def Item.mark? : Item → Option String
  | mark text => some text
  | keyword _ | indefinite _ | name _ | word _ _ => none

def Indefinite.spellings : Indefinite → List String
  | bySound => ["a", "an"]
  | fixed spellings => spellings

namespace Language

def choices (g : Language) : Item → List Form
  | .keyword spellings => [[.token spellings]]
  | .mark text => [[], [.token [text]]]
  | .indefinite _ => [[.token g.indefinite.spellings]]
  | .name role => [[.word role .properName], [.token g.definite, .word role .properName]]
  | .word role cat => [[.word role cat]]

def forms (g : Language) : List Item → List Form
  | [] => [[]]
  | item :: items => (g.choices item).flatMap fun front => (g.forms items).map (front ++ ·)

def functionWords (g : Language) : List String :=
  (g.rules.flatMap fun r => r.items.flatMap Item.keywords) ++ g.definite ++ g.indefinite.spellings

def marks (g : Language) : List String := g.rules.flatMap fun r => r.items.filterMap Item.mark?

def ruleForms (g : Language) : List (Rule × Form) :=
  g.rules.flatMap fun r => (g.forms r.items).map (r, ·)

variable {g : Language} {index : LexIndex} {c : Binding}

theorem isIndefinite_iff {t : String} : g.isIndefinite t = true ↔ t ∈ g.indefinite.spellings := by
  unfold isIndefinite Indefinite.spellings
  cases g.indefinite with
  | bySound => simp
  | fixed spellings => simp

theorem mem_forms_cons {item : Item} {items : List Item} {form : Form} :
    form ∈ g.forms (item :: items) ↔
      ∃ front ∈ g.choices item, ∃ rest ∈ g.forms items, form = front ++ rest := by
  simp only [forms, List.mem_flatMap, List.mem_map, @eq_comm _ form]

theorem mem_ruleForms {r : Rule} {form : Form} :
    (r, form) ∈ g.ruleForms ↔ r ∈ g.rules ∧ form ∈ g.forms r.items := by
  simp only [ruleForms, List.mem_flatMap, List.mem_map, Prod.mk.injEq]
  constructor
  · rintro ⟨_, hr, _, hform, rfl, rfl⟩
    exact ⟨hr, hform⟩
  · rintro ⟨hr, hform⟩
    exact ⟨r, hr, form, hform, rfl, rfl⟩

theorem roles_append_choice {item : Item} {front : Form} (h : front ∈ g.choices item)
    (rest : Form) : (front ++ rest).roles = item.role?.toList ++ rest.roles := by
  cases item <;> simp only [choices, List.mem_cons, List.not_mem_nil, or_false] at h
  case keyword | indefinite | word => subst h; rfl
  case mark | name => rcases h with rfl | rfl <;> rfl

theorem roles_of_mem_forms {items : List Item} {form : Form} (h : form ∈ g.forms items) :
    form.roles = items.filterMap Item.role? := by
  induction items generalizing form with
  | nil =>
    obtain rfl := List.mem_singleton.1 h
    rfl
  | cons item items ih =>
    obtain ⟨front, hfront, rest, hrest, rfl⟩ := mem_forms_cons.1 h
    rw [roles_append_choice hfront, ih hrest]
    cases item <;> rfl

theorem exists_form_cons {item : Item} {items : List Item} (front : Form)
    (hfront : front ∈ g.choices item) {tokens rest : List String}
    (hstep : ∀ form, Form.Spells index c form rest → Form.Spells index c (front ++ form) tokens)
    (h : ∃ form ∈ g.forms items, Form.Spells index c form rest) :
    ∃ form ∈ g.forms (item :: items), Form.Spells index c form tokens := by
  obtain ⟨form, hform, hspells⟩ := h
  exact ⟨front ++ form, mem_forms_cons.2 ⟨front, hfront, form, hform, rfl⟩, hstep form hspells⟩

theorem Spells.form {items : List Item} {tokens : List String}
    (h : Spells g index c items tokens) :
    ∃ form ∈ g.forms items, Form.Spells index c form tokens := by
  induction h with
  | nil => exact ⟨[], List.mem_singleton_self _, .nil⟩
  | keyword ht _ ih =>
    exact exists_form_cons [.token _] (by simp [choices]) (fun _ => .token ht) ih
  | unmarked _ ih => exact exists_form_cons [] (by simp [choices]) (fun _ h => h) ih
  | mark _ ih =>
    exact exists_form_cons [.token [_]] (by simp [choices])
      (fun _ => .token (List.mem_singleton_self _)) ih
  | indefinite ht _ ih =>
    exact exists_form_cons [.token _] (by simp [choices])
      (fun _ => .token (isIndefinite_iff.1 ht)) ih
  | word hrole hlists _ ih =>
    exact exists_form_cons [.word _ _] (by simp [choices])
      (fun _ => .word hrole hlists) ih
  | name hrole hlists _ ih =>
    exact exists_form_cons [.word _ _] (by simp [choices])
      (fun _ => .word hrole hlists) ih
  | definiteName ht hrole hlists _ ih =>
    exact exists_form_cons [.token _, .word _ _] (by simp [choices])
      (fun _ h => .token ht (.word hrole hlists h)) ih

theorem item_of_segment {items : List Item} {form : Form} (hform : form ∈ g.forms items)
    {segment : Segment} (h : segment ∈ form) :
    ∃ item ∈ items, ∃ front ∈ g.choices item, segment ∈ front := by
  induction items generalizing form with
  | nil =>
    obtain rfl := List.mem_singleton.1 hform
    cases h
  | cons item items ih =>
    obtain ⟨front, hfront, rest, hrest, rfl⟩ := mem_forms_cons.1 hform
    rcases List.mem_append.1 h with h | h
    · exact ⟨item, List.mem_cons_self, front, hfront, h⟩
    · obtain ⟨later, hlater, hchoice⟩ := ih hrest h
      exact ⟨later, List.mem_cons_of_mem item hlater, hchoice⟩

def Own (g : Language) (form : Form) : Prop :=
  ∀ spellings, .token spellings ∈ form → ∀ t ∈ spellings, t ∈ g.functionWords ∨ t ∈ g.marks

theorem own_of_mem_forms {r : Rule} (hr : r ∈ g.rules) {form : Form}
    (hform : form ∈ g.forms r.items) : g.Own form := by
  intro spellings htoken t ht
  obtain ⟨item, hitem, front, hfront, hmem⟩ := item_of_segment hform htoken
  simp only [functionWords, List.mem_append, List.mem_flatMap]
  cases item <;> simp only [choices, List.mem_cons, List.not_mem_nil, or_false] at hfront
  case keyword keywords =>
    subst hfront
    obtain rfl := Segment.token.inj (List.mem_singleton.1 hmem)
    exact .inl (.inl (.inl ⟨r, hr, _, hitem, ht⟩))
  case mark text =>
    rcases hfront with rfl | rfl
    · cases hmem
    · obtain rfl := Segment.token.inj (List.mem_singleton.1 hmem)
      obtain rfl := List.mem_singleton.1 ht
      exact .inr (List.mem_flatMap.2 ⟨r, hr, List.mem_filterMap.2 ⟨_, hitem, rfl⟩⟩)
  case indefinite role =>
    subst hfront
    obtain rfl := Segment.token.inj (List.mem_singleton.1 hmem)
    exact .inl (.inr ht)
  case name role =>
    rcases hfront with rfl | rfl
    · simp at hmem
    · have hdefinite : spellings = g.definite := by simpa using hmem
      exact .inl (.inl (.inr (hdefinite ▸ ht)))
  case word role cat =>
    subst hfront
    simp at hmem

end Language

end SemanticWiki
