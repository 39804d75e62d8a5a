import Mathlib.Data.List.Nodup
import SemanticWiki.Proofs.Grammar.Expressiveness
import SemanticWiki.Proofs.Grammar.Spelling

/-! Sentences that are read make sense. The reader does not check kinds. It fills an argument position
with what it finds under the category that the rule has there, so what is read makes sense as long as
every rule looks for words of the kind that its construction has at the position. -/

namespace SemanticWiki

variable {index : LexIndex} {kindOf : ElementId → Option Kind} {construct : Construct} {c : Binding}
  {s : Statement}

def Item.typed (construct : Construct) : Item → Bool
  | .keyword _ | .mark _ | .indefinite _ => true
  | .name role => construct.kindAt? role == some Cat.properName.kind
  | .word role cat => construct.kindAt? role == some cat.kind

def Language.typed (g : Language) : Bool := g.rules.all fun r => r.items.all (·.typed r.construct)

namespace Language

theorem english_typed : english.typed = true := by decide +kernel

theorem german_typed : german.typed = true := by decide +kernel

theorem spanish_typed : spanish.typed = true := by decide +kernel

variable {g : Language}

theorem typed_iff : g.typed = true ↔ ∀ r ∈ g.rules, ∀ item ∈ r.items, item.typed r.construct = true := by
  simp only [typed, List.all_eq_true]

end Language

def Binding.Typed (c : Binding) (construct : Construct) (kindOf : ElementId → Option Kind)
    (role : Role) : Prop :=
  ∀ id, c.get? role = some id → ∃ kind, construct.kindAt? role = some kind ∧ kindOf id = some kind

theorem Binding.construct_of_assemble? (h : c.assemble? construct = some s)
    (htyped : ∀ role, c.Typed construct kindOf role) : s.construct kindOf = .ok construct := by
  have hexpect {allowed : List Kind} {id : ElementId} {kind : Kind} (hkind : kindOf id = some kind)
      (hallowed : kind ∈ allowed) : Statement.expectKind kindOf allowed id = .ok kind :=
    Statement.expectKind_eq_ok_iff.2 ⟨hkind, hallowed⟩
  obtain ⟨a, ha, h⟩ := Option.bind_eq_some_iff.1 h
  obtain ⟨b, hb, h⟩ := Option.bind_eq_some_iff.1 h
  obtain ⟨subjectKind, hsubject, hkinda⟩ := htyped .subject a ha
  obtain ⟨objectKind, hobject, hkindb⟩ := htyped .object b hb
  cases construct with
  | subsumption | disjointness | membership | nonMembership =>
    obtain rfl := Option.some.inj h
    obtain rfl := Option.some.inj hsubject
    obtain rfl := Option.some.inj hobject
    rw [Statement.construct, hexpect hkinda (by decide), hexpect hkindb (by decide)]
    rfl
  | verbRelation | adjectiveRelation =>
    obtain ⟨r, hr, h⟩ := Option.bind_eq_some_iff.1 h
    obtain ⟨relationKind, hrelation, hkindr⟩ := htyped .relation r hr
    obtain rfl := Option.some.inj h
    obtain rfl := Option.some.inj hsubject
    obtain rfl := Option.some.inj hobject
    obtain rfl := Option.some.inj hrelation
    rw [Statement.construct, hexpect hkinda (by decide), hexpect hkindr (by decide),
      hexpect hkindb (by decide)]
    rfl

namespace LexIndex

def Kinded (index : LexIndex) : Prop :=
  ∀ id cat run, index.Lists id cat run → index.kindOf id = some cat.kind

variable {elements : List Element}

theorem kindOf_build_of_mem (hdistinct : (elements.map (·.id)).Nodup) {e : Element}
    (he : e ∈ elements) (g : Language) (revision : Nat) :
    (build g revision elements).kindOf e.id = some e.kind := by
  cases hkind : (build g revision elements).kindOf e.id with
  | none =>
    have hother := List.lookup_eq_none_iff.1 hkind (e.id, e.kind)
      (List.mem_reverse.2 (List.mem_map_of_mem he))
    simp at hother
  | some kind =>
    obtain ⟨f, hf, hid, rfl⟩ := exists_of_kindOf_build hkind
    rw [List.inj_on_of_nodup_map hdistinct hf he hid]

theorem kinded_build (hdistinct : (elements.map (·.id)).Nodup) (g : Language) (revision : Nat) :
    (build g revision elements).Kinded := by
  rintro id cat run ⟨-, entry, hentry, rfl, rfl, rfl⟩
  obtain ⟨e, he, cat, hkind, hentry⟩ := mem_entries_build.1 hentry
  obtain ⟨-, rfl, -⟩ := entryOf?_eq_some_iff.1 hentry
  rw [kindOf_build_of_mem hdistinct he, hkind]

end LexIndex

namespace Language

variable {g : Language} {items : List Item} {tokens : List String}

theorem typed_of_filled (hindex : index.Kinded) {item : Item} {filled role : Role} {cat : Cat}
    {id : ElementId} {run : List String} (hitem : item.role? = some filled)
    (hkind : construct.kindAt? filled = some cat.kind) (hid : c.get? filled = some id)
    (hlists : index.Lists id cat run)
    (hrest : role ∈ items.filterMap Item.role? → c.Typed construct index.kindOf role)
    (hrole : role ∈ (item :: items).filterMap Item.role?) :
    c.Typed construct index.kindOf role := by
  rw [List.filterMap_cons, hitem] at hrole
  rcases List.mem_cons.1 hrole with rfl | hlater
  · intro id' hid'
    obtain rfl := Option.some.inj (hid.symm.trans hid')
    exact ⟨cat.kind, hkind, hindex _ _ _ hlists⟩
  · exact hrest hlater

theorem Spells.typed (h : Spells g index c items tokens) (hindex : index.Kinded)
    (hitems : ∀ item ∈ items, item.typed construct = true) {role : Role}
    (hrole : role ∈ items.filterMap Item.role?) : c.Typed construct index.kindOf role := by
  induction h with
  | nil => cases hrole
  | keyword _ _ ih | unmarked _ ih | mark _ ih | indefinite _ _ ih =>
    exact ih (fun item hitem => hitems item (List.mem_cons_of_mem _ hitem)) hrole
  | word hid hlists _ ih | name hid hlists _ ih | definiteName _ hid hlists _ ih =>
    obtain ⟨hitem, hitems⟩ := List.forall_mem_cons.1 hitems
    have hkind := by simpa [Item.typed] using hitem
    exact typed_of_filled hindex rfl hkind hid hlists (ih hitems) hrole

theorem construct_of_readingsOfRule (hg : g.typed = true) (hindex : index.Kinded) {r : Rule}
    (hr : r ∈ g.rules) {reading : Reading} (h : reading ∈ g.readingsOfRule index tokens r) :
    reading.2 = r.question ∧ reading.1.construct index.kindOf = .ok r.construct := by
  obtain ⟨s, hs, rfl⟩ := List.mem_map.1 h
  obtain ⟨c, hc, hassemble⟩ := List.mem_filterMap.1 hs
  obtain ⟨hspells, -, hunfilled⟩ := mem_bindings_iff.1 hc
  refine ⟨rfl, Binding.construct_of_assemble? hassemble fun role => ?_⟩
  by_cases hrole : role ∈ r.items.filterMap Item.role?
  · exact hspells.typed hindex (typed_iff.1 hg r hr) hrole
  · intro id hid
    rw [hunfilled role hrole, Binding.get?_empty] at hid
    cases hid

theorem exists_rule_of_mem_readings {reading : Reading} (h : reading ∈ g.readings index tokens) :
    ∃ r ∈ g.rules, reading ∈ g.readingsOfRule index tokens r := by
  unfold readings at h
  split at h
  · cases h
  · exact List.mem_flatMap.1 (List.mem_eraseDups.1 h)

def IsBuiltin (g : Language) : Prop :=
  ∃ b ∈ builtin, ∃ code name, g = b.renamed code name

theorem IsBuiltin.typed (h : g.IsBuiltin) : g.typed = true := by
  obtain ⟨b, hb, code, name, rfl⟩ := h
  have hrules : (b.renamed code name).typed = b.typed := rfl
  rw [hrules]
  simp only [builtin, List.mem_cons, List.not_mem_nil, or_false] at hb
  rcases hb with rfl | rfl | rfl
  · exact english_typed
  · exact german_typed
  · exact spanish_typed

theorem isBuiltin_of_mem {b : Language} (hb : b ∈ builtin) : b.IsBuiltin :=
  ⟨b, hb, b.code, b.name, rfl⟩

end Language

def ConcreteGrammar.IsBuiltin (g : ConcreteGrammar) : Prop := ∃ h : Language, h.IsBuiltin ∧ g = h

theorem Registry.isBuiltin_of_mem {g : ConcreteGrammar} (hg : g ∈ builtin.languages) :
    g.IsBuiltin := by
  obtain ⟨b, hb, rfl⟩ := List.mem_map.1 hg
  exact ⟨b, Language.isBuiltin_of_mem hb, rfl⟩

end SemanticWiki
