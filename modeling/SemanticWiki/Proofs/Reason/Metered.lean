import Mathlib.Algebra.GroupWithZero.Nat
import SemanticWiki.Reason.Hierarchy

/-! What a metered computation returns, and to whom. The price of a computation does not depend on
the budget: whoever can pay it gets the result with the rest of the steps, and nobody else gets
anything. -/

namespace SemanticWiki.Reason.Metered

variable {α β : Type} {m : Metered α} {f : α → Metered β}

/-- The result is `a` for everyone who can pay `price` steps. -/
def Costs (m : Metered α) (price : Nat) (a : α) : Prop :=
  ∀ steps, m.run steps = if price ≤ steps then some (a, steps - price) else none

theorem costs_pure (a : α) : (pure a : Metered α).Costs 0 a := by
  intro steps
  rw [if_pos (Nat.zero_le steps)]
  rfl

theorem costs_tick : tick.Costs 1 () := by
  intro steps
  cases steps with
  | zero => rfl
  | succ rest =>
    rw [if_pos (Nat.le_add_left 1 rest)]
    rfl

theorem Costs.bind {a : α} {b : β} {price price' : Nat} (hm : m.Costs price a)
    (hf : (f a).Costs price' b) : (m >>= f).Costs (price + price') b := by
  intro steps
  rw [StateT.run_bind, hm steps]
  by_cases hpaid : price ≤ steps
  · rw [if_pos hpaid]
    refine (hf (steps - price)).trans ?_
    by_cases hrest : price' ≤ steps - price
    · rw [if_pos hrest, if_pos (by omega), Nat.sub_sub]
    · rw [if_neg hrest, if_neg (by omega)]
  · rw [if_neg hpaid, if_neg (by omega)]
    rfl

theorem Costs.map {a : α} {price : Nat} (hm : m.Costs price a) (g : α → β) :
    (do return g (← m) : Metered β).Costs price (g a) :=
  hm.bind (f := fun a => pure (g a)) (costs_pure (g a))

theorem costs_mapM {as : List α} {price : α → Nat} {g : α → β}
    (h : ∀ a ∈ as, (f a).Costs (price a) (g a)) :
    (as.mapM f).Costs (as.map price).sum (as.map g) := by
  induction as with
  | nil => exact costs_pure []
  | cons a as ih =>
    have hrest := ih fun b hb => h b (List.mem_cons_of_mem a hb)
    rw [List.mapM_cons, List.map_cons, List.map_cons, List.sum_cons]
    exact (h a List.mem_cons_self).bind (hrest.map (List.cons (g a)))

theorem Costs.within {a : α} {price : Nat} (h : m.Costs price a) (budget : Nat) :
    m.within budget = if price ≤ budget then some a else none := by
  rw [Metered.within, h budget]
  split <;> rfl

def Returns (m : Metered α) (p : α → Prop) : Prop := ∃ price a, m.Costs price a ∧ p a

theorem returns_pure {p : α → Prop} {a : α} (h : p a) : (pure a : Metered α).Returns p :=
  ⟨0, a, costs_pure a, h⟩

theorem Returns.bind {p : α → Prop} {q : β → Prop} (hm : m.Returns p)
    (hf : ∀ a, p a → (f a).Returns q) : (m >>= f).Returns q := by
  obtain ⟨price, a, hcosts, ha⟩ := hm
  obtain ⟨price', b, hcosts', hb⟩ := hf a ha
  exact ⟨price + price', b, hcosts.bind hcosts', hb⟩

theorem Returns.mono {p q : α → Prop} (h : m.Returns p) (hpq : ∀ a, p a → q a) : m.Returns q := by
  obtain ⟨price, a, hcosts, ha⟩ := h
  exact ⟨price, a, hcosts, hpq a ha⟩

theorem returns_tick_bind {p : β → Prop} {next : Metered β} (h : next.Returns p) :
    (do tick; next).Returns p := by
  obtain ⟨price, b, hcosts, hb⟩ := h
  exact ⟨1 + price, b, costs_tick.bind hcosts, hb⟩

theorem Returns.of_within {p : α → Prop} (h : m.Returns p) {budget : Nat} {a : α}
    (ha : m.within budget = some a) : p a := by
  obtain ⟨price, b, hcosts, hb⟩ := h
  rw [hcosts.within] at ha
  split at ha
  · exact Option.some.inj ha ▸ hb
  · cases ha

theorem Returns.exists_budget {p : α → Prop} (h : m.Returns p) :
    ∃ enough, ∀ budget, enough ≤ budget → ∃ a, m.within budget = some a := by
  obtain ⟨price, a, hcosts, -⟩ := h
  exact ⟨price, fun budget hbudget => ⟨a, by rw [hcosts.within, if_pos hbudget]⟩⟩

def Decides (m : Metered Bool) (p : Prop) : Prop := m.Returns fun v => v = true ↔ p

theorem decides_pure {v : Bool} {p : Prop} (h : v = true ↔ p) :
    (pure v : Metered Bool).Decides p := returns_pure h

theorem Decides.congr {m : Metered Bool} {p q : Prop} (hm : m.Decides p) (h : p ↔ q) :
    m.Decides q :=
  Returns.mono hm fun _ hv => hv.trans h

theorem Decides.test {m : Metered Bool} {v : Bool} {p q : Prop} (hv : v = true ↔ p)
    (hm : m.Decides q) : (if v then return true else m : Metered Bool).Decides (p ∨ q) := by
  cases v with
  | true => exact decides_pure ⟨fun _ => .inl (hv.1 rfl), fun _ => rfl⟩
  | false =>
    have hp : ¬ p := fun h => Bool.false_ne_true (hv.2 h)
    exact hm.congr ⟨.inr, fun h => h.resolve_left hp⟩

theorem Decides.or {m m' : Metered Bool} {p q : Prop} (hm : m.Decides p) (hm' : m'.Decides q) :
    (do if ← m then return true else m').Decides (p ∨ q) :=
  Returns.bind hm fun _ hv => Decides.test hv hm'

/-- A search that has taken all of `all` steps if it has found nothing, and no more if it has. -/
def Exhausts (m : Metered Bool) (all : Nat) : Prop :=
  ∃ price found, m.Costs price found ∧ price ≤ all ∧ (found = false → price = all)

theorem exhausts_nothing : (return false : Metered Bool).Exhausts 0 :=
  ⟨0, false, costs_pure false, Nat.le_refl 0, fun _ => rfl⟩

theorem exhausts_found (all : Nat) : (return true : Metered Bool).Exhausts all :=
  ⟨0, true, costs_pure true, Nat.zero_le all, by simp⟩

theorem Exhausts.tick {m : Metered Bool} {all : Nat} (h : m.Exhausts all) :
    (do tick; m).Exhausts (all + 1) := by
  obtain ⟨price, found, hcosts, hle, hall⟩ := h
  have hpaid : (do Reason.tick; m).Costs (1 + price) found := costs_tick.bind hcosts
  exact ⟨1 + price, found, hpaid, by omega, fun hnone => by have := hall hnone; omega⟩

theorem Exhausts.or {m m' : Metered Bool} {all all' : Nat} (hm : m.Exhausts all)
    (hm' : m'.Exhausts all') : (do if ← m then return true else m').Exhausts (all + all') := by
  obtain ⟨price, found, hcosts, hle, hall⟩ := hm
  cases found with
  | true =>
    have hstop : (do if ← m then return true else m').Costs (price + 0) true :=
      hcosts.bind (costs_pure true)
    exact ⟨price, true, hstop, by omega, by simp⟩
  | false =>
    obtain ⟨price', found', hcosts', hle', hall'⟩ := hm'
    have hgo : (do if ← m then return true else m').Costs (price + price') found' :=
      hcosts.bind hcosts'
    refine ⟨price + price', found', hgo, Nat.add_le_add hle hle', fun hnone => ?_⟩
    rw [hall rfl, hall' hnone]

end SemanticWiki.Reason.Metered
