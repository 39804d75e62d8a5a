import SemanticWiki.Proofs.Except
import SemanticWiki.Statement

/-! Which statements make sense: those whose elements are all there, each of a kind that its position
allows. -/

namespace SemanticWiki.Statement

variable {kindOf kindOf' : ElementId → Option Kind} {s : Statement}

def Fits (kindOf : ElementId → Option Kind) : Statement → Prop
  | subsumption sub sup => kindOf sub = some .concept ∧ kindOf sup = some .concept
  | disjointness concept other => kindOf concept = some .concept ∧ kindOf other = some .concept
  | membership individual concept | nonMembership individual concept =>
    kindOf individual = some .individual ∧ kindOf concept = some .concept
  | relation a r b => kindOf a = some .individual ∧
    (kindOf r = some .relation ∨ kindOf r = some .transitiveAdjective) ∧
    kindOf b = some .individual

theorem expectKind_eq_ok_iff {allowed : List Kind} {id : ElementId} {kind : Kind} :
    expectKind kindOf allowed id = .ok kind ↔ kindOf id = some kind ∧ kind ∈ allowed := by
  unfold expectKind
  cases kindOf id with
  | none => simp
  | some actual =>
    by_cases h : actual ∈ allowed
    · simp only [List.contains_iff_mem, h, if_true, Except.ok.injEq, Option.some.injEq]
      constructor
      · rintro rfl
        exact ⟨rfl, h⟩
      · exact And.left
    · simp only [List.contains_iff_mem, h, if_false, Option.some.injEq, reduceCtorEq, false_iff]
      rintro ⟨rfl, hkind⟩
      exact h hkind

theorem construct_ok_iff : (∃ c, s.construct kindOf = .ok c) ↔ s.Fits kindOf := by
  cases s with
  | relation a r b =>
    simp only [construct, Fits, bind_eq_ok_iff, expectKind_eq_ok_iff, List.mem_cons,
      List.not_mem_nil, or_false]
    constructor
    · rintro ⟨_, _, ⟨ha, rfl⟩, kind, ⟨hr, hkind⟩, _, ⟨hb, rfl⟩, -⟩
      refine ⟨ha, ?_, hb⟩
      rcases hkind with rfl | rfl
      · exact .inl hr
      · exact .inr hr
    · rintro ⟨ha, hr, hb⟩
      rcases hr with hr | hr
      · exact ⟨_, _, ⟨ha, rfl⟩, _, ⟨hr, .inl rfl⟩, _, ⟨hb, rfl⟩, rfl⟩
      · exact ⟨_, _, ⟨ha, rfl⟩, _, ⟨hr, .inr rfl⟩, _, ⟨hb, rfl⟩, rfl⟩
  | _ => simp [construct, Fits, bind_eq_ok_iff, expectKind_eq_ok_iff, pure, Except.pure]

theorem Fits.exists_kind (h : s.Fits kindOf) {id : ElementId} (hid : id ∈ s.elements) :
    ∃ kind, kindOf id = some kind := by
  cases s with
  | subsumption a b | disjointness a b | membership a b | nonMembership a b =>
    rcases (by simpa [elements] using hid : id = a ∨ id = b) with rfl | rfl
    · exact ⟨_, h.1⟩
    · exact ⟨_, h.2⟩
  | relation a r b =>
    rcases (by simpa [elements] using hid : id = a ∨ id = r ∨ id = b) with rfl | rfl | rfl
    · exact ⟨_, h.1⟩
    · exact h.2.1.elim (fun hverb => ⟨_, hverb⟩) fun hadjective => ⟨_, hadjective⟩
    · exact ⟨_, h.2.2⟩

theorem Fits.mono (h : s.Fits kindOf)
    (hkeep : ∀ id ∈ s.elements, ∀ kind, kindOf id = some kind → kindOf' id = some kind) :
    s.Fits kindOf' := by
  cases s with
  | subsumption sub sup =>
    exact ⟨hkeep sub (by simp [elements]) _ h.1, hkeep sup (by simp [elements]) _ h.2⟩
  | disjointness concept other =>
    exact ⟨hkeep concept (by simp [elements]) _ h.1, hkeep other (by simp [elements]) _ h.2⟩
  | membership individual concept | nonMembership individual concept =>
    exact ⟨hkeep individual (by simp [elements]) _ h.1, hkeep concept (by simp [elements]) _ h.2⟩
  | relation a r b =>
    obtain ⟨ha, hr, hb⟩ := h
    have hr' := hr.imp (hkeep r (by simp [elements]) _) (hkeep r (by simp [elements]) _)
    exact ⟨hkeep a (by simp [elements]) _ ha, hr', hkeep b (by simp [elements]) _ hb⟩

end SemanticWiki.Statement
