import SemanticWiki.Proofs.Distinct
import SemanticWiki.Proofs.Grammar.RoundTrip

/-! What a reader decides about a text. The readings of a language are given by its rules alone, as a
set, without a search and without a count. Reading a text decides how many there are: it gives the
only one, or refuses the text because there is none, or says how many there are. -/

namespace SemanticWiki

namespace Language

variable {g : Language} {index : LexIndex} {tokens : List String}

/-- One assignment of elements to argument positions, which fills no position but those of a rule, makes
the items of the rule spell all the tokens and its construction a statement. -/
def readingSet (g : Language) (index : LexIndex) (tokens : List String) : Set Reading :=
  {reading | ∃ r ∈ g.rules, r.question = reading.2 ∧
    ∃ c : Binding, Spells g index c r.items tokens ∧
      (∀ role ∉ r.items.filterMap Item.role?, c.get? role = none) ∧
      c.assemble? r.construct = some reading.1}

theorem fills_empty_iff {c : Binding} {roles : List Role} :
    c.Fills .empty roles ↔ ∀ role ∉ roles, c.get? role = none := by
  simp [Binding.Fills, Binding.Extends]

theorem subject_of_assemble? {c : Binding} {construct : Construct} {s : Statement}
    (h : c.assemble? construct = some s) : c.get? .subject ≠ none := by
  intro hnone
  have hsubject : c.subject = none := hnone
  simp [Binding.assemble?, hsubject] at h

theorem readingSet_nil : g.readingSet index [] = ∅ := by
  refine Set.eq_empty_iff_forall_notMem.2 ?_
  rintro reading ⟨r, -, -, c, hspells, hfills, hassemble⟩
  have hsubject : .subject ∈ r.items.filterMap Item.role? := by
    by_contra hunfilled
    exact subject_of_assemble? hassemble (hfills .subject hunfilled)
  exact hspells.ne_nil hsubject rfl

theorem mem_readings_iff_mem_readingSet {reading : Reading} :
    reading ∈ g.readings index tokens ↔ reading ∈ g.readingSet index tokens := by
  by_cases htokens : tokens = []
  · subst htokens
    rw [readingSet_nil, mem_readings_iff]
    simp
  · rw [mem_readings_iff]
    simp only [readingSet, Set.mem_ofPred_eq, fills_empty_iff, ne_eq, htokens, not_false_eq_true,
      true_and]

theorem nodup_readings : (g.readings index tokens).Nodup := by
  unfold readings
  split
  · exact List.nodup_nil
  · exact nodup_eraseDups _

theorem readingSet_eq_toFinset :
    g.readingSet index tokens = ((g.readings index tokens).toFinset : Set Reading) := by
  ext reading
  rw [Finset.mem_coe, List.mem_toFinset, mem_readings_iff_mem_readingSet]

theorem finite_readingSet : (g.readingSet index tokens).Finite := by
  rw [readingSet_eq_toFinset]
  exact Finset.finite_toSet _

theorem ncard_readingSet :
    (g.readingSet index tokens).ncard = (g.readings index tokens).length := by
  rw [readingSet_eq_toFinset, Set.ncard_coe_finset, List.toFinset_card_of_nodup nodup_readings]

theorem readings_eq_nil_iff : g.readings index tokens = [] ↔ g.readingSet index tokens = ∅ := by
  rw [← Set.ncard_eq_zero finite_readingSet, ncard_readingSet, List.length_eq_zero_iff]

theorem readings_eq_singleton_iff {reading : Reading} :
    g.readings index tokens = [reading] ↔ g.readingSet index tokens = {reading} := by
  constructor
  · intro h
    rw [readingSet_eq_toFinset, h]
    simp
  · intro h
    have hlength : (g.readings index tokens).length = 1 := by
      rw [← ncard_readingSet, h, Set.ncard_singleton]
    obtain ⟨only, honly⟩ := List.length_eq_one_iff.1 hlength
    have hmem : only ∈ g.readingSet index tokens := by
      rw [← mem_readings_iff_mem_readingSet, honly]
      exact List.mem_singleton_self only
    rw [h] at hmem
    rw [honly, Set.mem_singleton_iff.1 hmem]

theorem parse_cases (g : Language) (index : LexIndex) (text : String) :
    let readings := g.readings index (Grammar.tokenize text)
    (readings = [] ∧ g.parse index text = .error (.parseFailed text g.code)) ∨
    (∃ reading, readings = [reading] ∧ g.parse index text = .ok reading) ∨
    (2 ≤ readings.length ∧
      g.parse index text = .error (.ambiguousParse text g.code readings.length)) := by
  unfold parse
  cases g.readings index (Grammar.tokenize text) with
  | nil => exact .inl ⟨rfl, rfl⟩
  | cons first rest =>
    cases rest with
    | nil => exact .inr (.inl ⟨first, rfl, rfl⟩)
    | cons second rest => exact .inr (.inr ⟨by simp, rfl⟩)

theorem readings_of_parse {text : String} {reading : Reading}
    (h : g.parse index text = .ok reading) :
    g.readings index (Grammar.tokenize text) = [reading] := by
  rcases g.parse_cases index text with ⟨-, hparse⟩ | ⟨only, honly, hparse⟩ | ⟨-, hparse⟩
  · cases hparse.symm.trans h
  · obtain rfl := Except.ok.inj (hparse.symm.trans h)
    exact honly
  · cases hparse.symm.trans h

theorem length_of_ambiguous {text input code : String} {n : Nat}
    (h : g.parse index text = .error (.ambiguousParse input code n)) :
    n = (g.readings index (Grammar.tokenize text)).length := by
  rcases g.parse_cases index text with ⟨-, hparse⟩ | ⟨only, -, hparse⟩ | ⟨-, hparse⟩
  · cases hparse.symm.trans h
  · cases hparse.symm.trans h
  · cases hparse.symm.trans h
    rfl

theorem parse_decides_readings (g : Language) (index : LexIndex) (text : String) :
    let readings := g.readingSet index (Grammar.tokenize text)
    readings.Finite ∧
    (∀ reading, g.parse index text = .ok reading ↔ readings = {reading}) ∧
    (g.parse index text = .error (.parseFailed text g.code) ↔ readings = ∅) ∧
    ∀ n, g.parse index text = .error (.ambiguousParse text g.code n) ↔
      2 ≤ n ∧ readings.ncard = n := by
  refine ⟨finite_readingSet, ?_⟩
  simp only [← readings_eq_singleton_iff, ← readings_eq_nil_iff, ncard_readingSet]
  rcases g.parse_cases index text with ⟨hnone, hparse⟩ | ⟨only, honly, hparse⟩ | ⟨hmany, hparse⟩
  · rw [hparse, hnone]
    exact ⟨by simp, by simp, by grind⟩
  · rw [hparse, honly]
    exact ⟨by simp, by simp, by grind⟩
  · have hnone : g.readings index (Grammar.tokenize text) ≠ [] := by
      intro h
      simp [h] at hmany
    have honly : ∀ reading, g.readings index (Grammar.tokenize text) ≠ [reading] := by
      intro reading h
      simp [h] at hmany
    rw [hparse]
    exact ⟨by simp [honly], by simp [hnone], by grind⟩

theorem overlapping_names_counted :
    let likes : ElementId := ⟨⟨7, by decide, by decide⟩⟩
    let newYork : ElementId := ⟨⟨9, by decide, by decide⟩⟩
    let city : ElementId := ⟨⟨13, by decide, by decide⟩⟩
    let elements := overlappingNames likes newYork ⟨⟨11, by decide, by decide⟩⟩
      ⟨⟨12, by decide, by decide⟩⟩ city
    let readings (text : String) :=
      german.readingSet (.build .german 3 elements) (Grammar.tokenize text)
    readings "New York likes City." = {(.relation newYork likes city, false)} ∧
      readings "New York City likes City." = ∅ ∧ (readings "Likes New York City?").ncard = 2 := by
  intro likes newYork city elements readings
  let index := LexIndex.build .german 3 elements
  have hone : german.parse index "New York likes City." =
      .ok (.relation newYork likes city, false) := by decide +kernel
  have hnone : german.parse index "New York City likes City." =
      .error (.parseFailed "New York City likes City." "de") := by decide +kernel
  have htwo : german.parse index "Likes New York City?" =
      .error (.ambiguousParse "Likes New York City?" "de" 2) := by decide +kernel
  exact ⟨((parse_decides_readings german index _).2.1 _).1 hone,
    (parse_decides_readings german index _).2.2.1.1 hnone,
    (((parse_decides_readings german index _).2.2.2 2).1 htwo).2⟩

end Language

end SemanticWiki
