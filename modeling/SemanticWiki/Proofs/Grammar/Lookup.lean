import SemanticWiki.Grammar.Index

/-! What a lexical index finds. A lookup yields exactly the words at the front of the tokens: the
bound on the length of a word cuts none off, and no word reaches past the last token. Of a language an
index uses nothing but the forms in which it shows words, so this holds for any such forms. -/

namespace SemanticWiki

namespace LexIndex

theorem entryIn?_eq_some_iff {inflect : Cat → String → String} {e : Element} {cat : Cat}
    {entry : LexEntry} : entryIn? inflect e cat = some entry ↔
      e.word cat.slot ≠ "" ∧ entry = ⟨e.id, cat, inflect cat (e.word cat.slot),
        Grammar.tokenize (inflect cat (e.word cat.slot))⟩ ∧ entry.tokens ≠ [] := by
  simp only [entryIn?]
  split
  · rename_i hnone
    refine ⟨by simp, ?_⟩
    rintro ⟨hword, rfl, htokens⟩
    simp_all [String.isEmpty_iff]
  · rename_i hsome
    simp only [Bool.or_eq_true, not_or, List.isEmpty_iff, String.isEmpty_iff] at hsome
    refine ⟨fun h => ?_, fun h => by rw [h.2.1]⟩
    obtain rfl := Option.some.inj h
    exact ⟨hsome.1, rfl, hsome.2⟩

theorem entryOf?_eq_some_iff {g : Language} {e : Element} {cat : Cat} {entry : LexEntry} :
    entryOf? g e cat = some entry ↔
      e.word cat.slot ≠ "" ∧ entry = ⟨e.id, cat, g.inflect cat (e.word cat.slot),
        Grammar.tokenize (g.inflect cat (e.word cat.slot))⟩ ∧ entry.tokens ≠ [] :=
  entryIn?_eq_some_iff

variable {index : LexIndex} {id : ElementId} {cat : Cat}

/-- The tokens are a word of the element in the category. -/
def Lists (index : LexIndex) (id : ElementId) (cat : Cat) (run : List String) : Prop :=
  run ≠ [] ∧ ∃ e ∈ index.entries, e.id = id ∧ e.cat = cat ∧ e.tokens = run

theorem foldl_max_ge (lengths : List Nat) (start : Nat) :
    start ≤ lengths.foldl max start ∧ ∀ n ∈ lengths, n ≤ lengths.foldl max start := by
  induction lengths generalizing start with
  | nil => simp
  | cons k rest ih =>
    obtain ⟨hstart, hrest⟩ := ih (max start k)
    refine ⟨by simp only [List.foldl_cons]; omega, fun n hn => ?_⟩
    rcases List.mem_cons.1 hn with rfl | hn
    · simp only [List.foldl_cons]; omega
    · exact hrest n hn

theorem length_le_maxTokens {e : LexEntry} (he : e ∈ index.entries) :
    e.tokens.length ≤ index.maxTokens :=
  (foldl_max_ge _ 0).2 _ (List.mem_map_of_mem (f := fun e => e.tokens.length) he)

theorem mem_matchesFront {tokens : List String} {n : Nat} :
    (id, n) ∈ index.matchesFront tokens cat ↔
      ∃ run rest, tokens = run ++ rest ∧ n = run.length ∧ index.Lists id cat run := by
  simp only [matchesFront, List.mem_flatMap, List.mem_reverse, List.mem_range'_1, List.mem_map,
    List.mem_filter, Bool.and_eq_true, beq_iff_eq, Prod.mk.injEq]
  constructor
  · rintro ⟨m, hm, e, ⟨he, hcat, htokens⟩, hid, rfl⟩
    have hlength : (tokens.take m).length = m := List.length_take_of_le (by omega)
    refine ⟨tokens.take m, tokens.drop m, (List.take_append_drop m tokens).symm, hlength.symm,
      ?_, e, he, hid, hcat, htokens⟩
    exact List.ne_nil_of_length_pos (by omega)
  · rintro ⟨run, rest, rfl, rfl, hrun, e, he, hid, hcat, htokens⟩
    have hpos : 0 < run.length := List.length_pos_iff.2 hrun
    have hmax : e.tokens.length ≤ index.maxTokens := length_le_maxTokens he
    rw [htokens] at hmax
    refine ⟨run.length, ⟨by omega, ?_⟩, e, ⟨he, hcat, ?_⟩, hid, rfl⟩
    · rw [List.length_append]; omega
    · rw [List.take_left, htokens]

theorem mem_matchesAt {tokens : List String} {pos n : Nat} :
    (id, n) ∈ index.matchesAt tokens pos cat ↔
      pos + n ≤ tokens.length ∧ index.Lists id cat ((tokens.drop pos).take n) := by
  rw [matchesAt, mem_matchesFront]
  constructor
  · rintro ⟨run, rest, hdrop, rfl, hlists⟩
    have hpos : 0 < run.length := List.length_pos_iff.2 hlists.1
    have hlength := congrArg List.length hdrop
    rw [List.length_drop, List.length_append] at hlength
    rw [hdrop, List.take_left]
    exact ⟨by omega, hlists⟩
  · rintro ⟨hlength, hlists⟩
    have htake : ((tokens.drop pos).take n).length = n := by
      rw [List.length_take, List.length_drop]
      omega
    exact ⟨_, _, (List.take_append_drop n (tokens.drop pos)).symm, htake.symm, hlists⟩

theorem mem_ofKind {kind : Kind} : cat ∈ Cat.ofKind kind ↔ cat.kind = kind := by
  have hall : cat ∈ Cat.all := by cases cat <;> decide
  simp [Cat.ofKind, hall]

theorem nodup_ofKind (kind : Kind) : (Cat.ofKind kind).Nodup := by cases kind <;> decide

theorem mem_entries_ofForms {inflect : Cat → String → String} {revision : Nat}
    {elements : List Element} {entry : LexEntry} :
    entry ∈ (ofForms inflect revision elements).entries ↔
      ∃ e ∈ elements, ∃ cat, cat.kind = e.kind ∧ entryIn? inflect e cat = some entry := by
  simp only [ofForms, List.mem_flatMap, List.mem_filterMap, mem_ofKind]

theorem mem_entries_build {g : Language} {revision : Nat} {elements : List Element}
    {entry : LexEntry} :
    entry ∈ (build g revision elements).entries ↔
      ∃ e ∈ elements, ∃ cat, cat.kind = e.kind ∧ entryOf? g e cat = some entry :=
  mem_entries_ofForms

theorem surface?_build {g : Language} {revision : Nat} {elements : List Element}
    {surface : String} (h : (build g revision elements).surface? id cat = some surface) :
    (∃ e ∈ elements, e.id = id ∧ cat.kind = e.kind ∧ e.word cat.slot ≠ "" ∧
      surface = g.inflect cat (e.word cat.slot)) ∧
    (build g revision elements).Lists id cat (Grammar.tokenize surface) := by
  obtain ⟨entry, hfind, rfl⟩ := Option.map_eq_some_iff.1 h
  have hmem := List.mem_reverse.1 (List.mem_of_find?_eq_some hfind)
  have hkey := List.find?_some hfind
  simp only [Bool.and_eq_true, beq_iff_eq] at hkey
  obtain ⟨rfl, rfl⟩ := hkey
  obtain ⟨e, he, cat, hkind, hentry⟩ := mem_entries_build.1 hmem
  obtain ⟨hword, rfl, htokens⟩ := entryOf?_eq_some_iff.1 hentry
  exact ⟨⟨e, he, rfl, hkind, hword, rfl⟩, htokens, _, hmem, rfl, rfl, rfl⟩

end LexIndex

end SemanticWiki
