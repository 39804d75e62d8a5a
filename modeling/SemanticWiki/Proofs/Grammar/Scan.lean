import SemanticWiki.Grammar.Language.English
import SemanticWiki.Proofs.Distinct
import SemanticWiki.Proofs.Except
import SemanticWiki.Proofs.Grammar.Lookup

/-! A lookup beside a scan of all elements. It finds what the scan would find, longer words first and
words of one length in the order of the elements, and on the way it looks at no token that is not
there. -/

namespace SemanticWiki.LexIndex

variable {inflect : Cat → String → String} {revision : Nat} {elements : List Element}
  {index : LexIndex} {order : List ElementId} {id : ElementId} {cat : Cat} {run : List String}

theorem lists_ofForms_iff : (ofForms inflect revision elements).Lists id cat run ↔
    run ≠ [] ∧ ∃ e ∈ elements, e.id = id ∧ cat.kind = e.kind ∧ e.word cat.slot ≠ "" ∧
      Grammar.tokenize (inflect cat (e.word cat.slot)) = run := by
  refine and_congr_right fun hrun => ?_
  constructor
  · rintro ⟨entry, hentry, rfl, rfl, rfl⟩
    obtain ⟨e, he, cat, hkind, hentry⟩ := mem_entries_ofForms.1 hentry
    obtain ⟨hword, rfl, -⟩ := entryIn?_eq_some_iff.1 hentry
    exact ⟨e, he, rfl, hkind, hword, rfl⟩
  · rintro ⟨e, he, rfl, hkind, hword, rfl⟩
    have hentry := entryIn?_eq_some_iff.2 ⟨hword, rfl, hrun⟩
    exact ⟨_, mem_entries_ofForms.2 ⟨e, he, cat, hkind, hentry⟩, rfl, rfl, rfl⟩

/-- The entries of a category stand in this order, one for each element at most. -/
def Follows (index : LexIndex) (order : List ElementId) : Prop :=
  index.entries.Pairwise fun x y => x.cat = y.cat → order.idxOf x.id < order.idxOf y.id

theorem follows_ofForms (hids : (elements.map (·.id)).Nodup) :
    (ofForms inflect revision elements).Follows (elements.map (·.id)) := by
  refine List.pairwise_flatMap.2 ⟨fun e _ => ?_, ?_⟩
  · -- the entries of one element belong to different categories
    refine List.pairwise_filterMap.2 ((nodup_ofKind e.kind).imp ?_)
    intro cat cat' hne x hx y hy hsame
    obtain ⟨-, rfl, -⟩ := entryIn?_eq_some_iff.1 hx
    obtain ⟨-, rfl, -⟩ := entryIn?_eq_some_iff.1 hy
    exact absurd hsame hne
  · have hbefore : elements.Pairwise fun e f =>
        (elements.map (·.id)).idxOf e.id < (elements.map (·.id)).idxOf f.id := by
      have hplaces := pairwise_idxOf hids
      rwa [List.pairwise_map] at hplaces
    refine hbefore.imp fun {e f} hlt x hx y hy _ => ?_
    obtain ⟨cat, -, hx⟩ := List.mem_filterMap.1 hx
    obtain ⟨cat', -, hy⟩ := List.mem_filterMap.1 hy
    obtain ⟨-, rfl, -⟩ := entryIn?_eq_some_iff.1 hx
    obtain ⟨-, rfl, -⟩ := entryIn?_eq_some_iff.1 hy
    exact hlt

def FoundBefore (order : List ElementId) (x y : ElementId × Nat) : Prop :=
  y.2 < x.2 ∨ x.2 = y.2 ∧ order.idxOf x.1 < order.idxOf y.1

theorem FoundBefore.ne {x y : ElementId × Nat} (h : FoundBefore order x y) : x ≠ y := by
  rintro rfl
  rcases h with hlt | ⟨-, hlt⟩
  · exact Nat.lt_irrefl _ hlt
  · exact Nat.lt_irrefl _ hlt

theorem Follows.pairwise_matchesAt (h : index.Follows order) (tokens : List String) (pos : Nat)
    (cat : Cat) : (index.matchesAt tokens pos cat).Pairwise (FoundBefore order) := by
  rw [matchesAt, matchesFront]
  refine List.pairwise_flatMap.2 ⟨fun n _ => ?_, ?_⟩
  · refine List.pairwise_map.2 (List.pairwise_filter.2 (h.imp ?_))
    intro x y hxy hx hy
    simp only [Bool.and_eq_true, beq_iff_eq] at hx hy
    exact .inr ⟨rfl, hxy (hx.1.trans hy.1.symm)⟩
  · refine (List.pairwise_reverse.2 List.pairwise_lt_range').imp fun {n m} hlt x hx y hy => ?_
    obtain ⟨-, -, rfl⟩ := List.mem_map.1 hx
    obtain ⟨-, -, rfl⟩ := List.mem_map.1 hy
    exact .inl hlt

def slice? (tokens : List String) (pos n : Nat) : Option (List String) :=
  if pos + n ≤ tokens.length then some ((tokens.drop pos).take n) else none

/-- A lookup that is given up as soon as it would look at a token that is not there. -/
def matchesAt? (index : LexIndex) (tokens : List String) (pos : Nat) (cat : Cat) :
    Option (List (ElementId × Nat)) := do
  let longest := min index.maxTokens (tokens.length - pos)
  let found ← (List.range' 1 longest).reverse.mapM fun n => do
    let run ← slice? tokens pos n
    return (index.entries.filter fun e => e.cat == cat && e.tokens == run).map fun e => (e.id, n)
  return found.flatten

theorem matchesAt?_eq_some (index : LexIndex) (tokens : List String) (pos : Nat) (cat : Cat) :
    index.matchesAt? tokens pos cat = some (index.matchesAt tokens pos cat) := by
  let finds (n : Nat) : List (ElementId × Nat) :=
    (index.entries.filter fun e => e.cat == cat && e.tokens == (tokens.drop pos).take n).map
      fun e => (e.id, n)
  have hsliced : ∀ n ∈ (List.range' 1 (min index.maxTokens (tokens.length - pos))).reverse,
      (do
        let run ← slice? tokens pos n
        return (index.entries.filter fun e => e.cat == cat && e.tokens == run).map
          fun e => (e.id, n)) = some (finds n) := by
    intro n hn
    rw [List.mem_reverse, List.mem_range'_1] at hn
    have hthere : pos + n ≤ tokens.length := by omega
    rw [slice?, if_pos hthere]
    rfl
  simp only [matchesAt?, matchesAt, matchesFront, mapM_eq_map hsliced, List.length_drop,
    List.flatMap_def]
  rfl

/-- The bound on the length of a word hides no word, and no token is looked at that is not there. -/
theorem lookup_exact (inflect : Cat → String → String) (revision : Nat) (elements : List Element)
    (hids : (elements.map (·.id)).Nodup) (tokens : List String) (pos : Nat) (cat : Cat) :
    let index := ofForms inflect revision elements
    let found := index.matchesAt tokens pos cat
    let order := elements.map (·.id)
    (∀ g : Language, g.inflect = inflect → build g revision elements = index) ∧
    (∀ id n, (id, n) ∈ found ↔ 1 ≤ n ∧ pos + n ≤ tokens.length ∧
      ∃ e ∈ elements, e.id = id ∧ cat.kind = e.kind ∧ e.word cat.slot ≠ "" ∧
        Grammar.tokenize (inflect cat (e.word cat.slot)) = (tokens.drop pos).take n) ∧
    found.Nodup ∧
    found.Pairwise (fun x y => y.2 < x.2 ∨ x.2 = y.2 ∧ order.idxOf x.1 < order.idxOf y.1) ∧
    index.matchesAt? tokens pos cat = some found := by
  intro index found order
  have hpairwise : found.Pairwise (FoundBefore order) :=
    (follows_ofForms hids).pairwise_matchesAt tokens pos cat
  refine ⟨?_, fun id n => ?_, hpairwise.imp FoundBefore.ne, hpairwise,
    index.matchesAt?_eq_some tokens pos cat⟩
  · rintro g rfl
    rfl
  · have hsome (hn : pos + n ≤ tokens.length) : (tokens.drop pos).take n ≠ [] ↔ 1 ≤ n := by
      rw [← List.length_pos_iff, List.length_take, List.length_drop]
      omega
    rw [mem_matchesAt, lists_ofForms_iff]
    constructor
    · rintro ⟨hn, hrun, hword⟩
      exact ⟨(hsome hn).1 hrun, hn, hword⟩
    · rintro ⟨hpos, hn, hword⟩
      exact ⟨hn, (hsome hn).2 hpos, hword⟩

theorem new_york_before_new :
    let new : ElementId := ⟨⟨4, by decide, by decide⟩⟩
    let newYork : ElementId := ⟨⟨9, by decide, by decide⟩⟩
    let namesake : ElementId := ⟨⟨2, by decide, by decide⟩⟩
    let elements : List Element :=
      [⟨new, .individual, [.word "New", .flag false]⟩,
       ⟨newYork, .individual, [.word "New_York", .flag false]⟩,
       ⟨namesake, .individual, [.word "new", .flag true]⟩]
    let index := build .english 7 elements
    let tokens := ["new", "york", "is", "a", "city"]
    (elements.map (·.id)).Nodup ∧
      index.matchesAt? tokens 0 .properName = some [(newYork, 2), (new, 1), (namesake, 1)] ∧
      (newYork, 2) ∈ index.matchesAt tokens 0 .properName ∧
      index.matchesAt? tokens 9 .properName = some [] := by
  intro new newYork namesake elements index tokens
  have hids : (elements.map (·.id)).Nodup := by decide
  have hfound : index.matchesAt tokens 0 .properName =
      [(newYork, 2), (new, 1), (namesake, 1)] := by decide +kernel
  have hnone : index.matchesAt tokens 9 .properName = [] := by decide +kernel
  obtain ⟨-, hmem, -, -, hthere⟩ :=
    lookup_exact Language.english.inflect 7 elements hids tokens 0 .properName
  obtain ⟨-, -, -, -, hpast⟩ :=
    lookup_exact Language.english.inflect 7 elements hids tokens 9 .properName
  refine ⟨hids, hthere.trans (congrArg some hfound), (hmem newYork 2).2 ?_,
    hpast.trans (congrArg some hnone)⟩
  exact ⟨by decide, by decide, ⟨newYork, .individual, [.word "New_York", .flag false]⟩,
    by simp [elements], rfl, rfl, by decide, by decide +kernel⟩

end SemanticWiki.LexIndex
