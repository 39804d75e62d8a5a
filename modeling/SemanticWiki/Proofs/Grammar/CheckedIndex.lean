import Mathlib.Data.List.Nodup
import SemanticWiki.Proofs.Grammar.Lookup
import SemanticWiki.Proofs.Lexicon.Shape

/-! Indexes of checked elements. The tokens of a checked word do not depend on the language that shows
it, so the indexes of all languages find the same elements at the same places. If every word has one
owner, there is one word of a category and a length at most at a place. -/

namespace SemanticWiki

def LexEntry.finding (entry : LexEntry) : ElementId × Cat × List String :=
  (entry.id, entry.cat, entry.tokens)

namespace LexIndex

variable {g : Language} {revision : Nat} {elements : List Element} {e : Element} {id : ElementId}
  {cat : Cat} {run tokens : List String} {index index' : LexIndex}

theorem entryOf?_of_checked (h : e.Checked) (g : Language) (cat : Cat) :
    entryOf? g e cat =
      if e.word cat.slot = "" then none
      else some ⟨e.id, cat, g.inflect cat (e.word cat.slot), Word.tokens (e.word cat.slot)⟩ := by
  by_cases hsome : e.word cat.slot = ""
  · simp [entryOf?, entryIn?, hsome]
  · have hword : e.word cat.slot ∈ e.words := Element.word_mem_words hsome
    obtain ⟨parts, hparts⟩ := h.hasParts hword
    have htokens : Word.tokens (e.word cat.slot) ≠ [] := hparts.tokens_ne_nil hsome
    simp [entryOf?, entryIn?, hsome, hparts.tokenize_inflect, htokens]

theorem word_of_entry (h : e.Checked) {entry : LexEntry} (hentry : entryOf? g e cat = some entry) :
    ∃ word ∈ e.words, entry.tokens = Word.tokens word ∧ ∃ parts, Word.HasParts word parts := by
  rw [entryOf?_of_checked h] at hentry
  obtain ⟨hsome, hentry⟩ := Option.ite_none_left_eq_some.1 hentry
  obtain rfl := Option.some.inj hentry
  have hword : e.word cat.slot ∈ e.words := Element.word_mem_words hsome
  exact ⟨_, hword, rfl, h.hasParts hword⟩

theorem lists_build_iff (hchecked : ∀ e ∈ elements, e.Checked) :
    (build g revision elements).Lists id cat run ↔
      ∃ e ∈ elements, e.id = id ∧ cat.kind = e.kind ∧ e.word cat.slot ≠ "" ∧
        Word.tokens (e.word cat.slot) = run := by
  constructor
  · rintro ⟨-, entry, hentry, rfl, rfl, rfl⟩
    obtain ⟨e, he, cat, hkind, hentry⟩ := mem_entries_build.1 hentry
    rw [entryOf?_of_checked (hchecked e he)] at hentry
    obtain ⟨hsome, hentry⟩ := Option.ite_none_left_eq_some.1 hentry
    obtain rfl := Option.some.inj hentry
    exact ⟨e, he, rfl, hkind, hsome, rfl⟩
  · rintro ⟨e, he, rfl, hkind, hsome, rfl⟩
    have hentry := (entryOf?_of_checked (hchecked e he) g cat).trans (if_neg hsome)
    have htokens := (entryOf?_eq_some_iff.1 hentry).2.2
    exact ⟨htokens, _, mem_entries_build.2 ⟨e, he, cat, hkind, hentry⟩, rfl, rfl, rfl⟩

theorem matchesAt_congr (h : index.entries.map LexEntry.finding = index'.entries.map LexEntry.finding)
    (tokens : List String) (pos : Nat) (cat : Cat) :
    index.matchesAt tokens pos cat = index'.matchesAt tokens pos cat := by
  have hmax (index : LexIndex) : index.maxTokens =
      ((index.entries.map LexEntry.finding).map (·.2.2.length)).foldl max 0 := by
    rw [List.map_map]
    rfl
  have hfound (index : LexIndex) (front : List String) (n : Nat) :
      (index.entries.filter fun e => e.cat == cat && e.tokens == front).map (fun e => (e.id, n)) =
        ((index.entries.map LexEntry.finding).filter fun f => f.2.1 == cat && f.2.2 == front).map
          fun f => (f.1, n) := by
    rw [List.filter_map, List.map_map]
    rfl
  simp only [matchesAt, matchesFront, hmax, hfound, h]

theorem findings_build (hchecked : ∀ e ∈ elements, e.Checked) (g : Language) (revision : Nat) :
    (build g revision elements).entries.map LexEntry.finding =
      elements.flatMap fun e => (Cat.ofKind e.kind).filterMap fun cat =>
        if e.word cat.slot = "" then none else some (e.id, cat, Word.tokens (e.word cat.slot)) := by
  rw [build, ofForms, List.map_flatMap]
  refine List.flatMap_congr fun e he => ?_
  rw [List.map_filterMap]
  refine List.filterMap_congr fun cat hcat => ?_
  rw [← entryOf?, entryOf?_of_checked (hchecked e he)]
  split <;> rfl

def Separated (index : LexIndex) : Prop :=
  index.entries.Pairwise fun x y => x.cat = y.cat → x.tokens ≠ y.tokens

theorem separated_build (hchecked : ∀ e ∈ elements, e.Checked) (hnodup : elements.Nodup)
    (howned : ∀ e ∈ elements, ∀ f ∈ elements, ∀ word ∈ e.words, ∀ other ∈ f.words,
      Word.key word = Word.key other → e = f)
    (g : Language) (revision : Nat) : (build g revision elements).Separated := by
  refine List.pairwise_flatMap.2 ⟨fun e he => ?_, ?_⟩
  · -- the entries of one element belong to different categories
    refine List.pairwise_filterMap.2 ((nodup_ofKind e.kind).imp ?_)
    intro cat cat' hne entry hentry entry' hentry' hsame
    obtain ⟨-, rfl, -⟩ := entryOf?_eq_some_iff.1 hentry
    obtain ⟨-, rfl, -⟩ := entryOf?_eq_some_iff.1 hentry'
    exact absurd hsame hne
  · -- different elements have different words, and those have different tokens
    refine hnodup.imp_of_mem ?_
    intro e f he hf hne entry hentry entry' hentry' _ htokens
    obtain ⟨cat, -, hentry⟩ := List.mem_filterMap.1 hentry
    obtain ⟨cat', -, hentry'⟩ := List.mem_filterMap.1 hentry'
    obtain ⟨word, hword, hshown, parts, hparts⟩ := word_of_entry (hchecked e he) hentry
    obtain ⟨other, hother, hshown', parts', hparts'⟩ := word_of_entry (hchecked f hf) hentry'
    have hkey : Word.key word = Word.key other :=
      Word.key_eq_of_tokens_eq hparts hparts' (hshown.symm.trans (htokens.trans hshown'))
    exact hne (howned e he f hf word hword other hother hkey)

theorem Separated.nodup_lengths (h : index.Separated) (tokens : List String) (pos : Nat) (cat : Cat) :
    ((index.matchesAt tokens pos cat).map Prod.snd).Nodup := by
  rw [matchesAt, matchesFront, List.map_flatMap]
  refine List.nodup_flatMap.2 ⟨fun n hn => ?_, ?_⟩
  · rw [List.map_map]
    refine List.pairwise_map.2 (List.pairwise_filter.2 (h.imp ?_))
    intro x y hseparate hx hy
    simp only [Bool.and_eq_true, beq_iff_eq] at hx hy
    exact absurd (hx.2.trans hy.2.symm) (hseparate (hx.1.trans hy.1.symm))
  · refine (List.nodup_reverse.2 List.nodup_range').imp fun {n m} hne => ?_
    simp only [List.disjoint_left, List.mem_map]
    rintro k ⟨_, ⟨x, -, rfl⟩, rfl⟩ ⟨_, ⟨y, -, rfl⟩, hk⟩
    exact hne hk.symm

end LexIndex

end SemanticWiki
