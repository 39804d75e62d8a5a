import SemanticWiki.Proofs.Grammar.CheckedIndex
import SemanticWiki.Proofs.Lexicon.Upkeep

/-! What a run of tokens is resolved to. The ontology tells words apart by their keys, and a reader by
their tokens. Both come to the same, so whatever a reader finds at a place is what the ontology has
under the run of tokens there. -/

namespace SemanticWiki

open Text

namespace Word

structure IsPlainToken (token : String) : Prop where
  nonempty : token ≠ ""
  chars : ∀ c ∈ token.toList, (c.isLower || c.isDigit || c == '-') = true

theorem IsPlainToken.char_spec {token : String} (h : IsPlainToken token) {c : Char}
    (hc : c ∈ token.toList) : isPartChar c = true ∧ c.toLower = c := by
  have hplain := h.chars c hc
  have hbasic : c.toNat < 0x80 := by
    simp only [Bool.or_eq_true, beq_iff_eq] at hplain
    rcases hplain with (hlower | hdigit) | rfl
    · exact basic_of_isAlpha (Bool.or_eq_true_iff.2 (.inr hlower))
    · exact basic_of_isDigit hdigit
    · decide
  exact forall_basic (p := fun c => (c.isLower || c.isDigit || c == '-') = true →
    isPartChar c = true ∧ c.toLower = c) (by decide +kernel) hbasic hplain

theorem hasParts_run {run : List String} (hplain : ∀ token ∈ run, IsPlainToken token) :
    HasParts (normalize (" ".intercalate run)) (run.map String.toList) ∧
      tokens (normalize (" ".intercalate run)) = run := by
  have hparts : HasParts (normalize (" ".intercalate run)) (run.map String.toList) := by
    have hnonempty : ∀ part ∈ run.map String.toList, part ≠ [] := by
      intro part hpart
      obtain ⟨token, htoken, rfl⟩ := List.mem_map.1 hpart
      simpa using (hplain token htoken).nonempty
    have hchars : ∀ part ∈ run.map String.toList, ∀ c ∈ part, isPartChar c = true := by
      intro part hpart c hc
      obtain ⟨token, htoken, rfl⟩ := List.mem_map.1 hpart
      exact ((hplain token htoken).char_spec hc).1
    simpa [Function.comp_def] using hasParts_joined hnonempty hchars
  refine ⟨hparts, ?_⟩
  rw [hparts.tokens_eq, List.map_map]
  refine (List.map_congr_left fun token htoken => ?_).trans (List.map_id run)
  have hlower : asciiLower token.toList = token.toList :=
    (List.map_congr_left fun c hc => ((hplain token htoken).char_spec hc).2).trans (List.map_id _)
  rw [Function.comp_apply, hlower, String.ofList_toList]
  rfl

end Word

namespace Ontology

variable {o : Ontology} {g : Language} {revision : Nat} {id : ElementId} {cat : Cat}
  {run : List String}

theorem Maintained.lookup_of_lists (h : Maintained o)
    (hlists : (LexIndex.build g revision o.elements).Lists id cat run) :
    o.lookup (" ".intercalate run) = some id := by
  obtain ⟨e, he, rfl, -, hsome, rfl⟩ := (LexIndex.lists_build_iff h.checked).1 hlists
  have hword : e.word cat.slot ∈ e.words := Element.word_mem_words hsome
  obtain ⟨parts, hparts⟩ := (h.checked e he).hasParts hword
  rw [lookup, hparts.normalize_tokens, h.indexed.owner?_eq_some_iff, hparts.key_key]
  exact h.indexed.owns_iff.2 ⟨e, he, rfl, _, hword, rfl⟩

theorem Maintained.lists_of_lookup (h : Maintained o)
    (hplain : ∀ token ∈ run, Word.IsPlainToken token)
    (hlookup : o.lookup (" ".intercalate run) = some id) (g : Language) (revision : Nat) :
    ∃ cat, (LexIndex.build g revision o.elements).Lists id cat run := by
  obtain ⟨hrun, htokens⟩ := Word.hasParts_run hplain
  obtain ⟨e, he, rfl, word, hword, hkey⟩ :=
    h.indexed.owns_iff.1 (h.indexed.owner?_eq_some_iff.1 hlookup)
  obtain ⟨parts, hparts⟩ := (h.checked e he).hasParts hword
  obtain ⟨cat, hkind, rfl⟩ := (h.checked e he).exists_cat hword
  have hsame := Word.tokens_eq_of_key_eq hparts hrun hkey
  exact ⟨cat, (LexIndex.lists_build_iff h.checked).2
    ⟨e, he, rfl, hkind, (Element.mem_words.1 hword).2, hsame.trans htokens⟩⟩

theorem Maintained.separated (h : Maintained o) (g : Language) (revision : Nat) :
    (LexIndex.build g revision o.elements).Separated := by
  have hnodup : o.elements.Nodup := .of_map _ h.indexed.ascending.nodup_ids
  refine LexIndex.separated_build h.checked hnodup ?_ g revision
  intro e he f hf word hword other hother hkey
  have howns := h.indexed.owns_iff.2 ⟨e, he, rfl, word, hword, hkey⟩
  have howns' := h.indexed.owns_iff.2 ⟨f, hf, rfl, other, hother, rfl⟩
  have hget := get?_of_mem h.indexed.ascending he
  rw [h.indexed.owner_unique howns howns', get?_of_mem h.indexed.ascending hf] at hget
  exact (Option.some.inj hget).symm

theorem words_resolved_alike (name baseIri : String) (edits : List Lexicon.Edit) (g : Language)
    (revision : Nat) (tokens : List String) (pos : Nat) :
    let o := (new name baseIri).edited edits
    let index := LexIndex.build g revision o.elements
    (∀ cat, ((index.matchesAt tokens pos cat).map Prod.snd).Nodup) ∧
    (∀ cat id n, (id, n) ∈ index.matchesAt tokens pos cat →
      pos + n ≤ tokens.length ∧
        o.lookup (" ".intercalate ((tokens.drop pos).take n)) = some id) ∧
    (∀ id n, pos + n ≤ tokens.length →
      (∀ token ∈ (tokens.drop pos).take n, Word.IsPlainToken token) →
      o.lookup (" ".intercalate ((tokens.drop pos).take n)) = some id →
      ∃ cat, (id, n) ∈ index.matchesAt tokens pos cat) ∧
    ∀ g' revision' cat, (LexIndex.build g' revision' o.elements).matchesAt tokens pos cat =
      index.matchesAt tokens pos cat := by
  intro o index
  have h : Maintained o := (maintained_new name baseIri).edited edits
  refine ⟨?_, ?_, ?_, ?_⟩
  · exact (h.separated g revision).nodup_lengths tokens pos
  · intro cat id n hmatch
    obtain ⟨hlength, hlists⟩ := LexIndex.mem_matchesAt.1 hmatch
    exact ⟨hlength, h.lookup_of_lists hlists⟩
  · intro id n hlength hplain hlookup
    obtain ⟨cat, hlists⟩ := h.lists_of_lookup hplain hlookup g revision
    exact ⟨cat, LexIndex.mem_matchesAt.2 ⟨hlength, hlists⟩⟩
  · intro g' revision' cat
    refine LexIndex.matchesAt_congr ?_ tokens pos cat
    rw [LexIndex.findings_build h.checked, LexIndex.findings_build h.checked]

theorem new_york_resolved :
    let newYork : ElementId := ⟨.first⟩
    let edits : List Lexicon.Edit := [.allocate .individual,
      .save .individual (.fresh newYork .individual) 0 [.word " New  York", .flag false]]
    let o := (new "wiki" "http://example.org/").edited edits
    let tokens := ["maria", "loves", "new", "york", "."]
    o.lookup "new york" = some newYork ∧
      ∀ g, ∃ cat, (newYork, 2) ∈ (LexIndex.build g o.revision o.elements).matchesAt tokens 2 cat := by
  intro newYork edits o tokens
  have hnormal : Word.normalize (" ".intercalate ["new", "york"]) = "new_york" := by decide +kernel
  have howner : o.owner? "new_york" = some newYork := by decide +kernel
  have hlookup : o.lookup (" ".intercalate ((tokens.drop 2).take 2)) = some newYork := by
    show o.owner? (Word.normalize (" ".intercalate ["new", "york"])) = some newYork
    rw [hnormal, howner]
  have hplain : ∀ token ∈ (tokens.drop 2).take 2, Word.IsPlainToken token := by
    have hchars : ∀ token ∈ ["new", "york"], token ≠ "" ∧
        token.toList.all (fun c => c.isLower || c.isDigit || c == '-') = true := by decide
    exact fun token htoken => ⟨(hchars token htoken).1, List.all_eq_true.1 (hchars token htoken).2⟩
  refine ⟨hlookup, fun g => ?_⟩
  obtain ⟨-, -, hfound, -⟩ :=
    words_resolved_alike "wiki" "http://example.org/" edits g o.revision tokens 2
  exact hfound newYork 2 (by decide) hplain hlookup

end Ontology

end SemanticWiki
