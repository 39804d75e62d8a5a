import Mathlib.Data.List.Induction
import Mathlib.Data.List.Nodup
import SemanticWiki.Grammar.Registry

/-! Registered languages. Whoever registers a language under a code that is in use takes the place of
the one that had it. So codes tell the languages of a registry apart and keep the order in which they
were registered first, and each leads to the language that was registered under it last. -/

namespace SemanticWiki.Registry

variable {registry : Registry} {g h : ConcreteGrammar} {code : String} {languages : List ConcreteGrammar}

def ofLanguages (languages : List ConcreteGrammar) : Registry := languages.foldl add empty

theorem codes_put (g : ConcreteGrammar) (languages : List ConcreteGrammar) :
    (put g languages).map (·.code) =
      if g.code ∈ languages.map (·.code) then languages.map (·.code)
      else languages.map (·.code) ++ [g.code] := by
  induction languages with
  | nil => rfl
  | cons h rest ih =>
    unfold put
    by_cases hsame : h.code = g.code
    · rw [if_pos hsame]
      simp [hsame]
    · rw [if_neg hsame, List.map_cons, ih]
      by_cases hlater : g.code ∈ rest.map (·.code)
      · have hold : g.code ∈ (h :: rest).map (·.code) := List.mem_cons_of_mem _ hlater
        rw [if_pos hlater, if_pos hold]
        rfl
      · have hnew : g.code ∉ (h :: rest).map (·.code) := by
          rw [List.map_cons, List.mem_cons, not_or]
          exact ⟨fun hcode => hsame hcode.symm, hlater⟩
        rw [if_neg hlater, if_neg hnew]
        rfl

theorem nodup_codes_add (hcodes : registry.codes.Nodup) (g : ConcreteGrammar) :
    (registry.add g).codes.Nodup := by
  unfold codes add
  rw [codes_put]
  split
  · exact hcodes
  · rename_i hnew
    exact List.nodup_append.2 ⟨hcodes, List.nodup_singleton _, by
      rintro a ha b hb rfl
      exact hnew (List.mem_singleton.1 hb ▸ ha)⟩

theorem nodup_codes_ofLanguages (languages : List ConcreteGrammar) : (ofLanguages languages).codes.Nodup := by
  have hadd (registry : Registry) (hcodes : registry.codes.Nodup) :
      (languages.foldl add registry).codes.Nodup := by
    induction languages generalizing registry with
    | nil => exact hcodes
    | cons g rest ih => exact ih _ (nodup_codes_add hcodes g)
  exact hadd empty List.nodup_nil

theorem eq_of_code_eq (hcodes : registry.codes.Nodup) (hg : g ∈ registry.languages)
    (hh : h ∈ registry.languages) (hcode : g.code = h.code) : g = h :=
  List.inj_on_of_nodup_map hcodes hg hh hcode

/-! What is left of languages that are registered one after the other. -/

theorem ofLanguages_concat (languages : List ConcreteGrammar) (g : ConcreteGrammar) :
    ofLanguages (languages ++ [g]) = (ofLanguages languages).add g := List.foldl_concat ..

theorem find?_code_cons (h : ConcreteGrammar) (rest : List ConcreteGrammar) (code : String) :
    (h :: rest).find? (·.code == code) =
      if h.code = code then some h else rest.find? (·.code == code) := by
  by_cases hcode : h.code = code <;> simp [hcode]

theorem find?_put (g : ConcreteGrammar) (code : String) (languages : List ConcreteGrammar) :
    (put g languages).find? (·.code == code) =
      if g.code = code then some g else languages.find? (·.code == code) := by
  induction languages with
  | nil => exact find?_code_cons g [] code
  | cons h rest ih =>
    unfold put
    by_cases hsame : h.code = g.code
    · rw [if_pos hsame, find?_code_cons, find?_code_cons, hsame]
      split <;> rfl
    · rw [if_neg hsame, find?_code_cons, find?_code_cons, ih]
      by_cases hcode : h.code = code
      · have hother : g.code ≠ code := fun hg => hsame (hcode.trans hg.symm)
        rw [if_pos hcode, if_neg hother, if_pos hcode]
      · rw [if_neg hcode]
        split <;> rfl

theorem find?_ofLanguages (languages : List ConcreteGrammar) (code : String) :
    (ofLanguages languages).languages.find? (·.code == code) =
      languages.reverse.find? (·.code == code) := by
  induction languages using List.reverseRecOn with
  | nil => rfl
  | append_singleton languages g ih =>
    rw [ofLanguages_concat, add, find?_put, ih, List.reverse_concat, find?_code_cons]

theorem get_ofLanguages_iff : (ofLanguages languages).get code = .ok g ↔
    g.code = code ∧
      ∃ earlier later, languages = earlier ++ g :: later ∧ ∀ h ∈ later, h.code ≠ code := by
  have hget : (ofLanguages languages).get code = .ok g ↔
      languages.reverse.find? (·.code == code) = some g := by
    rw [get, find?_ofLanguages]
    cases languages.reverse.find? (·.code == code) <;> simp
  rw [hget, List.find?_eq_some_iff_append, beq_iff_eq]
  refine and_congr_right fun _ => ?_
  constructor
  · rintro ⟨later, earlier, hreverse, hlater⟩
    refine ⟨earlier.reverse, later.reverse, ?_, fun h hh => ?_⟩
    · simpa using congrArg List.reverse hreverse
    · simpa using hlater h (List.mem_reverse.1 hh)
  · rintro ⟨earlier, later, rfl, hlater⟩
    refine ⟨later.reverse, earlier.reverse, by simp, fun h hh => ?_⟩
    simpa using hlater h (List.mem_reverse.1 hh)

theorem codes_add (registry : Registry) (g : ConcreteGrammar) : (registry.add g).codes =
    if g.code ∈ registry.codes then registry.codes else registry.codes ++ [g.code] :=
  codes_put g registry.languages

theorem mem_codes_ofLanguages :
    code ∈ (ofLanguages languages).codes ↔ code ∈ languages.map (·.code) := by
  induction languages using List.reverseRecOn with
  | nil => rfl
  | append_singleton languages g ih =>
    rw [ofLanguages_concat, codes_add, List.map_append, List.mem_append, ← ih]
    split
    · rename_i hknown
      simp only [List.map_cons, List.map_nil, List.mem_singleton]
      exact ⟨.inl, fun h => h.elim id fun hcode => hcode ▸ hknown⟩
    · exact List.mem_append

theorem pairwise_codes_ofLanguages (languages : List ConcreteGrammar) :
    (ofLanguages languages).codes.Pairwise fun a b =>
      (languages.map (·.code)).idxOf a < (languages.map (·.code)).idxOf b := by
  induction languages using List.reverseRecOn with
  | nil => exact List.Pairwise.nil
  | append_singleton languages g ih =>
    have hkept {a : String} (ha : a ∈ (ofLanguages languages).codes) :
        ((languages ++ [g]).map (·.code)).idxOf a = (languages.map (·.code)).idxOf a := by
      rw [List.map_append]
      exact List.idxOf_append_of_mem (mem_codes_ofLanguages.1 ha)
    have hold : (ofLanguages languages).codes.Pairwise fun a b =>
        ((languages ++ [g]).map (·.code)).idxOf a < ((languages ++ [g]).map (·.code)).idxOf b := by
      refine ih.imp_of_mem fun ha hb hab => ?_
      rwa [hkept ha, hkept hb]
    rw [ofLanguages_concat, codes_add]
    split
    · exact hold
    · rename_i hnew
      refine List.pairwise_append.2 ⟨hold, List.pairwise_singleton _ _, fun a ha b hb => ?_⟩
      obtain rfl := List.mem_singleton.1 hb
      have hlast : ((languages ++ [g]).map (·.code)).idxOf g.code = languages.length := by
        rw [List.map_append, List.idxOf_append_of_notMem (mt mem_codes_ofLanguages.2 hnew)]
        simp
      rw [hkept ha, hlast, ← List.length_map (·.code)]
      exact List.idxOf_lt_length_of_mem (mem_codes_ofLanguages.1 ha)

end SemanticWiki.Registry
