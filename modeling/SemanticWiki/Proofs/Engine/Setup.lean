import SemanticWiki.Proofs.Engine.Handlers

/-! How a wiki is set up. A configuration that is valid is taken together with whatever languages are
registered, except that the default language must not be hidden if others are offered. -/

namespace SemanticWiki.Engine

variable {σ : Type} {config : Config} {registry : Registry} {reasoner : Reasoner σ} {e : Engine σ}

theorem init_ok_iff : init config registry reasoner = .ok e ↔
    config.validate = .ok () ∧
      (e.languages ≠ [] → config.defaultLanguage ∈ e.languages) ∧
      e = ⟨config, registry, visibleLanguages registry config.hiddenLanguages, reasoner,
        builtinExporters registry (visibleLanguages registry config.hiddenLanguages)⟩ := by
  unfold init
  cases config.validate with
  | error error => simp
  | ok _ =>
    dsimp only
    split
    · rename_i hhidden
      simp only [Bool.and_eq_true, Bool.not_eq_true', List.isEmpty_eq_false_iff,
        List.contains_eq_mem, decide_eq_false_iff_not] at hhidden
      constructor
      · rintro ⟨⟩
      · rintro ⟨-, hdefault, rfl⟩
        exact absurd (hdefault hhidden.1) hhidden.2
    · rename_i hoffered
      simp only [Bool.and_eq_true, Bool.not_eq_true', List.isEmpty_eq_false_iff,
        List.contains_eq_mem, decide_eq_false_iff_not, not_and, not_not] at hoffered
      constructor
      · rintro ⟨⟩
        exact ⟨rfl, hoffered, rfl⟩
      · rintro ⟨-, -, rfl⟩
        rfl

theorem check_baseIri (h : config.validate = .ok ()) : Iri.check config.baseIri = .ok () := by
  have hvalid : Iri.isValid config.baseIri = true := by
    by_contra hinvalid
    unfold Config.validate at h
    simp only [Bool.not_eq_true] at hinvalid
    simp only [hinvalid, Bool.not_false, if_true] at h
    split_ifs at h
  unfold Iri.isValid at hvalid
  split at hvalid
  · assumption
  · cases hvalid

theorem mem_visibleLanguages {hidden : List String} {code : String} :
    code ∈ visibleLanguages registry hidden ↔ code ∈ registry.codes ∧ code ∉ hidden := by
  unfold visibleLanguages Registry.codes
  simp only [List.mem_map, (List.mergeSort_perm _ _).mem_iff, List.mem_filter, Bool.not_eq_true',
    List.contains_eq_mem, decide_eq_false_iff_not]
  constructor
  · rintro ⟨g, ⟨hg, hkept⟩, rfl⟩
    exact ⟨⟨g, hg, rfl⟩, hkept⟩
  · rintro ⟨⟨g, hg, rfl⟩, hkept⟩
    exact ⟨g, ⟨hg, hkept⟩, rfl⟩

end SemanticWiki.Engine
