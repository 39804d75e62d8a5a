import Mathlib
import SemanticWiki.Proofs.Engine.Run
import SemanticWiki.Proofs.Engine.Setup
import SemanticWiki.Proofs.Grammar.Registry
import SemanticWiki.Proofs.Text.ByteOrder

/-! The languages that a wiki offers: those that are registered and not hidden, by the names that they
are shown with. -/

namespace SemanticWiki

theorem pairwise_mergeSort_stable {α : Type} {le : α → α → Bool} {r : α → α → Prop} {l : List α}
    (htrans : ∀ a b c, le a b = true → le b c = true → le a c = true)
    (htotal : ∀ a b, (le a b || le b a) = true) (hl : l.Pairwise r) :
    (l.mergeSort le).Pairwise fun a b => le a b = true ∧ (le b a = true → r a b) := by
  induction l with
  | nil =>
    rw [List.mergeSort_nil]
    exact List.Pairwise.nil
  | cons a l ih =>
    obtain ⟨hfirst, hrest⟩ := List.pairwise_cons.1 hl
    -- the first entry comes to stand among the others, behind those that belong in front of it
    obtain ⟨before, behind, hsorted, hothers, hbefore⟩ := List.mergeSort_cons htrans htotal a l
    have hordered := List.pairwise_mergeSort htrans htotal (a :: l)
    have ih := ih hrest
    rw [hsorted] at hordered ⊢
    rw [hothers, List.pairwise_append] at ih
    obtain ⟨hpairs, hpairs', hacross⟩ := ih
    obtain ⟨-, hafter, -⟩ := List.pairwise_append.1 hordered
    refine List.pairwise_append.2 ⟨hpairs, List.pairwise_cons.2 ⟨fun b hb => ?_, hpairs'⟩, ?_⟩
    · have hmem : b ∈ l :=
        (List.mergeSort_perm l le).mem_iff.1 (hothers ▸ List.mem_append_right before hb)
      exact ⟨List.rel_of_pairwise_cons hafter hb, fun _ => hfirst b hmem⟩
    · intro b hb c hc
      rcases List.mem_cons.1 hc with rfl | hc
      · have hnot : le c b = false := by simpa using hbefore b hb
        have hle := htotal b c
        rw [hnot, Bool.or_false] at hle
        exact ⟨hle, fun hge => absurd (hnot.symm.trans hge) Bool.false_ne_true⟩
      · exact hacross b hb c hc

namespace Engine

open Text

variable {σ : Type} {config : Config} {registry : Registry} {reasoner : Reasoner σ}

/-- Languages are shown by name, byte by byte; where names are the same, by their places in `order`. -/
def ShownBefore (order : List String) (g h : ConcreteGrammar) : Prop :=
  bytes g.name < bytes h.name ∨ g.name = h.name ∧ order.idxOf g.code < order.idxOf h.code

theorem ShownBefore.asymm {order : List String} {g h : ConcreteGrammar} (hbefore : ShownBefore order g h) :
    ¬ ShownBefore order h g := by
  rintro (hlt' | ⟨hsame', hlt'⟩) <;> rcases hbefore with hlt | ⟨hsame, hlt⟩
  · exact List.lt_asymm hlt hlt'
  · exact List.lt_irrefl _ (hsame ▸ hlt')
  · exact List.lt_irrefl _ (hsame' ▸ hlt)
  · exact Nat.lt_asymm hlt hlt'

def CodeShownBefore (registry : Registry) (order : List String) (a b : String) : Prop :=
  ∃ g h, registry.get a = .ok g ∧ registry.get b = .ok h ∧ ShownBefore order g h

theorem CodeShownBefore.asymm {order : List String} {a b : String}
    (hbefore : CodeShownBefore registry order a b) : ¬ CodeShownBefore registry order b a := by
  obtain ⟨g, h, hg, hh, hbefore⟩ := hbefore
  rintro ⟨h', g', hh', hg', hbefore'⟩
  obtain rfl := Except.ok.inj (hg.symm.trans hg')
  obtain rfl := Except.ok.inj (hh.symm.trans hh')
  exact hbefore.asymm hbefore'

theorem get_of_mem {g : ConcreteGrammar} (hcodes : registry.codes.Nodup) (hg : g ∈ registry.languages) :
    registry.get g.code = .ok g := by
  obtain ⟨h, hget⟩ := exists_get (List.mem_map_of_mem hg)
  rw [hget, Registry.eq_of_code_eq hcodes (mem_languages_of_get hget) hg (code_of_get hget)]

theorem pairwise_visibleLanguages {order : List String}
    (horder : registry.codes.Pairwise fun a b => order.idxOf a < order.idxOf b)
    (hidden : List String) :
    (visibleLanguages registry hidden).Pairwise (CodeShownBefore registry order) := by
  have hcodes : registry.codes.Nodup := horder.imp fun hlt hsame =>
    absurd (congrArg order.idxOf hsame) (Nat.ne_of_lt hlt)
  have hkept : (registry.languages.filter (!hidden.contains ·.code)).Pairwise fun g h =>
      order.idxOf g.code < order.idxOf h.code := (List.pairwise_map.1 horder).filter _
  unfold visibleLanguages
  rw [List.pairwise_map]
  refine (pairwise_mergeSort_stable ?_ ?_ hkept).imp_of_mem ?_
  · intro g h k hgh hhk
    simp only [Bool.not_eq_true', decide_eq_false_iff_not, not_lt] at hgh hhk ⊢
    exact hgh.trans hhk
  · intro g h
    simp only [Bool.or_eq_true, Bool.not_eq_true', decide_eq_false_iff_not, not_lt]
    exact le_total g.name h.name
  · rintro g h hg hh ⟨hle, htie⟩
    have hregistered {k : ConcreteGrammar} (hk : k ∈ (registry.languages.filter
        (!hidden.contains ·.code)).mergeSort fun g h => !decide (h.name < g.name)) :
        registry.get k.code = .ok k :=
      get_of_mem hcodes (List.mem_of_mem_filter ((List.mergeSort_perm _ _).mem_iff.1 hk))
    refine ⟨g, h, hregistered hg, hregistered hh, ?_⟩
    simp only [Bool.not_eq_true', decide_eq_false_iff_not, not_lt] at hle htie
    rcases hle.lt_or_eq with hlt | hsame
    · exact .inl (bytes_lt_iff.2 hlt)
    · exact .inr ⟨hsame, htie hsame.ge⟩

theorem visibleLanguages_builtin : visibleLanguages .builtin [] = ["de", "en", "es"] := by
  let order := ["en", "de", "es"]
  have hperm : (visibleLanguages .builtin []).Perm order := by
    have hoffered : (Registry.builtin.languages.filter fun g => !([] : List String).contains g.code) =
        Registry.builtin.languages := List.filter_eq_self.2 fun _ _ => rfl
    rw [visibleLanguages, hoffered]
    exact (List.mergeSort_perm _ _).map _
  have horder : Registry.builtin.codes.Pairwise fun a b => order.idxOf a < order.idxOf b := by decide
  have hgerman : CodeShownBefore .builtin order "de" "en" := ⟨_, _, rfl, rfl, .inl (by decide)⟩
  have hgerman' : CodeShownBefore .builtin order "de" "es" := ⟨_, _, rfl, rfl, .inl (by decide)⟩
  have henglish : CodeShownBefore .builtin order "en" "es" := ⟨_, _, rfl, rfl, .inl (by decide)⟩
  refine (hperm.trans (.swap "de" "en" ["es"])).eq_of_pairwise
    (fun a b _ _ hab hba => absurd hba hab.asymm) (pairwise_visibleLanguages horder []) ?_
  simp [hgerman, hgerman', henglish]

theorem init_error_iff (hvalid : config.validate = .ok ()) :
    (∃ error, init config registry reasoner = .error error) ↔
      visibleLanguages registry config.hiddenLanguages ≠ [] ∧
        config.defaultLanguage ∉ visibleLanguages registry config.hiddenLanguages := by
  constructor
  · rintro ⟨error, herror⟩
    by_contra hoffered
    rw [not_and, not_not] at hoffered
    have hrefused (e : Engine σ) : init config registry reasoner ≠ .ok e := by
      simp [herror]
    exact hrefused _ (init_ok_iff.2 ⟨hvalid, hoffered, rfl⟩)
  · rintro ⟨hoffered, hdefault⟩
    cases hinit : init config registry reasoner with
    | error error => exact ⟨error, rfl⟩
    | ok e =>
      obtain ⟨-, hneeded, rfl⟩ := init_ok_iff.1 hinit
      exact absurd (hneeded hoffered) hdefault

/-- Where display names are the same, languages are shown by their first registrations. -/
theorem visible_languages_exact (languages : List ConcreteGrammar) (config : Config)
    (reasoner : Reasoner σ) (hvalid : config.validate = .ok ()) :
    let registry := Registry.ofLanguages languages
    let registered := languages.map (·.code)
    let isVisible := fun code => code ∈ registered ∧ code ∉ config.hiddenLanguages
    (∀ code g, registry.get code = .ok g ↔ g.code = code ∧
      ∃ earlier later, languages = earlier ++ g :: later ∧ ∀ h ∈ later, h.code ≠ code) ∧
    (∀ code, code ∈ registry.codes ↔ code ∈ registered) ∧
    registry.codes.Pairwise (fun a b => registered.idxOf a < registered.idxOf b) ∧
    ((∃ error, init config registry reasoner = .error error) ↔
      (∃ code, isVisible code) ∧ ¬ isVisible config.defaultLanguage) ∧
    ∀ e, init config registry reasoner = .ok e →
      e.languages.Nodup ∧ (∀ code, code ∈ e.languages ↔ isVisible code) ∧
      e.languages.Pairwise (CodeShownBefore registry registered) := by
  intro registry registered isVisible
  have horder : registry.codes.Pairwise fun a b => registered.idxOf a < registered.idxOf b :=
    Registry.pairwise_codes_ofLanguages languages
  have hvisible (code : String) :
      code ∈ visibleLanguages registry config.hiddenLanguages ↔ isVisible code := by
    rw [mem_visibleLanguages, Registry.mem_codes_ofLanguages]
  refine ⟨fun code g => Registry.get_ofLanguages_iff, fun code => Registry.mem_codes_ofLanguages,
    horder, ?_, ?_⟩
  · rw [init_error_iff hvalid, hvisible, Ne, List.eq_nil_iff_forall_not_mem, not_forall]
    simp only [not_not, hvisible]
  · intro e he
    obtain ⟨-, -, rfl⟩ := init_ok_iff.1 he
    have hsorted := pairwise_visibleLanguages horder config.hiddenLanguages
    refine ⟨hsorted.imp fun hbefore hsame => ?_, hvisible, hsorted⟩
    exact hbefore.asymm (hsame ▸ hbefore)

def reissued : List ConcreteGrammar :=
  [Language.english, Language.german, Language.spanish, Language.english.renamed "xx" "English",
    Language.german.renamed "de" "Hochdeutsch"]

theorem hochdeutsch_shown_last :
    let config : Config := { hiddenLanguages := ["es"] }
    config.validate = .ok () ∧ ∃ e, init config (.ofLanguages reissued) approving.reasoner = .ok e ∧
      e.languages = ["en", "xx", "de"] := by
  intro config
  have hvalid : config.validate = .ok () := by decide +kernel
  obtain ⟨-, -, -, herror, hlanguages⟩ :=
    visible_languages_exact reissued config approving.reasoner hvalid
  have hok : ∃ e, init config (.ofLanguages reissued) approving.reasoner = .ok e := by
    cases hinit : init config (.ofLanguages reissued) approving.reasoner with
    | ok e => exact ⟨e, rfl⟩
    | error error => exact absurd (by decide) (herror.1 ⟨error, hinit⟩).2
  obtain ⟨e, he⟩ := hok
  obtain ⟨hnodup, hmem, hordered⟩ := hlanguages e he
  have hregistered : reissued.map (·.code) = ["en", "de", "es", "xx", "de"] := by decide
  have hsame : e.languages.Perm ["en", "xx", "de"] := by
    rw [List.perm_ext_iff_of_nodup hnodup (by decide)]
    intro code
    rw [hmem, hregistered]
    simp only [config, List.mem_cons, List.not_mem_nil, or_false]
    grind
  -- there is only one way to put these in order
  refine ⟨hvalid, e, he, hsame.eq_of_pairwise (fun a b _ _ hab hba => absurd hba hab.asymm) hordered ?_⟩
  have htie : CodeShownBefore (.ofLanguages reissued) (reissued.map (·.code)) "en" "xx" :=
    ⟨_, _, rfl, rfl, .inr ⟨rfl, by decide⟩⟩
  have hfirst : CodeShownBefore (.ofLanguages reissued) (reissued.map (·.code)) "en" "de" :=
    ⟨_, _, rfl, rfl, .inl (by decide)⟩
  have hlater : CodeShownBefore (.ofLanguages reissued) (reissued.map (·.code)) "xx" "de" :=
    ⟨_, _, rfl, rfl, .inl (by decide)⟩
  simp [htie, hfirst, hlater]

end Engine

end SemanticWiki
