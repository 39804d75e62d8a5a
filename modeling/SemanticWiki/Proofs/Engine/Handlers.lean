import SemanticWiki.Proofs.Engine.Addition
import SemanticWiki.Proofs.Grammar.Caching

/-! The handlers of a wiki. Whatever happens, they work for languages of the registry, and none works
with a wrong index. So what a wiki reads and writes is what its languages would. -/

namespace SemanticWiki

open Ontology

variable {σ : Type}

def World.Staffed (registry : Registry) (w : World σ) : Prop :=
  ∀ h ∈ w.handlers, h.language ∈ registry.languages ∧ h.Fresh w.ontology

namespace World.Staffed

variable {registry : Registry} {w w' : World σ}

theorem of_precedes (h : w.Staffed registry) (hhandlers : w'.handlers = w.handlers)
    (hprecedes : w.ontology.Precedes w'.ontology) : w'.Staffed registry := by
  intro handler hmem
  obtain ⟨hlanguage, hfresh⟩ := h handler (hhandlers ▸ hmem)
  exact ⟨hlanguage, hfresh.of_precedes hprecedes⟩

end World.Staffed

namespace Engine

variable {e : Engine σ} {w : World σ}

theorem mem_putHandler {h g : Handler} {handlers : List Handler}
    (hmem : g ∈ putHandler h handlers) : g = h ∨ g ∈ handlers := by
  induction handlers with
  | nil => exact .inl (List.mem_singleton.1 hmem)
  | cons first rest ih =>
    unfold putHandler at hmem
    split at hmem
    · exact (List.mem_cons.1 hmem).imp_right (List.mem_cons_of_mem first)
    · rcases List.mem_cons.1 hmem with rfl | hlater
      · exact .inr List.mem_cons_self
      · exact (ih hlater).imp_right (List.mem_cons_of_mem first)

theorem mem_languages_of_get {registry : Registry} {code : String} {g : ConcreteGrammar}
    (h : registry.get code = .ok g) : g ∈ registry.languages := by
  unfold Registry.get at h
  split at h
  · rename_i hfind
    obtain rfl := Except.ok.inj h
    exact List.mem_of_find?_eq_some hfind
  · cases h

theorem exists_get {registry : Registry} {code : String} (hcode : code ∈ registry.codes) :
    ∃ g, registry.get code = .ok g := by
  obtain ⟨g, hg, rfl⟩ := List.mem_map.1 hcode
  have hfound : (registry.languages.find? (·.code == g.code)).isSome := by
    rw [List.find?_isSome]
    exact ⟨g, hg, by simp⟩
  obtain ⟨found, hfound⟩ := Option.isSome_iff_exists.1 hfound
  exact ⟨found, by rw [Registry.get, hfound]⟩

theorem code_of_get {registry : Registry} {code : String} {g : ConcreteGrammar}
    (h : registry.get code = .ok g) : g.code = code := by
  unfold Registry.get at h
  split at h
  · rename_i hfind
    obtain rfl := Except.ok.inj h
    simpa using List.find?_some hfind
  · cases h

theorem handler_cases {code : String} {h : Handler} (hhandler : e.handler w code = .ok h) :
    (h ∈ w.handlers ∧ h.language.code = code) ∨
      ∃ g, e.registry.get code = .ok g ∧ h = .new g := by
  unfold handler at hhandler
  split at hhandler
  · rename_i hfind
    obtain rfl := Except.ok.inj hhandler
    exact .inl ⟨List.mem_of_find?_eq_some hfind, by simpa using List.find?_some hfind⟩
  · cases hget : e.registry.get code with
    | error error => simp [hget, Except.map] at hhandler
    | ok g =>
      simp only [hget, Except.map, Except.ok.injEq] at hhandler
      exact .inr ⟨g, rfl, hhandler.symm⟩

theorem handler_fresh (hstaffed : w.Staffed e.registry) {code : String} {h : Handler}
    (hhandler : e.handler w code = .ok h) :
    h.language ∈ e.registry.languages ∧ h.Fresh w.ontology := by
  obtain ⟨hmem, -⟩ | ⟨g, hget, rfl⟩ := handler_cases hhandler
  · exact hstaffed h hmem
  · exact ⟨mem_languages_of_get hget, Handler.fresh_new g w.ontology⟩

theorem handler_code {code : String} {h : Handler} (hhandler : e.handler w code = .ok h) :
    h.language.code = code := by
  obtain ⟨-, hcode⟩ | ⟨g, hget, rfl⟩ := handler_cases hhandler
  · exact hcode
  · exact code_of_get hget

theorem answers_handler (error : GrammarError) (hhandler : e.handler w code = .error error) :
    error.isPanic = false := by
  unfold handler Registry.get at hhandler
  split at hhandler
  · cases hhandler
  · split at hhandler <;> cases hhandler
    rfl

theorem parse_ok (hstaffed : w.Staffed e.registry) {code text : String} {s : Sentence}
    (h : (e.parse w code text).1 = .ok s) :
    ∃ g ∈ e.registry.languages, g.code = code ∧ g.parseNow w.ontology text = .ok s := by
  unfold parse withHandler at h
  cases hhandler : e.handler w code with
  | error error =>
    rw [hhandler] at h
    cases h
  | ok handler =>
    obtain ⟨hlanguage, hfresh⟩ := handler_fresh hstaffed hhandler
    refine ⟨handler.language, hlanguage, handler_code hhandler, ?_⟩
    rw [← Reply.sentence.inj (hfresh.reply (.parse text)).1]
    rw [hhandler] at h
    exact h

theorem translate_eq (hstaffed : w.Staffed e.registry) {code : String} {h : Handler}
    (hhandler : e.handler w code = .ok h) (s : Sentence) :
    (e.translate w s code).1 = h.language.renderNow w.ontology s := by
  obtain ⟨-, hfresh⟩ := handler_fresh hstaffed hhandler
  unfold translate withHandler
  rw [hhandler]
  exact Reply.text.inj (hfresh.reply (.render s)).1

theorem staffed_withHandler {α : Type} (hstaffed : w.Staffed e.registry) (code : String)
    (work : Handler → Ontology → α × Handler)
    (hwork : ∀ h o, (work h o).2 = (h.lexicon o).2) :
    (e.withHandler w code work).2.Staffed e.registry := by
  unfold withHandler
  cases hhandler : e.handler w code with
  | error error => exact hstaffed
  | ok h =>
    obtain ⟨hlanguage, hfresh⟩ := handler_fresh hstaffed hhandler
    obtain ⟨-, hsame, hlater⟩ := hfresh.lexicon
    intro g hg
    rcases mem_putHandler hg with rfl | hold
    · rw [hwork, hsame]
      exact ⟨hlanguage, hlater⟩
    · exact hstaffed g hold

theorem staffed_parse (hstaffed : w.Staffed e.registry) (code text : String) :
    (e.parse w code text).2.Staffed e.registry :=
  staffed_withHandler hstaffed code (fun h o => h.parse o text) fun _ _ => rfl

theorem staffed_translate (hstaffed : w.Staffed e.registry) (s : Sentence) (code : String) :
    (e.translate w s code).2.Staffed e.registry :=
  staffed_withHandler hstaffed code (fun h o => h.render o s) fun _ _ => rfl

theorem staffed_start (e : Engine σ) (o : Ontology) (memory : σ) :
    (e.start o memory).Staffed e.registry := by
  intro h hh
  obtain ⟨g, hg, rfl⟩ := List.mem_map.1 hh
  obtain ⟨code, -, hget⟩ := List.mem_filterMap.1 hg
  refine ⟨?_, Handler.fresh_new g _⟩
  cases hfound : e.registry.get code with
  | error error => simp [hfound, Except.toOption] at hget
  | ok g' =>
    obtain rfl : g' = g := by simpa [hfound, Except.toOption] using hget
    exact mem_languages_of_get hfound

theorem stable_staffed (registry : Registry) :
    Stable registry (World.Staffed registry : World σ → Prop) where
  added {w} s expected hstaffed :=
    hstaffed.of_precedes rfl (w.ontology.addSentenceIf_change s expected).precedes
  worded {w} e s code hregistry hstaffed := by
    subst hregistry
    exact staffed_translate hstaffed s code
  noted {w} synced lastError hstaffed := hstaffed

end Engine

end SemanticWiki
