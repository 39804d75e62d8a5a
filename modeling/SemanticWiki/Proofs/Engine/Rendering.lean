import SemanticWiki.Proofs.Engine.Handlers
import SemanticWiki.Proofs.Engine.Run
import SemanticWiki.Proofs.Grammar.Expressiveness
import SemanticWiki.Proofs.Lexicon.Upkeep
import SemanticWiki.Proofs.Ontology.Integrity

/-! What a wiki has words for. Sentences refer to elements by number, and every registered element
has the words that a sentence about it may need, so sentences outlive all renaming. The languages
keep indexes that may be old, but whoever uses one sees to it that it is of the current revision. -/

namespace SemanticWiki

open Ontology

variable {σ : Type}

/-- The wiki can put its sentences into words: every sentence makes sense, every element has been
checked, and the languages are those of the registry and do not work with a wrong index. -/
structure World.Renderable (registry : Registry) (w : World σ) : Prop where
  indexed : Indexed w.ontology
  intact : Intact w.ontology
  checked : w.ontology.Checked
  handlers : ∀ h ∈ w.handlers, h.language ∈ registry.languages ∧ h.Fresh w.ontology

namespace World.Renderable

variable {registry : Registry} {w : World σ}

theorem change (h : w.Renderable registry) {o : Ontology} (hchange : Change w.ontology o)
    (hchecked : o.Checked) : { w with ontology := o }.Renderable registry where
  indexed := hchange.indexed h.indexed
  intact := hchange.intact h.intact
  checked := hchecked
  handlers := World.Staffed.of_precedes h.handlers rfl hchange.precedes

theorem of_same (h : w.Renderable registry) {w' : World σ} (hontology : w'.ontology = w.ontology)
    (hhandlers : w'.handlers = w.handlers) : w'.Renderable registry := by
  refine ⟨?_, ?_, ?_, ?_⟩
  · exact hontology ▸ h.indexed
  · exact hontology ▸ h.intact
  · exact hontology ▸ h.checked
  · rw [hontology, hhandlers]
    exact h.handlers

theorem of_staffed (h : w.Renderable registry) {w' : World σ} (hontology : w'.ontology = w.ontology)
    (hstaffed : w'.Staffed registry) : w'.Renderable registry :=
  ⟨hontology ▸ h.indexed, hontology ▸ h.intact, hontology ▸ h.checked, hstaffed⟩

end World.Renderable

namespace Engine

variable {e : Engine σ} {w : World σ}

theorem renderable_parse (hready : w.Renderable e.registry) (code text : String) :
    (e.parse w code text).2.Renderable e.registry := by
  have hontology : (e.parse w code text).2.ontology = w.ontology :=
    e.ontology_withHandler w code fun h o => h.parse o text
  exact hready.of_staffed hontology (staffed_parse hready.handlers code text)

theorem renderable_translate (hready : w.Renderable e.registry) (s : Sentence) (code : String) :
    (e.translate w s code).2.Renderable e.registry := by
  have hontology : (e.translate w s code).2.ontology = w.ontology :=
    e.ontology_withHandler w code fun h o => h.render o s
  exact hready.of_staffed hontology (staffed_translate hready.handlers s code)

theorem stable_renderable (registry : Registry) :
    Stable registry (World.Renderable registry : World σ → Prop) where
  added {w} s expected hready :=
    hready.change (w.ontology.addSentenceIf_change s expected)
      (hready.checked.of_subset (elements_addSentenceIf w.ontology s expected))
  worded {w} e s code hregistry hready := by
    subst hregistry
    exact renderable_translate hready s code
  noted {w} synced lastError hready := hready.of_same rfl rfl

section Registry

variable {registry : Registry}

theorem renderable_createElement (hready : w.Renderable registry) (tag : String) :
    (createElement w tag).2.Renderable registry := by
  unfold createElement
  split
  · exact hready
  · rename_i kind _
    exact hready.change (w.ontology.allocate_change kind) hready.checked

theorem renderable_saveWords (hready : w.Renderable registry) (kind : Kind) (element : Element)
    (wordNumber : Nat) (values : List Value) :
    (saveWords kind w element wordNumber values).2.2.Renderable registry :=
  hready.change (saveWords_edited kind w element wordNumber values).change
    (hready.checked.save hready.indexed kind element wordNumber values)

theorem renderable_removeElement (hready : w.Renderable registry) (id : ElementId) :
    (removeElement w id).2.Renderable registry :=
  hready.change (w.ontology.removeElement_change id)
    (hready.checked.of_subset (elements_removeElement w.ontology id))

theorem renderable_retractSentence (hready : w.Renderable registry) (id : SentenceId) :
    (retractSentence w id).2.Renderable registry :=
  hready.change (w.ontology.retractSentence_change id)
    (hready.checked.of_subset (elements_retractSentence w.ontology id))

end Registry

theorem renderable_start (e : Engine σ) (name baseIri : String) (memory : σ) :
    (e.start (.new name baseIri) memory).Renderable e.registry where
  indexed := indexed_new name baseIri
  intact := intact_new name baseIri
  checked _ he := absurd he List.not_mem_nil
  handlers := e.staffed_start (.new name baseIri) memory

theorem renderable_act (hready : w.Renderable e.registry)
    (hconsult : ∀ query v, v.Renderable e.registry →
      (e.reasoner.consult query v).2.Renderable e.registry) (action : Action)
    (hoffered : action.offered = true) : (e.act w action).Renderable e.registry := by
  have hstable := stable_renderable (σ := σ) e.registry
  cases action with
  | perform operation => cases hoffered
  | createElement tag => exact renderable_createElement hready tag
  | saveWords kind element wordNumber values =>
    exact renderable_saveWords hready kind element wordNumber values
  | removeElement id => exact renderable_removeElement hready id
  | retractSentence id => exact renderable_retractSentence hready id
  | parse code text => exact renderable_parse hready code text
  | translate s code => exact renderable_translate hready s code
  | addSentence s => exact hstable.addSentence hconsult s hready
  | checkConsistency => exact hstable.checkConsistency hconsult hready
  | answer s => exact hstable.answer hconsult s hready

theorem Use.renderable {registry : Registry} {w w' : World σ} (huse : Use registry w w')
    (hready : w.Renderable registry) : w'.Renderable registry := by
  refine huse.invariant (fun e action w hregistry hoffered hconsult hready => ?_)
    (fun _ _ hready => hready.of_same rfl rfl) hready
  subst hregistry
  exact renderable_act hready hconsult action hoffered

theorem builtin_expressive : ∀ g ∈ Registry.builtin.languages,
    ∃ b : Language, b.expressive = true ∧ g = b := by
  intro g hg
  obtain ⟨b, hb, rfl⟩ := List.mem_map.1 hg
  refine ⟨b, ?_, rfl⟩
  simp only [Language.builtin, List.mem_cons, List.not_mem_nil, or_false] at hb
  rcases hb with rfl | rfl | rfl
  · exact Language.english_expressive
  · exact Language.german_expressive
  · exact Language.spanish_expressive

theorem exists_handler {code : String} (hcode : code ∈ e.registry.codes) :
    ∃ h, e.handler w code = .ok h := by
  unfold handler
  cases w.handlers.find? (·.language.code == code) with
  | some h => exact ⟨h, rfl⟩
  | none =>
    obtain ⟨g, hget⟩ := exists_get hcode
    exact ⟨.new g, by simp [hget, Except.map]⟩

theorem translate_ok (hready : w.Renderable e.registry)
    (hexpressive : ∀ g ∈ e.registry.languages, ∃ b : Language, b.expressive = true ∧ g = b)
    {code : String}
    (hcode : code ∈ e.registry.codes) {s : Sentence} {construct : Construct}
    (hvalid : w.ontology.validate s = .ok construct) :
    ∃ text, (e.translate w s code).1 = .ok text := by
  obtain ⟨h, hhandler⟩ := exists_handler (w := w) hcode
  obtain ⟨b, hb, hlanguage⟩ := hexpressive _ (handler_fresh hready.handlers hhandler).1
  let index := LexIndex.build b w.ontology.revision w.ontology.elements
  have hconstruct : s.statement.construct index.kindOf = .ok construct := by
    rw [LexIndex.kindOf_build hready.indexed.ascending]
    exact hvalid
  have hsupplies : index.Supplies := LexIndex.supplies_build hready.checked
  obtain ⟨text, htext⟩ := Language.linearize_ok hsupplies hconstruct hb s.question
  refine ⟨text, ?_⟩
  rw [translate_eq hready.handlers hhandler, hlanguage]
  exact htext

/-- The words of the wiki are changed by saving only, as `Use` allows. -/
theorem sentences_stay_renderable (e : Engine σ) (hregistry : e.registry = .builtin)
    (name baseIri : String) (memory : σ) {w : World σ}
    (huse : Use .builtin (e.start (.new name baseIri) memory) w) {code : String}
    (hcode : code ∈ Registry.builtin.codes) :
    (∀ s construct, w.ontology.validate s = .ok construct →
      ∃ text, (e.translate w s code).1 = .ok text) ∧
    ∀ stored ∈ w.ontology.sentences, ∀ question language,
      ∃ text, (e.translate w { stored.2 with question, language } code).1 = .ok text := by
  rw [← hregistry] at huse hcode
  have hready : w.Renderable e.registry :=
    huse.renderable (e.renderable_start name baseIri memory)
  have hexpressive : ∀ g ∈ e.registry.languages, ∃ b : Language, b.expressive = true ∧ g = b :=
    hregistry ▸ builtin_expressive
  refine ⟨fun s construct hvalid => translate_ok hready hexpressive hcode hvalid, ?_⟩
  intro stored hstored question language
  obtain ⟨construct, hvalid⟩ :=
    Statement.construct_ok_iff.2 (hready.intact.sentences stored hstored)
  exact translate_ok hready hexpressive hcode (s := { stored.2 with question, language }) hvalid

/-! A noun is renamed after a sentence about it has been added and read. -/

def unreasoning : Engine Unit where
  config := {}
  registry := .builtin
  languages := ["en"]
  reasoner := .ofBackend .disabled
  exporters := []

theorem Use.unreasoning {w w' : World Unit} (huse : Use .builtin w w') (action : Action)
    (hoffered : action.offered = true) : Use .builtin w (unreasoning.act w' action) :=
  huse.act (e := Engine.unreasoning) rfl (fun _ v => .refl v) action hoffered

def dog : ElementId := ⟨.first⟩
def animal : ElementId := ⟨dog.toSerial.succ⟩

def everyDogIsAnAnimal : Sentence := .assertion (.subsumption dog animal) "en"

def nameNoun (id : ElementId) (singular plural : String) (w : World Unit) : World Unit :=
  (saveWords .concept w (.fresh id .concept) 0 [.word singular, .word plural]).2.2

def kennel : World Unit :=
  let w := unreasoning.start (.new "wiki" "http://example.org/") ()
  let w := nameNoun animal "animal" "animals" (nameNoun dog "dog" "dogs" w)
  (unreasoning.addSentence w everyDogIsAnAnimal).2

def renamedKennel : World Unit :=
  nameNoun dog "hound" "hounds" (unreasoning.translate kennel everyDogIsAnAnimal "en").2

theorem renamed_dog_still_rendered :
    (unreasoning.translate kennel everyDogIsAnAnimal "en").1 = .ok "Every dog is an animal." ∧
      (unreasoning.translate renamedKennel everyDogIsAnAnimal "en").1 =
        .ok "Every hound is an animal." ∧
      ∀ question, ∃ text, (unreasoning.translate renamedKennel
        { everyDogIsAnAnimal with question } "es").1 = .ok text := by
  let start := unreasoning.start (.new "wiki" "http://example.org/") ()
  let named (id : ElementId) (singular plural : String) : Action :=
    .saveWords .concept (.fresh id .concept) 0 [.word singular, .word plural]
  have hnamed : Use .builtin start (nameNoun animal "animal" "animals" (nameNoun dog "dog" "dogs" start)) :=
    Use.unreasoning (Use.unreasoning (.refl start) (named dog "dog" "dogs") rfl)
      (named animal "animal" "animals") rfl
  have hkennel : Use .builtin start kennel :=
    Use.unreasoning hnamed (.addSentence everyDogIsAnAnimal) rfl
  have hrenamed : Use .builtin start renamedKennel :=
    Use.unreasoning (Use.unreasoning hkennel (.translate everyDogIsAnAnimal "en") rfl)
      (named dog "hound" "hounds") rfl
  obtain ⟨-, hstored⟩ := sentences_stay_renderable unreasoning rfl _ _ _ hrenamed
    (show "es" ∈ Registry.builtin.codes by decide)
  have hmem : (SentenceId.first, everyDogIsAnAnimal) ∈ renamedKennel.ontology.sentences := by
    decide +kernel
  exact ⟨by decide +kernel, by decide +kernel, fun question => hstored _ hmem question "en"⟩

end Engine

end SemanticWiki
