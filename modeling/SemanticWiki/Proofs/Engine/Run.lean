import SemanticWiki.Proofs.Engine.Addition

/-! Runs of a wiki. One operation follows the other, and while the reasoner is busy for one of them
others may run theirs, for some of which it is consulted in turn. Who takes part in a run differs; how
the operations of a run follow one another does not. -/

namespace SemanticWiki

open Ontology

variable {σ : Type} {w w' : World σ}

namespace Engine

/-- An operation of a wiki, or one that its ontology performs for somebody else. -/
inductive Action where
  | perform (operation : Operation)
  | createElement (tag : String)
  | saveWords (kind : Kind) (element : Element) (wordNumber : Nat) (values : List Value)
  | removeElement (id : ElementId)
  | retractSentence (id : SentenceId)
  | parse (code text : String)
  | translate (s : Sentence) (code : String)
  | addSentence (s : Sentence)
  | checkConsistency
  | answer (s : Sentence)

def Action.offered : Action → Bool
  | .perform _ => false
  | _ => true

def act (e : Engine σ) (w : World σ) : Action → World σ
  | .perform operation => { w with ontology := w.ontology.perform operation }
  | .createElement tag => (createElement w tag).2
  | .saveWords kind element wordNumber values => (saveWords kind w element wordNumber values).2.2
  | .removeElement id => (removeElement w id).2
  | .retractSentence id => (retractSentence w id).2
  | .parse code text => (e.parse w code text).2
  | .translate s code => (e.translate w s code).2
  | .addSentence s => (e.addSentence w s).2
  | .checkConsistency => (e.checkConsistency w).2
  | .answer s => (e.answer w s).2

/-- What an operation does: it changes the ontology and nothing else, has a language read or write, or
calls the reasoner. -/
inductive Acting (e : Engine σ) (w : World σ) : Action → World σ → Prop
  | changed {action : Action} (o : Ontology) (hchange : Change w.ontology o) :
      Acting e w action { w with ontology := o }
  | parsed (code text : String) : Acting e w (.parse code text) (e.parse w code text).2
  | translated (s : Sentence) (code : String) :
      Acting e w (.translate s code) (e.translate w s code).2
  | added (s : Sentence) : Acting e w (.addSentence s) (e.addSentence w s).2
  | checked : Acting e w .checkConsistency (e.checkConsistency w).2
  | answered (s : Sentence) : Acting e w (.answer s) (e.answer w s).2

theorem acting_of_edited {e : Engine σ} {action : Action} (h : w.Edited w') :
    Acting e w action w' := by
  have hchanged : Acting e w action { w with ontology := w'.ontology } := .changed _ h.change
  rwa [← h.others] at hchanged

theorem acting (e : Engine σ) (w : World σ) (action : Action) : Acting e w action (e.act w action) := by
  cases action with
  | perform operation => exact .changed _ (perform_change _ operation)
  | createElement tag => exact acting_of_edited (createElement_edited w tag)
  | saveWords kind element wordNumber values =>
    exact acting_of_edited (saveWords_edited kind w element wordNumber values)
  | removeElement id => exact acting_of_edited (removeElement_edited w id)
  | retractSentence id => exact acting_of_edited (retractSentence_edited w id)
  | parse code text => exact .parsed code text
  | translate s code => exact .translated s code
  | addSentence s => exact .added s
  | checkConsistency => exact .checked
  | answer s => exact .answered s

/-- Who takes part in a run: the settings in which an operation may find the wiki, what it then does,
and what others do while the reasoner is busy for it. -/
structure Regime (σ : Type) where
  Setting : Type
  allows : Setting → Action → Prop
  act : Setting → World σ → Action → World σ
  meanwhile : Setting → Query → World σ → World σ
  /-- What comes about by no operation. -/
  aside : World σ → World σ → Prop

/-- What can become of a wiki. What others do while the reasoner is busy is a run as well. -/
inductive Regime.Reaches (R : Regime σ) : World σ → World σ → Prop
  | refl (w : World σ) : Reaches R w w
  | act {w w' : World σ} (x : R.Setting) (action : Action) (hreaches : Reaches R w w')
      (hallowed : R.allows x action) (hmeanwhile : ∀ query v, Reaches R v (R.meanwhile x query v)) :
      Reaches R w (R.act x w' action)
  | aside {w w' w'' : World σ} (hreaches : Reaches R w w') (haside : R.aside w' w'') :
      Reaches R w w''

namespace Regime.Reaches

variable {R : Regime σ}

/-- What every operation does to a wiki, if others do it meanwhile, a run does. -/
theorem induction {r : World σ → World σ → Prop} (hrefl : ∀ w, r w w)
    (htrans : ∀ {w w' w''}, r w w' → r w' w'' → r w w'')
    (hact : ∀ x action w, R.allows x action → (∀ query v, r v (R.meanwhile x query v)) →
      r w (R.act x w action))
    (haside : ∀ w w', R.aside w w' → r w w') (h : R.Reaches w w') : r w w' := by
  induction h with
  | refl w => exact hrefl w
  | act x action hreaches hallowed hmeanwhile ih ihmeanwhile =>
    exact htrans ih (hact x action _ hallowed ihmeanwhile)
  | aside hreaches hlater ih => exact htrans ih (haside _ _ hlater)

theorem invariant {p : World σ → Prop}
    (hact : ∀ x action w, R.allows x action → (∀ query v, p v → p (R.meanwhile x query v)) →
      p w → p (R.act x w action))
    (haside : ∀ w w', R.aside w w' → p w → p w') (h : R.Reaches w w') : p w → p w' :=
  h.induction (r := fun w w' => p w → p w') (fun _ => id) (fun h h' => h' ∘ h) hact haside

end Regime.Reaches

theorem Stable.act {e : Engine σ} {p : World σ → Prop} (h : Stable e.registry p)
    (hchanged : ∀ w o, Change w.ontology o → p w → p { w with ontology := o })
    (hparsed : ∀ w code text, p w → p (e.parse w code text).2)
    (hconsult : ∀ query v, p v → p (e.reasoner.consult query v).2) (hw : p w) (action : Action) :
    p (e.act w action) := by
  have hacting := e.acting w action
  generalize e.act w action = w' at hacting ⊢
  cases hacting with
  | changed o hchange => exact hchanged w o hchange hw
  | parsed code text => exact hparsed w code text hw
  | translated s code => exact h.worded e s code rfl hw
  | added s => exact h.addSentence hconsult s hw
  | checked => exact h.checkConsistency hconsult hw
  | answered s => exact h.answer hconsult s hw

/-! The use of a wiki, with any engine and any reasoner that works in its languages. -/

def Regime.ofLanguages (registry : Registry) : Regime σ where
  Setting := Engine σ
  allows e action := e.registry = registry ∧ action.offered = true
  act := Engine.act
  meanwhile e query w := (e.reasoner.consult query w).2
  aside w w' := w' = { w with memory := w'.memory }

/-- The engine may be set up anew for every operation, but for its languages. What a reasoner leaves
behind has come about by use as well, but for what it remembers. -/
def Use (registry : Registry) (w w' : World σ) : Prop := (Regime.ofLanguages registry).Reaches w w'

section Use

variable {registry : Registry}

theorem Use.act {e : Engine σ} (huse : Use registry w w') (hregistry : e.registry = registry)
    (hconsult : ∀ query v, Use registry v (e.reasoner.consult query v).2) (action : Action)
    (hoffered : action.offered = true) : Use registry w (e.act w' action) :=
  Regime.Reaches.act (R := Regime.ofLanguages registry) e action huse ⟨hregistry, hoffered⟩ hconsult

theorem Use.invariant {p : World σ → Prop}
    (hact : ∀ (e : Engine σ) action w, e.registry = registry → action.offered = true →
      (∀ query v, p v → p (e.reasoner.consult query v).2) → p w → p (e.act w action))
    (hmemory : ∀ w memory, p w → p { w with memory }) (huse : Use registry w w') (hw : p w) :
    p w' := by
  refine Regime.Reaches.invariant (R := Regime.ofLanguages registry) ?_ ?_ huse hw
  · exact fun e action w hallowed hconsult => hact e action w hallowed.1 hallowed.2 hconsult
  · intro w w' haside hw
    rw [haside]
    exact hmemory w _ hw

theorem stable_ontology {p : Ontology → Prop} (hchange : ∀ o o', Change o o' → p o → p o') :
    Stable registry fun w : World σ => p w.ontology where
  added s expected hw := hchange _ _ (addSentenceIf_change _ s expected) hw
  worded e s code _ hw := by rwa [Engine.translate, ontology_withHandler]
  noted _ _ hw := hw

theorem Use.ontology_induction {p : Ontology → Prop} (hchange : ∀ o o', Change o o' → p o → p o')
    (huse : Use registry w w') (hw : p w.ontology) : p w'.ontology := by
  refine Use.invariant (p := fun w => p w.ontology) (fun e action w hregistry _ hconsult hw => ?_)
    (fun _ _ hw => hw) huse hw
  refine (stable_ontology hchange).act (fun w o hchanged => hchange _ o hchanged) ?_ hconsult hw action
  intro w code text hw
  rwa [Engine.parse, ontology_withHandler]

end Use

end Engine

/-! A reasoner that keeps a record of what it has answered, which nothing depends on. -/

structure Consultation where
  query : Query
  answer : Except ReasonError Bool

abbrev RecordedWorld := World (List Consultation)

def World.note (w : RecordedWorld) (c : Consultation) : RecordedWorld :=
  { w with memory := c :: w.memory }

def Reasoner.among (name : String) (answer : Query → RecordedWorld → Except ReasonError Bool)
    (meanwhile : Query → RecordedWorld → RecordedWorld) : Reasoner (List Consultation) where
  name := name
  consult query w := (answer query w, (meanwhile query w).note ⟨query, answer query w⟩)

namespace Engine

/-- The engine as one operation finds it: how its reasoner will answer, what others will do meanwhile,
and how many attempts there are for an addition. -/
def among (e : Engine (List Consultation)) (attempts : Nat)
    (answer : Query → RecordedWorld → Except ReasonError Bool)
    (meanwhile : Query → RecordedWorld → RecordedWorld) : Engine (List Consultation) :=
  { e with
    config := { e.config with maxCommitRetries := attempts }
    reasoner := .among e.reasoner.name answer meanwhile }

structure Circumstances where
  attempts : Nat
  answer : Query → RecordedWorld → Except ReasonError Bool
  meanwhile : Query → RecordedWorld → RecordedWorld

def inCircumstances (e : Engine (List Consultation)) (c : Circumstances) : Engine (List Consultation) :=
  e.among c.attempts c.answer c.meanwhile

def Regime.ofEngine (e : Engine (List Consultation)) (allows : Circumstances → Action → Prop) :
    Regime (List Consultation) where
  Setting := Circumstances
  allows := allows
  act c := (e.inCircumstances c).act
  meanwhile := Circumstances.meanwhile
  aside _ _ := False

/-- An addition may have any number of attempts, so that the states in which one is still under way are
reached too: it has had fewer. -/
def Run (e : Engine (List Consultation)) (Replies : Query → Except ReasonError Bool → Prop)
    (w w' : RecordedWorld) : Prop :=
  (Regime.ofEngine e fun c action =>
    action.offered = true ∧ ∀ query v, Replies query (c.answer query v)).Reaches w w'

/-- The ontology may also be worked on directly, with words that nobody has checked. -/
def Course (e : Engine (List Consultation)) (w w' : RecordedWorld) : Prop :=
  (Regime.ofEngine e fun _ _ => True).Reaches w w'

section Recorded

variable {e : Engine (List Consultation)} {w w' : RecordedWorld}
  {Replies : Query → Except ReasonError Bool → Prop} {r : RecordedWorld → RecordedWorld → Prop}

theorem Run.act (hrun : e.Run Replies w w') (c : Circumstances)
    (hreplies : ∀ query v, Replies query (c.answer query v))
    (hmeanwhile : ∀ query v, e.Run Replies v (c.meanwhile query v)) (action : Action)
    (hoffered : action.offered = true) : e.Run Replies w ((e.inCircumstances c).act w' action) :=
  Regime.Reaches.act (R := Regime.ofEngine e _) c action hrun ⟨hoffered, hreplies⟩ hmeanwhile

theorem Run.induction (hrefl : ∀ w, r w w) (htrans : ∀ {w w' w''}, r w w' → r w' w'' → r w w'')
    (hact : ∀ (c : Circumstances) action w, action.offered = true →
      (∀ query v, Replies query (c.answer query v)) → (∀ query v, r v (c.meanwhile query v)) →
      r w ((e.inCircumstances c).act w action))
    (hrun : e.Run Replies w w') : r w w' :=
  Regime.Reaches.induction (R := Regime.ofEngine e _) hrefl htrans
    (fun c action w hallowed hmeanwhile => hact c action w hallowed.1 hallowed.2 hmeanwhile)
    (fun _ _ haside => haside.elim) hrun

theorem Course.act (hcourse : e.Course w w') (c : Circumstances)
    (hmeanwhile : ∀ query v, e.Course v (c.meanwhile query v)) (action : Action) :
    e.Course w ((e.inCircumstances c).act w' action) :=
  Regime.Reaches.act (R := Regime.ofEngine e _) c action hcourse trivial hmeanwhile

theorem Course.induction (hrefl : ∀ w, r w w) (htrans : ∀ {w w' w''}, r w w' → r w' w'' → r w w'')
    (hact : ∀ (c : Circumstances) action w, (∀ query v, r v (c.meanwhile query v)) →
      r w ((e.inCircumstances c).act w action))
    (hcourse : e.Course w w') : r w w' :=
  Regime.Reaches.induction (R := Regime.ofEngine e _) hrefl htrans
    (fun c action w _ hmeanwhile => hact c action w hmeanwhile) (fun _ _ haside => haside.elim) hcourse

def nothingMeanwhile (_ : Query) (w : RecordedWorld) : RecordedWorld := w

def Circumstances.alone : Circumstances := ⟨3, fun _ _ => .ok true, nothingMeanwhile⟩

theorem Course.alone (hcourse : e.Course w w') (action : Action) :
    e.Course w ((e.inCircumstances .alone).act w' action) :=
  hcourse.act .alone (fun _ v => .refl v) action

end Recorded

/-! Two nouns that somebody has registered, a sentence about them, and an engine with default settings
whose reasoner approves of everything. -/

def bird : ElementId := ⟨.first⟩
def being : ElementId := ⟨bird.toSerial.succ⟩

def everyBirdIsABeing : Sentence := .assertion (.subsumption bird being) "en"

def birdAndBeing : List Ontology.Operation := [
  .commit bird .concept [.word "bird", .word "birds"],
  .commit being .concept [.word "being", .word "beings"]]

def approving : Engine (List Consultation) where
  config := {}
  registry := .builtin
  languages := ["en"]
  reasoner := .among "approving" (fun _ _ => .ok true) nothingMeanwhile
  exporters := []

end Engine

end SemanticWiki
