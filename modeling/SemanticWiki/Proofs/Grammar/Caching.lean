import Mathlib.Data.List.Basic
import SemanticWiki.Grammar.Language.English
import SemanticWiki.Proofs.Grammar.Freshness
import SemanticWiki.Proofs.Grammar.Lookup
import SemanticWiki.Proofs.Ontology.WordIndex

/-! Handlers at work while the ontology changes. However changes and requests follow one another, the
handlers reply as languages do that keep no index at all, so nobody can tell that one is kept. -/

namespace SemanticWiki

open Ontology

inductive Request where
  | lexicon
  | refresh
  | parse (text : String)
  | render (s : Sentence)

inductive Reply where
  | index (index : LexIndex)
  | sentence (result : Except GrammarError Sentence)
  | text (result : Except GrammarError String)
deriving DecidableEq

def Handler.reply (h : Handler) (o : Ontology) : Request → Reply × Handler
  | .lexicon => (.index (h.lexicon o).1, (h.lexicon o).2)
  | .refresh => (.index (h.refresh o).1, (h.refresh o).2)
  | .parse text => (.sentence (h.parse o text).1, (h.parse o text).2)
  | .render s => (.text (h.render o s).1, (h.render o s).2)

namespace ConcreteGrammar

def indexOf (g : ConcreteGrammar) (o : Ontology) : LexIndex := g.index o.revision o.elements

def parseNow (g : ConcreteGrammar) (o : Ontology) (text : String) : Except GrammarError Sentence :=
  (g.parse (g.indexOf o) text).map fun (s, question) => ⟨s, question, g.code⟩

theorem parseNow_ok {g : ConcreteGrammar} {o : Ontology} {text : String} {s : Sentence}
    (h : g.parseNow o text = .ok s) :
    ∃ reading, g.parse (g.indexOf o) text = .ok reading ∧ s = ⟨reading.1, reading.2, g.code⟩ := by
  unfold parseNow at h
  cases hparse : g.parse (g.indexOf o) text with
  | error error =>
    rw [hparse] at h
    cases h
  | ok reading =>
    rw [hparse] at h
    exact ⟨reading, rfl, (Except.ok.inj h).symm⟩

def renderNow (g : ConcreteGrammar) (o : Ontology) (s : Sentence) : Except GrammarError String :=
  g.linearize (g.indexOf o) s.statement s.question

def reply (g : ConcreteGrammar) (o : Ontology) : Request → Reply
  | .lexicon | .refresh => .index (g.indexOf o)
  | .parse text => .sentence (g.parseNow o text)
  | .render s => .text (g.renderNow o s)

end ConcreteGrammar

structure Workshop where
  ontology : Ontology
  handlers : List Handler

inductive Event where
  | change (operation : Operation)
  | join (g : ConcreteGrammar)
  | ask (position : Nat) (request : Request)

namespace Workshop

def handle (w : Workshop) : Event → Option Reply × Workshop
  | .change operation => (none, { w with ontology := w.ontology.perform operation })
  | .join g => (none, { w with handlers := w.handlers ++ [.new g] })
  | .ask position request =>
    match w.handlers[position]? with
    | none => (none, w)
    | some h =>
      let (reply, h) := h.reply w.ontology request
      (some reply, { w with handlers := w.handlers.set position h })

def after (w : Workshop) (events : List Event) : Workshop :=
  events.foldl (fun w event => (w.handle event).2) w

def replies : Workshop → List Event → List (Option Reply)
  | _, [] => []
  | w, event :: rest => (w.handle event).1 :: replies (w.handle event).2 rest

end Workshop

def plainReplies : Ontology → List ConcreteGrammar → List Event → List (Option Reply)
  | _, _, [] => []
  | o, languages, .change operation :: rest =>
    none :: plainReplies (o.perform operation) languages rest
  | o, languages, .join g :: rest => none :: plainReplies o (languages ++ [g]) rest
  | o, languages, .ask position request :: rest =>
    languages[position]?.map (·.reply o request) :: plainReplies o languages rest

theorem Handler.Fresh.reply {h : Handler} {o : Ontology} (hfresh : h.Fresh o)
    (request : Request) :
    (h.reply o request).1 = h.language.reply o request ∧
      (h.reply o request).2.language = h.language ∧ (h.reply o request).2.Fresh o := by
  obtain ⟨hindex, hlanguage, hlater⟩ := hfresh.lexicon
  cases request with
  | lexicon => exact ⟨congrArg Reply.index hindex, hlanguage, hlater⟩
  | refresh => exact ⟨rfl, hfresh.refresh⟩
  | parse text =>
    refine ⟨?_, hlanguage, hlater⟩
    show Reply.sentence (((h.lexicon o).2.language.parse (h.lexicon o).1 text).map
      fun (s, question) => ⟨s, question, (h.lexicon o).2.language.code⟩) = _
    rw [hindex, hlanguage]
    rfl
  | render s =>
    refine ⟨?_, hlanguage, hlater⟩
    show Reply.text ((h.lexicon o).2.language.linearize (h.lexicon o).1 s.statement s.question) = _
    rw [hindex, hlanguage]
    rfl

namespace Workshop

variable {w : Workshop}

/-- Nobody works with a wrong index. -/
def Fresh (w : Workshop) : Prop := ∀ h ∈ w.handlers, h.Fresh w.ontology

theorem fresh_empty (o : Ontology) : Fresh ⟨o, []⟩ := fun _ hh => absurd hh List.not_mem_nil

theorem Fresh.change (hfresh : w.Fresh) (operation : Operation) :
    Fresh { w with ontology := w.ontology.perform operation } := by
  intro h hh
  have hchange : Change w.ontology (w.ontology.perform operation) :=
    w.ontology.perform_change operation
  exact (hfresh h hh).of_precedes hchange.precedes

theorem Fresh.join (hfresh : w.Fresh) (g : ConcreteGrammar) :
    Fresh { w with handlers := w.handlers ++ [.new g] } := by
  intro h hh
  rcases List.mem_append.1 hh with hold | hnew
  · exact hfresh h hold
  · obtain rfl := List.mem_singleton.1 hnew
    exact Handler.fresh_new g w.ontology

theorem Fresh.set (hfresh : w.Fresh) (position : Nat) {h : Handler} (hh : h.Fresh w.ontology) :
    Fresh { w with handlers := w.handlers.set position h } := by
  intro g hg
  rcases List.mem_or_eq_of_mem_set hg with hold | rfl
  · exact hfresh g hold
  · exact hh

theorem Fresh.handle (hfresh : w.Fresh) (event : Event) : (w.handle event).2.Fresh := by
  cases event with
  | change operation => exact hfresh.change operation
  | join g => exact hfresh.join g
  | ask position request =>
    unfold Workshop.handle
    dsimp only
    split
    · exact hfresh
    · rename_i h hfound
      have hh : h.Fresh w.ontology := hfresh h (List.mem_of_getElem? hfound)
      exact hfresh.set position (hh.reply request).2.2

theorem Fresh.after (hfresh : w.Fresh) (events : List Event) : (w.after events).Fresh := by
  induction events generalizing w with
  | nil => exact hfresh
  | cons event rest ih => exact ih (hfresh.handle event)

theorem ontology_after (w : Workshop) (events : List Event) :
    ∃ operations, (w.after events).ontology = w.ontology.run operations := by
  induction events generalizing w with
  | nil => exact ⟨[], rfl⟩
  | cons event rest ih =>
    obtain ⟨operations, hrest⟩ := ih (w.handle event).2
    cases event with
    | change operation => exact ⟨operation :: operations, hrest⟩
    | join g => exact ⟨operations, hrest⟩
    | ask position request =>
      refine ⟨operations, hrest.trans ?_⟩
      unfold handle
      dsimp only
      split <;> rfl

theorem languages_set {handlers : List Handler} {position : Nat} {h h' : Handler}
    (hfound : handlers[position]? = some h) (hlanguage : h'.language = h.language) :
    (handlers.set position h').map (·.language) = handlers.map (·.language) := by
  rw [List.map_set, hlanguage]
  apply List.ext_getElem?
  intro i
  by_cases hi : position = i
  · subst hi
    obtain ⟨hlt, hat⟩ := List.getElem?_eq_some_iff.1 hfound
    simp [hlt, hat]
  · rw [List.getElem?_set_ne hi]

theorem Fresh.replies (hfresh : w.Fresh) (events : List Event) :
    w.replies events = plainReplies w.ontology (w.handlers.map (·.language)) events := by
  induction events generalizing w with
  | nil => rfl
  | cons event rest ih =>
    -- the handlers are fresh after the event, so only the one reply is left to compare
    have hrest := ih (hfresh.handle event)
    rw [Workshop.replies, hrest]
    cases event with
    | change operation => rfl
    | join g =>
      show none :: plainReplies w.ontology ((w.handlers ++ [Handler.new g]).map (·.language)) rest = _
      rw [List.map_append]
      rfl
    | ask position request =>
      unfold Workshop.handle
      dsimp only
      rw [plainReplies, List.getElem?_map]
      cases hfound : w.handlers[position]? with
      | none => rfl
      | some h =>
        have hh : h.Fresh w.ontology := hfresh h (List.mem_of_getElem? hfound)
        obtain ⟨hreply, hlanguage, -⟩ := hh.reply request
        dsimp only
        rw [hreply, languages_set hfound hlanguage]
        rfl

end Workshop

theorem LexIndex.surface?_of_get? {o : Ontology} (hascending : Ascending o.elements)
    {inflect : Cat → String → String} {revision : Nat} {e : Element} {cat : Cat}
    (hcat : cat.kind = e.kind) (hget : o.get? e.id = some e) :
    (ofForms inflect revision o.elements).surface? e.id cat =
      (entryIn? inflect e cat).map (·.surface) := by
  have hlisted {entry : LexEntry} (hentry : entry ∈ (ofForms inflect revision o.elements).entries)
      (hid : entry.id = e.id) (hsame : entry.cat = cat) : entryIn? inflect e cat = some entry := by
    obtain ⟨f, hf, cat', -, hentry⟩ := mem_entries_ofForms.1 hentry
    obtain ⟨-, rfl, -⟩ := entryIn?_eq_some_iff.1 hentry
    obtain rfl : cat' = cat := hsame
    obtain rfl : e = f := Option.some.inj (hget.symm.trans (hid ▸ get?_of_mem hascending hf))
    exact hentry
  unfold surface?
  cases hfind : (ofForms inflect revision o.elements).entries.reverse.find?
      fun entry => entry.id == e.id && entry.cat == cat with
  | some entry =>
    have hkey := List.find?_some hfind
    simp only [Bool.and_eq_true, beq_iff_eq] at hkey
    rw [hlisted (List.mem_reverse.1 (List.mem_of_find?_eq_some hfind)) hkey.1 hkey.2]
  | none =>
    cases hentry : entryIn? inflect e cat with
    | none => rfl
    | some entry =>
      have hmem : entry ∈ (ofForms inflect revision o.elements).entries :=
        mem_entries_ofForms.2 ⟨e, mem_of_get? hget, cat, hcat, hentry⟩
      obtain ⟨-, rfl, -⟩ := entryIn?_eq_some_iff.1 hentry
      have hnot := List.find?_eq_none.1 hfind _ (List.mem_reverse.2 hmem)
      simp at hnot

theorem Ontology.get?_of_commit {o : Ontology} {id : ElementId} {kind : Kind}
    {values : List Value} {revision : Nat} (h : (o.commit id kind values).1 = .ok revision) :
    (o.commit id kind values).2.get? id = some ⟨id, kind, values⟩ := by
  have hends := o.commit_commitment id kind values
  generalize o.commit id kind values = result at hends h ⊢
  cases hends with
  | refused error hrefused => cases h
  | unchanged haccepts hsame => exact hsame
  | stored haccepts hnew =>
    rw [get?_store]
    exact if_pos rfl

/-- The replies are compared to those of languages that keep nothing. -/
theorem caching_invisible (name baseIri : String) (events : List Event) :
    let start : Workshop := ⟨.new name baseIri, []⟩
    let now := start.after events
    start.replies events = plainReplies start.ontology [] events ∧
    ∀ h ∈ now.handlers,
      (h.lexicon now.ontology).1 =
        h.language.index now.ontology.revision now.ontology.elements ∧
      (∀ text, (h.parse now.ontology text).1 = h.language.parseNow now.ontology text) ∧
      (∀ s, (h.render now.ontology s).1 = h.language.renderNow now.ontology s) ∧
      ∀ id kind values revision,
        (now.ontology.commit id kind values).1 = .ok revision →
        ∀ cat ∈ Cat.ofKind kind,
          (h.lexicon (now.ontology.commit id kind values).2).1.surface? id cat =
            (LexIndex.entryIn? h.language.inflect ⟨id, kind, values⟩ cat).map (·.surface) := by
  intro start now
  have hstart : start.Fresh := Workshop.fresh_empty _
  have hnow : now.Fresh := hstart.after events
  refine ⟨hstart.replies events, fun h hh => ?_⟩
  have hfresh : h.Fresh now.ontology := hnow h hh
  refine ⟨hfresh.lexicon.1, ?_, ?_, ?_⟩
  · intro text
    exact Reply.sentence.inj (hfresh.reply (.parse text)).1
  · intro s
    exact Reply.text.inj (hfresh.reply (.render s)).1
  · intro id kind values revision hcommit cat hcat
    have hchange := now.ontology.commit_change id kind values
    have hindexed : Indexed (now.ontology.commit id kind values).2 := by
      obtain ⟨operations, hoperations⟩ := start.ontology_after events
      have hrun : Indexed (start.ontology.run operations) :=
        run_induction (fun _ _ hchange => hchange.indexed) (indexed_new name baseIri) operations
      exact hchange.indexed (hoperations ▸ hrun)
    have hget : (now.ontology.commit id kind values).2.get? id = some ⟨id, kind, values⟩ :=
      get?_of_commit hcommit
    obtain ⟨hindex, -⟩ := (hfresh.of_precedes hchange.precedes).lexicon
    rw [hindex]
    have hkind : cat.kind = kind := LexIndex.mem_ofKind.1 hcat
    exact LexIndex.surface?_of_get? (e := ⟨id, kind, values⟩) hindexed.ascending hkind hget

/-! A noun is renamed between two readings of one sentence. -/

namespace Workshop

def man : ElementId := ⟨.first⟩
def human : ElementId := ⟨man.toSerial.succ⟩

def everyManIsAHuman : Sentence := .assertion (.subsumption man human) "en"

def manRenamed : List Event := [
  .join Language.english,
  .change (.commit man .concept [.word "man", .word "men"]),
  .change (.commit human .concept [.word "human", .word "humans"]),
  .ask 0 (.parse "Every man is a human."),
  .change (.commit man .concept [.word "person", .word "persons"]),
  .ask 0 (.parse "Every man is a human."),
  .ask 0 (.parse "Every person is a human.")]

theorem renamed_man_seen_at_once :
    let start : Workshop := ⟨.new "wiki" "http://example.org/", []⟩
    let now := start.after manRenamed
    let again := now.ontology.commit man .concept [.word "adult", .word "adults"]
    start.replies manRenamed =
      [none, none, none, some (.sentence (.ok everyManIsAHuman)), none,
        some (.sentence (.error (.parseFailed "Every man is a human." "en"))),
        some (.sentence (.ok everyManIsAHuman))] ∧
    now.handlers.map (·.language) = [Language.english.toGrammar] ∧
    ∀ h ∈ now.handlers, (h.lexicon again.2).1.surface? man .nounPl = some "adults" := by
  intro start now again
  obtain ⟨hreplies, hhandlers⟩ := caching_invisible "wiki" "http://example.org/" manRenamed
  have hlanguages : now.handlers.map (·.language) = [Language.english.toGrammar] := rfl
  refine ⟨?_, hlanguages, fun h hh => ?_⟩
  · rw [hreplies]
    decide +kernel
  · have hlanguage : h.language ∈ [Language.english.toGrammar] := hlanguages ▸ List.mem_map_of_mem hh
    obtain ⟨-, -, -, hshown⟩ := hhandlers h hh
    have hcommitted : again.1 = .ok 4 := by decide +kernel
    rw [hshown man .concept _ 4 hcommitted .nounPl (by decide), List.mem_singleton.1 hlanguage]
    decide +kernel

end Workshop

end SemanticWiki
