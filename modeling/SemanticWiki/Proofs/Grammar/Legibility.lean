import SemanticWiki.Grammar.Language.English
import SemanticWiki.Grammar.Language.German
import SemanticWiki.Grammar.Language.Spanish
import SemanticWiki.Proofs.Except
import SemanticWiki.Proofs.Grammar.Joining
import SemanticWiki.Proofs.Grammar.Spelling

/-! Languages whose own sentences they can read. A language is legible if everything it writes of
its own accord is read back as one token, and if its rules fill the positions that their
construction needs. Then what a rule writes about some elements it spells for the same elements. -/

namespace SemanticWiki

def Piece.tokens (p : Piece) : List String := (Grammar.tokens p.text).map String.ofList

namespace Language

def legibleSpellings : List String → Bool
  | [] => false
  | t :: _ => Grammar.tokenize t == [t] && decide (Piece.FirstLetterBasic t.toList)

def legibleItem : Item → Bool
  | .keyword spellings => legibleSpellings spellings
  | .mark text => text.toList.length == 1 &&
      text.toList.all fun m => Grammar.isLeadingMark m || Grammar.isTrailingMark m
  | .indefinite _ | .name _ | .word _ _ => true

def isRelational : Construct → Bool
  | .verbRelation | .adjectiveRelation => true
  | .subsumption | .disjointness | .membership | .nonMembership => false

def isComplete (r : Rule) : Bool :=
  let roles := r.items.filterMap Item.role?
  roles.contains .subject && roles.contains .object &&
    (!isRelational r.construct || roles.contains .relation)

def legibleIndefinite : Indefinite → Bool
  | .bySound => true
  | .fixed spellings => legibleSpellings spellings

def legible (g : Language) : Bool :=
  g.rules.all (fun r => r.items.all legibleItem && isComplete r) &&
    legibleSpellings g.definite && legibleIndefinite g.indefinite

theorem english_legible : english.legible = true := by decide +kernel

theorem german_legible : german.legible = true := by decide +kernel

theorem spanish_legible : spanish.legible = true := by decide +kernel

theorem legible_renamed (g : Language) (code name : String) :
    (g.renamed code name).legible = g.legible := rfl

theorem exists_written {spellings : List String} (h : legibleSpellings spellings = true) :
    ∃ t rest, spellings = t :: rest ∧
      Grammar.tokenize t = [t] ∧ Piece.FirstLetterBasic t.toList := by
  cases spellings with
  | nil => simp [legibleSpellings] at h
  | cons t rest =>
    simp only [legibleSpellings, Bool.and_eq_true, beq_iff_eq, decide_eq_true_eq] at h
    exact ⟨t, rest, rfl, h⟩

theorem exists_mark {text : String} (h : legibleItem (.mark text) = true) :
    ∃ m, text.toList = [m] ∧ (Grammar.isLeadingMark m || Grammar.isTrailingMark m) = true := by
  simp only [legibleItem, Bool.and_eq_true, beq_iff_eq] at h
  obtain ⟨m, hm⟩ := List.length_eq_one_iff.1 h.1
  rw [hm] at h
  exact ⟨m, hm, by simpa using h.2⟩

theorem article_eq (noun : String) :
    Grammar.article noun = "a" ∨ Grammar.article noun = "an" := by
  simp only [Grammar.article]
  split
  · rename_i hfind
    have hmem := List.mem_of_find?_eq_some hfind
    simp only [Grammar.articleExceptions, List.mem_cons, List.not_mem_nil, Prod.mk.injEq] at hmem
    tauto
  · split <;> simp

end Language

namespace Piece

def Sound (p : Piece) : Prop := p.WellMarked ∧ FirstLetterBasic p.text

theorem sound_text {t : String} (h : FirstLetterBasic t.toList) : Sound ⟨t.toList, false⟩ :=
  ⟨fun hmark => absurd hmark (by simp), h⟩

theorem flatMap_tokens_text (t : String) (isMark : Bool) :
    [(⟨t.toList, isMark⟩ : Piece)].flatMap tokens = Grammar.tokenize t := List.flatMap_singleton ..

theorem sound_mark {text : String} {m : Char} (htext : text.toList = [m])
    (hm : (Grammar.isLeadingMark m || Grammar.isTrailingMark m) = true) :
    Sound ⟨text.toList, true⟩ ∧ Grammar.tokenize text = [text] := by
  obtain ⟨hletter, hmark⟩ := mark_spec hm
  refine ⟨⟨fun _ => ⟨m, htext, hm⟩, ?_⟩, ?_⟩
  · intro d hd
    simp [htext, hletter] at hd
  · rw [Grammar.tokenize, htext, hmark, ← htext, List.map_singleton, String.ofList_toList]

end Piece

def LexIndex.Readable (index : LexIndex) : Prop :=
  ∀ id cat surface, index.surface? id cat = some surface →
    Piece.FirstLetterBasic surface.toList ∧ index.Lists id cat (Grammar.tokenize surface)

namespace Language

variable {g : Language} {index : LexIndex} {c : Binding}

theorem argument_ok {role : Role} {cat : Cat} {id : ElementId}
    (h : g.argument c role cat = .ok id) : c.get? role = some id := by
  unfold argument at h
  cases hrole : c.get? role with
  | none => simp [hrole] at h
  | some other => simpa [hrole] using h

theorem surface_ok {cat : Cat} {id : ElementId} {surface : String}
    (h : g.surface index cat id = .ok surface) : index.surface? id cat = some surface := by
  unfold Language.surface at h
  cases hform : index.surface? id cat with
  | none => simp [hform] at h
  | some other => simpa [hform] using h

theorem legible_iff : g.legible = true ↔
    (∀ r ∈ g.rules, (∀ item ∈ r.items, legibleItem item = true) ∧ isComplete r = true) ∧
      legibleSpellings g.definite = true ∧ legibleIndefinite g.indefinite = true := by
  simp only [legible, Bool.and_eq_true, List.all_eq_true, and_assoc]

theorem indefinite_ok (hg : g.legible = true) {role : Role} {pieces : List Piece}
    (h : g.piecesOfItem index c (.indefinite role) = .ok pieces) :
    ∃ t, pieces = [⟨t.toList, false⟩] ∧ g.isIndefinite t = true ∧ Grammar.tokenize t = [t] ∧
      Piece.FirstLetterBasic t.toList := by
  obtain ⟨-, -, hindefinite⟩ := legible_iff.1 hg
  simp only [piecesOfItem] at h
  cases hspelled : g.indefinite with
  | fixed spellings =>
    rw [hspelled] at h hindefinite
    obtain ⟨t, rest, rfl, htokens, hfirst⟩ := exists_written hindefinite
    refine ⟨t, (Except.ok.inj h).symm, ?_, htokens, hfirst⟩
    simp [isIndefinite, hspelled]
  | bySound =>
    rw [hspelled] at h
    obtain ⟨id, -, h⟩ := bind_ok h
    obtain ⟨noun, -, h⟩ := bind_ok h
    obtain rfl := Except.ok.inj h
    refine ⟨_, rfl, ?_⟩
    simp only [isIndefinite, hspelled]
    rcases article_eq noun with harticle | harticle <;> rw [harticle] <;> decide

theorem spells_piecesOfItem (hg : g.legible = true) (hindex : index.Readable) {item : Item}
    (hitem : legibleItem item = true) {pieces : List Piece}
    (h : g.piecesOfItem index c item = .ok pieces) :
    (∀ p ∈ pieces, p.Sound) ∧ ∀ {items rest}, Spells g index c items rest →
      Spells g index c (item :: items) (pieces.flatMap Piece.tokens ++ rest) := by
  cases item with
  | keyword spellings =>
    obtain ⟨t, others, rfl, htokens, hfirst⟩ := exists_written hitem
    obtain rfl := Except.ok.inj h
    rw [Piece.flatMap_tokens_text, htokens]
    exact ⟨by simpa using Piece.sound_text hfirst, .keyword List.mem_cons_self⟩
  | mark text =>
    obtain ⟨m, htext, hm⟩ := exists_mark hitem
    obtain ⟨hsound, htokens⟩ := Piece.sound_mark htext hm
    obtain rfl := Except.ok.inj h
    rw [Piece.flatMap_tokens_text, htokens]
    exact ⟨by simpa using hsound, .mark⟩
  | indefinite role =>
    obtain ⟨t, rfl, ht, htokens, hfirst⟩ := indefinite_ok hg h
    rw [Piece.flatMap_tokens_text, htokens]
    exact ⟨by simpa using Piece.sound_text hfirst, .indefinite ht⟩
  | name role =>
    obtain ⟨id, hrole, h⟩ := bind_ok h
    obtain ⟨name, hname, h⟩ := bind_ok h
    obtain ⟨hfirst, hlists⟩ := hindex id .properName name (surface_ok hname)
    have hrole := argument_ok hrole
    obtain rfl := Except.ok.inj h
    rw [List.map_append, List.flatMap_append, List.map_singleton, Piece.flatMap_tokens_text]
    by_cases hdefinite : index.isDefinite id = true
    · obtain ⟨t, others, hspelled, htokens, harticle⟩ := exists_written (legible_iff.1 hg).2.1
      have ht : t ∈ g.definite := hspelled ▸ List.mem_cons_self
      rw [if_pos hdefinite, hspelled, List.head?_cons, Option.toList_some, List.map_singleton,
        Piece.flatMap_tokens_text, htokens]
      refine ⟨?_, fun hspells => ?_⟩
      · simpa using ⟨Piece.sound_text harticle, Piece.sound_text hfirst⟩
      · exact .definiteName ht hrole hlists hspells
    · rw [if_neg hdefinite]
      exact ⟨by simpa using Piece.sound_text hfirst, .name hrole hlists⟩
  | word role cat =>
    obtain ⟨id, hrole, h⟩ := bind_ok h
    obtain ⟨word, hword, h⟩ := bind_ok h
    obtain ⟨hfirst, hlists⟩ := hindex id cat word (surface_ok hword)
    obtain rfl := Except.ok.inj h
    rw [Piece.flatMap_tokens_text]
    exact ⟨by simpa using Piece.sound_text hfirst, .word (argument_ok hrole) hlists⟩

theorem spells_piecesOfItems (hg : g.legible = true) (hindex : index.Readable)
    {items : List Item} (hitems : ∀ item ∈ items, legibleItem item = true)
    {pieces : List Piece} (h : g.piecesOfItems index c items = .ok pieces) :
    (∀ p ∈ pieces, p.Sound) ∧ Spells g index c items (pieces.flatMap Piece.tokens) := by
  induction items generalizing pieces with
  | nil =>
    obtain rfl := Except.ok.inj h
    exact ⟨by simp, .nil⟩
  | cons item items ih =>
    obtain ⟨first, hfirst, h⟩ := bind_ok h
    obtain ⟨rest, hrest, h⟩ := bind_ok h
    obtain rfl := Except.ok.inj h
    obtain ⟨hsound, hstep⟩ := spells_piecesOfItem hg hindex (hitems item List.mem_cons_self) hfirst
    obtain ⟨hsounds, hspells⟩ := ih (fun i hi => hitems i (List.mem_cons_of_mem item hi)) hrest
    refine ⟨fun p hp => ?_, ?_⟩
    · exact (List.mem_append.1 hp).elim (hsound p) (hsounds p)
    · rw [List.flatMap_append]
      exact hstep hspells

end Language

end SemanticWiki
