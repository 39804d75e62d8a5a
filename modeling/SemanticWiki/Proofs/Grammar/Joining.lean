import SemanticWiki.Proofs.Grammar.Token
import SemanticWiki.Grammar.Wording

/-! What a reader sees of a joined text. Spaces, marks that lean on their neighbours and the capital
at the start of the sentence never merge, split or change a token: the tokens of the text are those
of its pieces. -/

namespace SemanticWiki.Piece

open Text Grammar

/-- The capital of the letter is one character, which reads like the letter. -/
def HasPlainCapital (c : Char) : Prop := ∃ d, upperChar c = [d] ∧ ReadAlike c d

def FirstLetterPlain (text : List Char) : Prop := ∀ c ∈ text.find? isLetter, HasPlainCapital c

def FirstLetterBasic (text : List Char) : Prop := ∀ c ∈ text.find? isLetter, c.toNat < 0x80

instance (text : List Char) : Decidable (FirstLetterBasic text) :=
  decidable_of_iff ((text.find? isLetter).all fun c => c.toNat < 0x80)
    (by simp [FirstLetterBasic, Option.all_eq_true])

theorem firstLetterBasic_cons {c : Char} (hletter : isLetter c = true) (hc : c.toNat < 0x80)
    (rest : List Char) : FirstLetterBasic (c :: rest) := by
  intro d hd
  rw [List.find?_cons_of_pos hletter] at hd
  exact Option.some.inj hd ▸ hc

theorem asciiLower_upperChar {c : Char} (hc : c.toNat < 0x80) :
    asciiLower (upperChar c) = [c.toLower] :=
  forall_basic (p := fun c => asciiLower (upperChar c) = [c.toLower]) (by decide) hc

theorem hasPlainCapital_of_basic {c : Char} (hc : c.toNat < 0x80) : HasPlainCapital c := by
  have hupper : upperChar c = [c.toUpper] ∧ ReadAlike c c.toUpper :=
    forall_basic (p := fun c => upperChar c = [c.toUpper] ∧ ReadAlike c c.toUpper) (by decide) hc
  exact ⟨c.toUpper, hupper⟩

theorem FirstLetterBasic.plain {text : List Char} (h : FirstLetterBasic text) :
    FirstLetterPlain text := fun c hc => hasPlainCapital_of_basic (h c hc)

theorem tokens_capitalizeFirstLetter {text : List Char} (h : FirstLetterPlain text) :
    tokens (capitalizeFirstLetter text) = tokens text := by
  have hcut := List.takeWhile_append_dropWhile (p := (!isLetter ·)) (l := text)
  have hfirst : text.find? isLetter = (text.dropWhile (!isLetter ·)).head? :=
    List.find?_eq_head?_dropWhile_not ..
  rw [capitalizeFirstLetter]
  cases hrest : text.dropWhile (!isLetter ·) with
  | nil =>
    rw [hrest, List.append_nil] at hcut
    rw [capitalize, List.append_nil, hcut]
  | cons c rest =>
    rw [hrest] at hcut hfirst
    obtain ⟨d, hcapital, halike⟩ := h c hfirst
    rw [capitalize, hcapital, List.singleton_append, tokens_replace halike, hcut]

/-- Text that can be attached to `text` without changing a token of either. -/
def Separable (text : List Char) : Prop :=
  ∀ more, tokens (text ++ more) = tokens text ++ tokens more

theorem separable_nil : Separable [] := fun _ => rfl

theorem tokens_concat_space (text : List Char) : tokens (text ++ [' ']) = tokens text := by
  rw [tokens_append_blank (by decide)]
  exact List.append_nil _

theorem separable_concat_space (text : List Char) : Separable (text ++ [' ']) := by
  intro more
  rw [tokens_concat_space, List.append_assoc, List.singleton_append,
    tokens_append_blank (by decide)]

theorem Separable.concat_leadingMark {text : List Char} (h : Separable text) {m : Char}
    (hm : isLeadingMark m = true) : Separable (text ++ [m]) := by
  intro more
  have hmark : tokens [m] = [[m]] := tokens_cons_leadingMark hm []
  rw [List.append_assoc, List.singleton_append, h, h, tokens_cons_leadingMark hm, hmark,
    List.append_assoc, List.singleton_append]

def WellMarked (p : Piece) : Prop :=
  p.isMark = true → ∃ m, p.text = [m] ∧ (isLeadingMark m || isTrailingMark m) = true

theorem mark_spec {m : Char} (hm : (isLeadingMark m || isTrailingMark m) = true) :
    isLetter m = false ∧ tokens [m] = [[m]] := by
  let p (m : Char) : Prop := isLetter m = false ∧ tokens [m] = [[m]]
  rcases Bool.or_eq_true_iff.1 hm with hlead | htrail
  · exact forall_leadingMark (p := p) (by decide) hlead
  · exact forall_trailingMark (p := p) (by decide) htrail

theorem opening_mark {p : Piece} (hp : p.isOpening = true) :
    ∃ m, p.text = [m] ∧ isLeadingMark m = true := by
  simp only [isOpening, Bool.and_eq_true, Bool.or_eq_true, beq_iff_eq] at hp
  rcases hp.2 with hp | hp
  · exact ⟨'¿', hp, rfl⟩
  · exact ⟨'¡', hp, rfl⟩

theorem WellMarked.closing_mark {p : Piece} (h : p.WellMarked) (hp : p.isClosing = true) :
    ∃ m, p.text = [m] ∧ isTrailingMark m = true := by
  simp only [isClosing, Bool.and_eq_true, Bool.not_eq_true'] at hp
  obtain ⟨hmark, hopen⟩ := hp
  obtain ⟨m, hm, hside⟩ := h hmark
  have hlead : isLeadingMark m = false := by
    simpa [isOpening, hmark, hm, isLeadingMark] using hopen
  exact ⟨m, hm, by simpa [hlead] using hside⟩

/-- One piece is appended. Behind an opening mark and at the start there is no space, and none is
needed; everywhere else a space or the mark itself keeps the tokens apart. -/
theorem tokens_joinAfter_cons {p : Piece} (hp : p.WellMarked) {text : List Char} {glue : Bool}
    (hglue : glue = true → Separable text) :
    ∃ next, (∀ rest, joinAfter text glue (p :: rest) = joinAfter next p.isOpening rest) ∧
      tokens next = tokens text ++ tokens p.text ∧ (p.isOpening = true → Separable next) := by
  by_cases hclose : p.isClosing = true
  · obtain ⟨m, hm, hmark⟩ := hp.closing_mark hclose
    have htokens : tokens [m] = [[m]] := tokens_concat_trailingMark hmark []
    refine ⟨text ++ [m], fun rest => by simp [joinAfter, hclose, hm], ?_, fun hopen => ?_⟩
    · rw [hm, htokens, tokens_concat_trailingMark hmark]
    · simp [isClosing, hopen] at hclose
  · -- what is written in front of the piece, with the space if there is one
    have hbase : ∃ base, (∀ rest, joinAfter text glue (p :: rest) =
        joinAfter (base ++ p.text) p.isOpening rest) ∧ tokens base = tokens text ∧
        Separable base := by
      by_cases hnone : (text.isEmpty || glue) = true
      · refine ⟨text, fun rest => ?_, rfl, ?_⟩
        · rcases Bool.or_eq_true_iff.1 hnone with hnone | hnone <;> simp [joinAfter, hnone]
        · rcases Bool.or_eq_true_iff.1 hnone with hnone | hnone
          · exact List.isEmpty_iff.1 hnone ▸ separable_nil
          · exact hglue hnone
      · rw [Bool.not_eq_true, Bool.or_eq_false_iff] at hnone
        exact ⟨text ++ [' '], fun rest => by simp [joinAfter, hnone, hclose],
          tokens_concat_space text, separable_concat_space text⟩
    obtain ⟨base, hjoin, htokens, hsep⟩ := hbase
    refine ⟨base ++ p.text, hjoin, ?_, fun hopen => ?_⟩
    · rw [hsep, htokens]
    · obtain ⟨m, hm, hmark⟩ := opening_mark hopen
      exact hm ▸ hsep.concat_leadingMark hmark

theorem tokens_joinAfter {pieces : List Piece} (hmarks : ∀ p ∈ pieces, p.WellMarked)
    (text : List Char) (glue : Bool) (hglue : glue = true → Separable text) :
    tokens (joinAfter text glue pieces) = tokens text ++ pieces.flatMap (tokens ·.text) := by
  induction pieces generalizing text glue with
  | nil => simp [joinAfter]
  | cons p rest ih =>
    obtain ⟨next, hjoin, htokens, hopen⟩ :=
      tokens_joinAfter_cons (hmarks p List.mem_cons_self) hglue
    have hrest := ih (fun q hq => hmarks q (List.mem_cons_of_mem p hq)) next p.isOpening hopen
    rw [hjoin, hrest, htokens, List.flatMap_cons, List.append_assoc]

theorem find?_isLetter_joinAfter (pieces : List Piece) (text : List Char) (glue : Bool) :
    (joinAfter text glue pieces).find? isLetter =
      (text.find? isLetter).or (pieces.findSome? (·.text.find? isLetter)) := by
  induction pieces generalizing text glue with
  | nil => simp [joinAfter]
  | cons p rest ih =>
    -- the space that may be put in between is no letter
    have hspace : isLetter ' ' = false := by decide
    rw [joinAfter, ih, List.findSome?_cons, List.find?_append, List.find?_append]
    split <;> cases text.find? isLetter <;> cases p.text.find? isLetter <;> simp [hspace]

theorem tokens_join {pieces : List Piece} (hmarks : ∀ p ∈ pieces, p.WellMarked)
    (hfirst : ∀ p ∈ pieces, FirstLetterPlain p.text) :
    tokens (join pieces) = pieces.flatMap (tokens ·.text) := by
  have hplain : FirstLetterPlain (joinAfter [] false pieces) := by
    intro c hc
    rw [find?_isLetter_joinAfter, List.find?_nil, Option.none_or] at hc
    obtain ⟨p, hp, hpc⟩ := List.exists_of_findSome?_eq_some hc
    exact hfirst p hp c hpc
  rw [join, tokens_capitalizeFirstLetter hplain, tokens_joinAfter hmarks [] false (by simp)]
  rfl

end SemanticWiki.Piece
