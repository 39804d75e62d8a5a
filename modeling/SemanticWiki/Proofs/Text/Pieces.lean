import Mathlib.Data.List.Chain
import SemanticWiki.Text.Pieces

/-! How a text falls into pieces. A separator cuts the text in two whose pieces are found apart, and
a text without separators is one piece, so every fact about pieces comes down to those two. -/

namespace SemanticWiki.Text

variable {separator : Char → Bool} {text : List Char}

theorem pieces_cons_separator {c : Char} (hc : separator c = true) :
    pieces separator (c :: text) = pieces separator text := by
  simp only [pieces, hc, if_true]

theorem pieces_of_free (h : ∀ c ∈ text, separator c = false) :
    pieces separator text = if text.isEmpty then [] else [text] := by
  induction text with
  | nil => rfl
  | cons c rest ih =>
    have hc : separator c = false := h c List.mem_cons_self
    have hrest := ih fun d hd => h d (List.mem_cons_of_mem _ hd)
    cases rest with
    | nil => simp [pieces, hc]
    | cons d rest =>
      have hd : separator d = false := h d (by simp)
      rw [pieces]
      simp only [hc, hd, hrest]
      rfl

theorem pieces_ne_nil {c : Char} (hc : separator c = false) :
    pieces separator (c :: text) ≠ [] := by
  induction text generalizing c with
  | nil => simp [pieces, hc]
  | cons d rest ih =>
    rw [pieces]
    simp only [hc, Bool.false_eq_true, if_false]
    split
    · simp
    · split <;> simp

theorem pieces_append_separator {c : Char} (hc : separator c = true) (rest : List Char) :
    pieces separator (text ++ c :: rest) = pieces separator text ++ pieces separator rest := by
  induction text with
  | nil => exact pieces_cons_separator hc
  | cons x text ih =>
    by_cases hx : separator x = true
    · rw [List.cons_append, pieces_cons_separator hx, pieces_cons_separator hx, ih]
    · have hx : separator x = false := by simpa using hx
      cases text with
      | nil => simp [pieces, hx, hc]
      | cons y text =>
        rw [List.cons_append, List.cons_append, pieces, ← List.cons_append, ih, pieces]
        by_cases hy : separator y = true
        · simp [hx, hy]
        · have hy : separator y = false := by simpa using hy
          -- the piece that starts with `y` is not empty, so `x` joins it on both sides
          cases hp : pieces separator (y :: text) with
          | nil => exact absurd hp (pieces_ne_nil hy)
          | cons piece more => simp [hx, hy]

theorem pieces_map (f : Char → Char) :
    pieces separator (text.map f) = (pieces (separator ∘ f) text).map (List.map f) := by
  induction text with
  | nil => rfl
  | cons c rest ih =>
    cases rest with
    | nil => by_cases hc : separator (f c) = true <;> simp [pieces, hc]
    | cons d rest =>
      rw [List.map_cons] at ih
      rw [List.map_cons, List.map_cons, pieces, pieces, ih]
      by_cases hc : separator (f c) = true
      · simp [hc]
      · by_cases hd : separator (f d) = true
        · simp [hc, hd]
        · simp only [hc, hd, Function.comp_apply, Bool.false_eq_true, if_false]
          cases pieces (separator ∘ f) (d :: rest) <;> simp

theorem free_or_first_separator (separator : Char → Bool) (text : List Char) :
    (∀ c ∈ text, separator c = false) ∨
      ∃ front c rest, text = front ++ c :: rest ∧ separator c = true ∧
        ∀ d ∈ front, separator d = false := by
  induction text with
  | nil => exact .inl (by simp)
  | cons c text ih =>
    by_cases hc : separator c = true
    · exact .inr ⟨[], c, text, rfl, hc, by simp⟩
    · have hc : separator c = false := by simpa using hc
      rcases ih with hfree | ⟨front, d, rest, rfl, hd, hfront⟩
      · exact .inl (by simpa [hc] using hfree)
      · exact .inr ⟨c :: front, d, rest, rfl, hd, by simpa [hc] using hfront⟩

/-- What holds of texts without separators, and goes on to hold when such a text and a separator are
put in front, holds of all texts. -/
theorem cut_induction (separator : Char → Bool) {p : List Char → Prop}
    (hfree : ∀ text, (∀ c ∈ text, separator c = false) → p text)
    (hcut : ∀ front c rest, (∀ d ∈ front, separator d = false) → separator c = true → p rest →
      p (front ++ c :: rest)) (text : List Char) : p text := by
  rcases free_or_first_separator separator text with h | ⟨front, c, rest, rfl, hc, hfront⟩
  · exact hfree text h
  · exact hcut front c rest hfront hc (cut_induction separator hfree hcut rest)
termination_by text.length

theorem pieces_cut {front : List Char} (hfront : ∀ d ∈ front, separator d = false) {c : Char}
    (hc : separator c = true) (rest : List Char) :
    pieces separator (front ++ c :: rest) =
      if front.isEmpty then pieces separator rest else front :: pieces separator rest := by
  rw [pieces_append_separator hc, pieces_of_free hfront]
  split <;> rfl

theorem mem_pieces {piece : List Char} (h : piece ∈ pieces separator text) :
    piece ≠ [] ∧ ∀ c ∈ piece, separator c = false := by
  induction text using cut_induction separator with
  | hfree text hfree =>
    rw [pieces_of_free hfree] at h
    split at h
    · cases h
    · rename_i hsome
      obtain rfl := List.mem_singleton.1 h
      exact ⟨by simpa using hsome, hfree⟩
  | hcut front c rest hfront hc ih =>
    rw [pieces_cut hfront hc] at h
    split at h
    · exact ih h
    · rename_i hsome
      rcases List.mem_cons.1 h with rfl | h
      · exact ⟨by simpa using hsome, hfront⟩
      · exact ih h

theorem pieces_eq_filter_splitOnP (separator : Char → Bool) (text : List Char) :
    pieces separator text = (text.splitOnP separator).filter (!·.isEmpty) := by
  induction text using cut_induction separator with
  | hfree text hfree =>
    rw [pieces_of_free hfree, List.splitOnP_eq_singleton hfree]
    cases text <;> rfl
  | hcut front c rest hfront hc ih =>
    rw [pieces_cut hfront hc, List.splitOnP_append_cons_of_forall_mem hfront c hc, ih]
    cases front <;> rfl

theorem two_mul_length_pieces_le (separator : Char → Bool) (text : List Char) :
    2 * (pieces separator text).length ≤ text.length + 1 := by
  induction text using cut_induction separator with
  | hfree text hfree =>
    rw [pieces_of_free hfree]
    cases text with
    | nil => exact Nat.zero_le _
    | cons c rest => exact Nat.le_add_left 2 rest.length
  | hcut front c rest hfront hc ih =>
    rw [pieces_cut hfront hc, List.length_append, List.length_cons]
    split
    · omega
    · rename_i hsome
      have hfront : 0 < front.length := List.length_pos_of_ne_nil (by simpa using hsome)
      rw [List.length_cons]
      omega

theorem mem_of_mem_piece {piece : List Char} {c : Char} (hpiece : piece ∈ pieces separator text)
    (hc : c ∈ piece) : c ∈ text := by
  induction text using cut_induction separator with
  | hfree text hfree =>
    rw [pieces_of_free hfree] at hpiece
    split at hpiece
    · cases hpiece
    · rwa [← List.mem_singleton.1 hpiece]
  | hcut front s rest hfront hs ih =>
    rw [pieces_cut hfront hs] at hpiece
    rw [List.mem_append, List.mem_cons]
    split at hpiece
    · exact .inr (.inr (ih hpiece))
    · rcases List.mem_cons.1 hpiece with rfl | hpiece
      · exact .inl hc
      · exact .inr (.inr (ih hpiece))

theorem append_separator_inj {front front' rest rest' : List Char} {c d : Char}
    (hfront : ∀ e ∈ front, separator e = false) (hc : separator c = true)
    (hfront' : ∀ e ∈ front', separator e = false) (hd : separator d = true)
    (h : front ++ c :: rest = front' ++ d :: rest') : front = front' ∧ rest = rest' := by
  induction front generalizing front' with
  | nil =>
    cases front' with
    | nil => exact ⟨rfl, (List.cons.inj h).2⟩
    | cons e front' =>
      obtain ⟨rfl, -⟩ := List.cons.inj h
      exact absurd hc (by simp [hfront' c])
  | cons e front ih =>
    obtain ⟨he, hfront⟩ := List.forall_mem_cons.1 hfront
    cases front' with
    | nil =>
      obtain ⟨rfl, -⟩ := List.cons.inj h
      exact absurd hd (by simp [he])
    | cons f front' =>
      obtain ⟨rfl, htail⟩ := List.cons.inj h
      obtain ⟨rfl, hrest⟩ := ih hfront (List.forall_mem_cons.1 hfront').2 htail
      exact ⟨rfl, hrest⟩

theorem mem_intercalate_of_mem {c d : Char} {parts : List (List Char)} {part : List Char}
    (hpart : part ∈ parts) (hd : d ∈ part) : d ∈ [c].intercalate parts := by
  induction parts with
  | nil => cases hpart
  | cons first parts ih =>
    cases parts with
    | nil => simpa [List.mem_singleton.1 hpart] using hd
    | cons next parts =>
      rw [List.intercalate_cons_cons]
      rcases List.mem_cons.1 hpart with rfl | hpart
      · simp [hd]
      · simp [ih hpart]

theorem mem_intercalate {c d : Char} {parts : List (List Char)}
    (hd : d ∈ [c].intercalate parts) : d = c ∨ ∃ part ∈ parts, d ∈ part := by
  induction parts with
  | nil => cases hd
  | cons part parts ih =>
    cases parts with
    | nil => exact .inr ⟨part, List.mem_singleton_self part, by simpa using hd⟩
    | cons next parts =>
      rw [List.intercalate_cons_cons, List.mem_append, List.mem_append,
        List.mem_singleton] at hd
      rcases hd with (hd | hd) | hd
      · exact .inr ⟨part, List.mem_cons_self, hd⟩
      · exact .inl hd
      · exact (ih hd).imp_right fun ⟨p, hp, hmem⟩ => ⟨p, List.mem_cons_of_mem part hp, hmem⟩

theorem map_intercalate (f : Char → Char) (c : Char) (parts : List (List Char)) :
    ([c].intercalate parts).map f = [f c].intercalate (parts.map (List.map f)) := by
  induction parts with
  | nil => rfl
  | cons part parts ih =>
    cases parts with
    | nil => simp
    | cons next parts =>
      rw [List.intercalate_cons_cons, List.map_append, List.map_append, ih]
      simp [List.intercalate_cons_cons]

theorem pieces_intercalate {c : Char} (hc : separator c = true) {parts : List (List Char)}
    (hparts : ∀ part ∈ parts, part ≠ [] ∧ ∀ d ∈ part, separator d = false) :
    pieces separator ([c].intercalate parts) = parts := by
  induction parts with
  | nil => rfl
  | cons part parts ih =>
    obtain ⟨⟨hsome, hfree⟩, hrest⟩ := List.forall_mem_cons.1 hparts
    have hisEmpty : part.isEmpty = false := by simpa using hsome
    cases parts with
    | nil => rw [List.intercalate_singleton, pieces_of_free hfree, hisEmpty]; rfl
    | cons next parts =>
      rw [List.intercalate_cons_cons, List.append_assoc, List.singleton_append,
        pieces_cut hfree hc, ih hrest, hisEmpty]
      rfl

section Intercalate

variable {c : Char} {parts : List (List Char)}
  (hparts : ∀ part ∈ parts, part ≠ [] ∧ ∀ d ∈ part, separator d = false)
include hparts

theorem head?_intercalate : ∀ d ∈ ([c].intercalate parts).head?, separator d = false := by
  cases parts with
  | nil => simp
  | cons part parts =>
    obtain ⟨hsome, hfree⟩ := hparts part List.mem_cons_self
    have hhead : ([c].intercalate (part :: parts)).head? = part.head? := by
      cases parts with
      | nil => rw [List.intercalate_singleton]
      | cons next parts =>
        rw [List.intercalate_cons_cons, List.append_assoc, List.head?_append_of_ne_nil _ hsome]
    intro d hd
    rw [hhead] at hd
    exact hfree d (List.mem_of_mem_head? hd)

theorem getLast?_intercalate : ∀ d ∈ ([c].intercalate parts).getLast?, separator d = false := by
  induction parts with
  | nil => simp
  | cons part parts ih =>
    obtain ⟨⟨hsome, hfree⟩, hrest⟩ := List.forall_mem_cons.1 hparts
    cases parts with
    | nil =>
      rw [List.intercalate_singleton]
      exact fun d hd => hfree d (List.mem_of_mem_getLast? hd)
    | cons next parts =>
      have hnext : [c].intercalate (next :: parts) ≠ [] := by
        have hnextSome := (hrest next List.mem_cons_self).1
        cases parts <;> simp [List.intercalate_cons_cons, hnextSome]
      rw [List.intercalate_cons_cons, List.getLast?_append_of_ne_nil _ hnext]
      exact ih hrest

theorem isChain_intercalate (hc : separator c = true) :
    ([c].intercalate parts).IsChain fun d e => d = c → e ≠ c := by
  have hne {d : Char} (hd : separator d = false) : d ≠ c := by
    rintro rfl
    rw [hd] at hc
    cases hc
  have hpart {part : List Char} (hfree : ∀ d ∈ part, separator d = false) :
      part.IsChain fun d e => d = c → e ≠ c :=
    (List.pairwise_of_forall_mem_list fun d hd e _ heq => absurd heq (hne (hfree d hd))).isChain
  induction parts with
  | nil => exact .nil
  | cons part parts ih =>
    obtain ⟨⟨hsome, hfree⟩, hrest⟩ := List.forall_mem_cons.1 hparts
    cases parts with
    | nil =>
      rw [List.intercalate_singleton]
      exact hpart hfree
    | cons next parts =>
      have hhead := head?_intercalate (c := c) hrest
      rw [List.intercalate_cons_cons, List.append_assoc, List.singleton_append]
      refine List.isChain_append.2 ⟨hpart hfree, List.isChain_cons.2 ⟨?_, ih hrest⟩, ?_⟩
      · exact fun d hd _ => hne (hhead d hd)
      · exact fun d hd e _ heq => absurd heq (hne (hfree d (List.mem_of_mem_getLast? hd)))

end Intercalate

/-- The parts stand in the text one after the other, with one or more separators in front of each and
any number of them behind the last. -/
inductive Spaced (separator : Char → Bool) : List (List Char) → List Char → Prop
  | nil {space : List Char} (hspace : ∀ c ∈ space, separator c = true) :
      Spaced separator [] space
  | cons {gap part rest : List Char} {parts : List (List Char)} (hgap : gap ≠ [])
      (hspace : ∀ c ∈ gap, separator c = true) (hpart : part ≠ [])
      (hfree : ∀ c ∈ part, separator c = false) (hrest : Spaced separator parts rest) :
      Spaced separator (part :: parts) (gap ++ (part ++ rest))

section Spaced

variable {parts : List (List Char)} {c : Char}

theorem pieces_append_of_separators {space : List Char} (h : ∀ c ∈ space, separator c = true)
    (rest : List Char) : pieces separator (space ++ rest) = pieces separator rest := by
  induction space with
  | nil => rfl
  | cons c space ih =>
    obtain ⟨hc, hspace⟩ := List.forall_mem_cons.1 h
    rw [List.cons_append, pieces_cons_separator hc, ih hspace]

theorem Spaced.cons_separator (h : Spaced separator parts text) (hc : separator c = true) :
    Spaced separator parts (c :: text) := by
  cases h with
  | nil hspace => exact .nil (List.forall_mem_cons.2 ⟨hc, hspace⟩)
  | cons hgap hspace hpart hfree hrest =>
    rw [← List.cons_append]
    exact .cons (List.cons_ne_nil _ _) (List.forall_mem_cons.2 ⟨hc, hspace⟩) hpart hfree hrest

theorem Spaced.eq_nil_or_cons (h : Spaced separator parts text) :
    text = [] ∨ ∃ c rest, text = c :: rest ∧ separator c = true := by
  cases h with
  | nil hspace =>
    cases text with
    | nil => exact .inl rfl
    | cons c rest => exact .inr ⟨c, rest, rfl, hspace c List.mem_cons_self⟩
  | @cons gap part rest parts hgap hspace hpart hfree hrest =>
    obtain ⟨c, more, rfl⟩ := List.exists_cons_of_ne_nil hgap
    exact .inr ⟨c, more ++ (part ++ rest), rfl, hspace c List.mem_cons_self⟩

theorem Spaced.pieces_eq (h : Spaced separator parts text) : pieces separator text = parts := by
  induction h with
  | @nil space hspace =>
    have hnone := pieces_append_of_separators hspace []
    rwa [List.append_nil] at hnone
  | @cons gap part rest parts hgap hspace hpart hfree hrest ih =>
    have hsome : part.isEmpty = false := by simpa using hpart
    rw [pieces_append_of_separators hspace]
    rcases hrest.eq_nil_or_cons with rfl | ⟨c, more, rfl, hc⟩
    · rw [List.append_nil, pieces_of_free hfree, hsome, ← ih]
      rfl
    · rw [pieces_cut hfree hc, hsome, ← ih, pieces_cons_separator hc]
      rfl

theorem spaced_pieces (hc : separator c = true) (text : List Char) :
    Spaced separator (pieces separator text) (c :: text) := by
  have hgap : ∀ d ∈ [c], separator d = true := by simpa using hc
  induction text using cut_induction separator generalizing c with
  | hfree text hfree =>
    rw [pieces_of_free hfree]
    cases text with
    | nil => exact .nil hgap
    | cons d text =>
      have hend : Spaced separator [] [] := .nil (List.forall_mem_nil _)
      have hpart := Spaced.cons (List.cons_ne_nil c []) hgap (List.cons_ne_nil d text) hfree hend
      rwa [List.append_nil] at hpart
  | hcut front d rest hfront hd ih =>
    have hrest := ih hd (by simpa using hd)
    rw [pieces_cut hfront hd]
    cases front with
    | nil => exact hrest.cons_separator hc
    | cons e front => exact .cons (List.cons_ne_nil c []) hgap (List.cons_ne_nil e front) hfront hrest

theorem pieces_eq_iff_spaced (hc : separator c = true) :
    pieces separator text = parts ↔ Spaced separator parts (c :: text) := by
  constructor
  · rintro rfl
    exact spaced_pieces hc text
  · intro h
    rw [← h.pieces_eq, pieces_cons_separator hc]

end Spaced

theorem free_or_last_separator (separator : Char → Bool) (text : List Char) :
    (∀ c ∈ text, separator c = false) ∨
      ∃ front c rest, text = front ++ c :: rest ∧ separator c = true ∧
        ∀ d ∈ rest, separator d = false := by
  -- the last separator is the first one of the text read backwards
  rcases free_or_first_separator separator text.reverse with
    hfree | ⟨front, c, rest, hreverse, hc, hfront⟩
  · exact .inl fun d hd => hfree d (List.mem_reverse.2 hd)
  · refine .inr ⟨rest.reverse, c, front.reverse, ?_, hc, ?_⟩
    · rw [← List.reverse_reverse text, hreverse]
      simp
    · intro d hd
      exact hfront d (List.mem_reverse.1 hd)

theorem dropWhileEnd_concat {p : Char → Bool} {c : Char} (hc : p c = true) :
    dropWhileEnd p (text ++ [c]) = dropWhileEnd p text := by
  simp [dropWhileEnd, hc]

theorem dropWhileEnd_append (p : Char → Bool) (front rest : List Char) :
    dropWhileEnd p (front ++ rest) =
      if (dropWhileEnd p rest).isEmpty then dropWhileEnd p front
      else front ++ dropWhileEnd p rest := by
  simp only [dropWhileEnd, List.reverse_append, List.dropWhile_append, List.isEmpty_reverse]
  split
  · rfl
  · rw [List.reverse_append, List.reverse_reverse]

theorem dropWhileEnd_of_free {p : Char → Bool} (h : ∀ c ∈ text, p c = false) :
    dropWhileEnd p text = text := by
  have hreverse : text.reverse.dropWhile p = text.reverse := by
    cases hcase : text.reverse with
    | nil => rfl
    | cons c rest =>
      have hc : p c = false := h c (by rw [← List.mem_reverse, hcase]; exact List.mem_cons_self)
      rw [List.dropWhile_cons_of_neg (by simp [hc])]
  rw [dropWhileEnd, hreverse, List.reverse_reverse]

theorem dropWhileEnd_map (p : Char → Bool) (f : Char → Char) :
    dropWhileEnd p (text.map f) = (dropWhileEnd (p ∘ f) text).map f := by
  simp only [dropWhileEnd, ← List.map_reverse, List.dropWhile_map]

theorem dropWhileEnd_append_takeWhile (p : Char → Bool) (text : List Char) :
    dropWhileEnd p text ++ (text.reverse.takeWhile p).reverse = text := by
  rw [dropWhileEnd, ← List.reverse_append, List.takeWhile_append_dropWhile, List.reverse_reverse]

theorem drop_length_dropWhileEnd (p : Char → Bool) (text : List Char) :
    text.drop (dropWhileEnd p text).length = (text.reverse.takeWhile p).reverse := by
  have hcut := dropWhileEnd_append_takeWhile p text
  calc text.drop (dropWhileEnd p text).length
      = (dropWhileEnd p text ++ (text.reverse.takeWhile p).reverse).drop
          (dropWhileEnd p text).length := by rw [hcut]
    _ = (text.reverse.takeWhile p).reverse := List.drop_left

theorem length_dropWhileEnd_le (p : Char → Bool) (text : List Char) :
    (dropWhileEnd p text).length ≤ text.length := by
  simpa [dropWhileEnd] using (List.dropWhile_sublist (l := text.reverse) p).length_le

theorem head?_trim (text : List Char) : (trim text).head? = text.find? fun c => !isBlank c := by
  have hstart : (trimStart text).head? = text.find? fun c => !isBlank c := by
    rw [trimStart]
    induction text with
    | nil => rfl
    | cons c rest ih => cases hc : isBlank c <;> simp [hc, ih]
  rw [← hstart, trim]
  cases htext : trimStart text with
  | nil => rfl
  | cons c rest =>
    have hc : isBlank c = false := by
      have hfound : text.find? (fun c => !isBlank c) = some c := by rw [← hstart, htext]; rfl
      simpa using List.find?_some hfound
    have hfirst : dropWhileEnd isBlank [c] = [c] :=
      dropWhileEnd_of_free fun d hd => List.mem_singleton.1 hd ▸ hc
    rw [← List.singleton_append, dropWhileEnd_append, hfirst]
    split <;> rfl

end SemanticWiki.Text
