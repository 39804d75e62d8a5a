import SemanticWiki.Proofs.Text.Composition.Idempotence
import SemanticWiki.Proofs.Text.Pieces

/-! Composition and separators. What stands on the two sides of a separator is composed apart, and
nothing becomes a separator or stops being one. So the pieces of a composed text are composed, and
composed pieces with separators between them are a composed text. -/

namespace SemanticWiki.Text

variable {base c d s s' : Char} {kept front rest text : List Char} {parts : List (List Char)}

structure Inert (s : Char) : Prop where
  not_mark : combiningClass s = 0
  not_first : ∀ c, composePair? s c = none
  not_second : ∀ c, composePair? c s = none

theorem Inert.joins?_eq_none (hs : Inert s) : joins? base kept s = none := by
  unfold joins?
  rw [hs.not_second]
  exact ite_self none

theorem composeOnto_append_inert (hs : Inert s) : composeOnto base kept (front ++ s :: rest) =
    composeOnto base kept front ++ composeOnto s [] rest := by
  induction front generalizing base kept with
  | nil =>
    rw [List.nil_append, composeOnto_cons, hs.joins?_eq_none]
    exact if_pos hs.not_mark
  | cons c front ih =>
    rw [List.cons_append, composeOnto_cons, composeOnto_cons]
    cases joins? base kept c with
    | some joined => exact ih
    | none =>
      by_cases hc : combiningClass c = 0
      · simp only [hc, if_true, ih, List.append_assoc]
      · simp only [hc, if_false, ih]

theorem composeOnto_inert (hs : Inert s) :
    composeOnto s kept rest = s :: (kept.reverse ++ composeOrdered rest) := by
  induction rest generalizing kept with
  | nil => rw [composeOnto, composeOrdered, List.append_nil]
  | cons c rest ih =>
    have hnone : joins? s kept c = none := by
      unfold joins?
      rw [hs.not_first]
      exact ite_self none
    rw [composeOnto_cons, hnone, composeOrdered]
    by_cases hc : combiningClass c = 0
    · simp only [hc, if_true, List.cons_append]
    · simp only [hc, if_false, ih, List.reverse_cons, List.append_assoc, List.singleton_append]

theorem composeOrdered_append_inert (hs : Inert s) (front rest : List Char) :
    composeOrdered (front ++ s :: rest) = composeOrdered front ++ s :: composeOrdered rest := by
  induction front with
  | nil =>
    change composeOrdered (s :: rest) = s :: composeOrdered rest
    rw [composeOrdered, if_pos hs.not_mark, composeOnto_inert hs]
    rfl
  | cons c front ih =>
    rw [List.cons_append, composeOrdered, composeOrdered]
    split
    · rw [composeOnto_append_inert hs, composeOnto_inert hs]
      rfl
    · rw [ih, List.cons_append]

theorem recompose_append_inert (hs : decomposeChar s = [s']) (hs' : Inert s')
    (front rest : List Char) :
    recompose (front ++ s :: rest) = recompose front ++ s' :: recompose rest := by
  rw [recompose, List.flatMap_append, List.flatMap_cons, hs, List.singleton_append,
    orderMarks_append_base hs'.not_mark, composeOrdered_append_inert hs']
  rfl

theorem forall_mem_composeOnto {p : Char → Prop}
    (hp : ∀ {a b joined}, composePair? a b = some joined → p joined) (hbase : p base)
    (hkept : ∀ c ∈ kept, p c) (hrest : ∀ c ∈ rest, p c) : ∀ c ∈ composeOnto base kept rest, p c := by
  have hreverse {kept : List Char} (hkept : ∀ c ∈ kept, p c) : ∀ c ∈ kept.reverse, p c :=
    fun c hc => hkept c (List.mem_reverse.1 hc)
  induction rest generalizing base kept with
  | nil => exact List.forall_mem_cons.2 ⟨hbase, hreverse hkept⟩
  | cons c rest ih =>
    obtain ⟨hc, hrest⟩ := List.forall_mem_cons.1 hrest
    rw [composeOnto_cons]
    cases hjoins : joins? base kept c with
    | some joined => exact ih (hp (joins?_eq_some hjoins).1) hkept hrest
    | none =>
      dsimp only
      split
      · have hnext := ih hc (List.forall_mem_nil p) hrest
        exact List.forall_mem_append.2
          ⟨List.forall_mem_cons.2 ⟨hbase, hreverse hkept⟩, hnext⟩
      · exact ih hbase (List.forall_mem_cons.2 ⟨hc, hkept⟩) hrest

theorem forall_mem_composeOrdered {p : Char → Prop}
    (hp : ∀ {a b joined}, composePair? a b = some joined → p joined) (htext : ∀ c ∈ text, p c) :
    ∀ c ∈ composeOrdered text, p c := by
  induction text with
  | nil => exact List.forall_mem_nil p
  | cons c rest ih =>
    obtain ⟨hc, hrest⟩ := List.forall_mem_cons.1 htext
    rw [composeOrdered]
    split
    · exact forall_mem_composeOnto hp hc (List.forall_mem_nil p) hrest
    · exact List.forall_mem_cons.2 ⟨hc, ih hrest⟩

/-- Separators that composition does not touch, except that it may put one in the place of another. -/
structure KeepsApart (separator : Char → Bool) : Prop where
  kept : ∀ {s}, separator s = true →
    ∃ s', decomposeChar s = [s'] ∧ separator s' = true ∧ Inert s'
  free : ∀ {c}, separator c = false → ∀ d ∈ decomposeChar c, separator d = false
  joined_free : ∀ {a b joined}, composePair? a b = some joined → separator joined = false

section KeepsApart

variable {separator : Char → Bool} (happart : KeepsApart separator)
include happart

theorem KeepsApart.recompose_free (htext : ∀ c ∈ text, separator c = false) :
    ∀ c ∈ recompose text, separator c = false := by
  refine forall_mem_composeOrdered happart.joined_free fun c hc => ?_
  obtain ⟨d, hd, hc⟩ := List.mem_flatMap.1 (mem_orderMarks.1 hc)
  exact happart.free (htext d hd) c hc

theorem KeepsApart.recompose_piece (h : recompose text = text) :
    ∀ piece ∈ pieces separator text, recompose piece = piece := by
  induction text using cut_induction separator with
  | hfree text hfree =>
    rw [pieces_of_free hfree]
    split
    · simp
    · simpa using h
  | hcut front s rest hfront hs ih =>
    -- both sides of the equation are cut by their first separator
    obtain ⟨s', hdecomposed, hs', hinert⟩ := happart.kept hs
    rw [recompose_append_inert hdecomposed hinert] at h
    obtain ⟨hfrontEq, hrestEq⟩ := append_separator_inj (happart.recompose_free hfront) hs'
      hfront hs h
    rw [pieces_cut hfront hs]
    split
    · exact ih hrestEq
    · exact List.forall_mem_cons.2 ⟨hfrontEq, ih hrestEq⟩

theorem KeepsApart.recompose_intercalate (hs : separator s = true) (hself : decomposeChar s = [s])
    (hparts : ∀ part ∈ parts, recompose part = part) :
    recompose ([s].intercalate parts) = [s].intercalate parts := by
  have hinert : Inert s := by
    obtain ⟨s', hdecomposed, -, hinert⟩ := happart.kept hs
    rw [hself] at hdecomposed
    exact (List.singleton_inj.1 hdecomposed) ▸ hinert
  induction parts with
  | nil => rfl
  | cons part parts ih =>
    obtain ⟨hpart, hrest⟩ := List.forall_mem_cons.1 hparts
    cases parts with
    | nil => rwa [List.intercalate_singleton]
    | cons next parts =>
      rw [List.intercalate_cons_cons, List.append_assoc, List.singleton_append,
        recompose_append_inert hself hinert, hpart, ih hrest]

/-- So are the pieces of a composed text with one separator between any two. -/
theorem KeepsApart.composed_intercalate_pieces (hs : separator s = true)
    (hbasic : s.toNat < 0xC0) (h : Composed text) :
    Composed ([s].intercalate (pieces separator text)) := by
  have hself : decomposeChar s = [s] := decomposeChar_of_basic hbasic
  rcases h with hlow | hfixed
  · refine .inl fun c hc => ?_
    rcases mem_intercalate hc with rfl | ⟨piece, hpiece, hc⟩
    · omega
    · exact hlow c (mem_of_mem_piece hpiece hc)
  · exact .inr (happart.recompose_intercalate hs hself (happart.recompose_piece hfixed))

end KeepsApart

end SemanticWiki.Text
