import SemanticWiki.Proofs.Text.Composition.Decomposition
import SemanticWiki.Proofs.Text.Composition.MarkOrder

/-! Composition is reached at once. What is composed is taken apart to the very characters it was put
together from, up to the places of marks that may change places, so it is composed in the same way
again. -/

namespace SemanticWiki.Text

variable {base c joined : Char} {kept rest text : List Char}

def joins? (base : Char) (kept : List Char) (c : Char) : Option Char :=
  if (match kept with
      | [] => false
      | last :: _ => combiningClass c ≤ combiningClass last) then none
  else composePair? base c

theorem composeOnto_cons (base : Char) (kept : List Char) (c : Char) (rest : List Char) :
    composeOnto base kept (c :: rest) =
      match joins? base kept c with
      | some joined => composeOnto joined kept rest
      | none =>
        if combiningClass c = 0 then base :: kept.reverse ++ composeOnto c [] rest
        else composeOnto base (c :: kept) rest := rfl

theorem joins?_eq_some (h : joins? base kept c = some joined) :
    composePair? base c = some joined ∧
      ∀ last ∈ kept.head?, combiningClass last < combiningClass c := by
  unfold joins? at h
  cases kept with
  | nil => exact ⟨h, by simp⟩
  | cons last kept =>
    by_cases hblocked : combiningClass c ≤ combiningClass last
    · simp [hblocked] at h
    · simp only [hblocked, decide_false, Bool.false_eq_true, if_false] at h
      exact ⟨h, by simpa using hblocked⟩

/-- The marks kept behind a base, the last one first, while the text is read on. -/
structure Kept (kept rest : List Char) : Prop where
  marks : ∀ a ∈ kept, combiningClass a ≠ 0
  descending : kept.Pairwise fun later earlier => combiningClass earlier ≤ combiningClass later
  next : ∀ last ∈ kept.head?, ∀ c ∈ rest.head?, MayPrecede last c
  ordered : MarksOrdered rest

theorem Kept.le_head {last : Char} (h : Kept kept rest) (hlast : last ∈ kept.head?) :
    ∀ a ∈ kept, combiningClass a ≤ combiningClass last := by
  cases kept with
  | nil => cases hlast
  | cons first kept =>
    obtain rfl := Option.some.inj hlast
    exact List.forall_mem_cons.2 ⟨le_rfl, (List.pairwise_cons.1 h.descending).1⟩

theorem Kept.restart (h : Kept kept (c :: rest)) : Kept [] rest :=
  ⟨by simp, .nil, by simp, h.ordered.tail⟩

theorem Kept.keep (h : Kept kept (c :: rest)) (hc : combiningClass c ≠ 0) : Kept (c :: kept) rest := by
  refine ⟨List.forall_mem_cons.2 ⟨hc, h.marks⟩, List.pairwise_cons.2 ⟨?_, h.descending⟩, ?_,
    h.ordered.tail⟩
  · intro a ha
    obtain ⟨last, kept, rfl⟩ := List.exists_cons_of_ne_nil (List.ne_nil_of_mem ha)
    have hle : combiningClass last ≤ combiningClass c := (h.next last rfl c rfl).resolve_left hc
    exact (h.le_head rfl a ha).trans hle
  · rintro _ ⟨⟩ d hd
    exact List.IsChain.rel_head? h.ordered hd

theorem Kept.join (h : Kept kept (c :: rest))
    (hlt : ∀ last ∈ kept.head?, combiningClass last < combiningClass c) : Kept kept rest := by
  refine ⟨h.marks, h.descending, fun last hlast d hd => ?_, h.ordered.tail⟩
  have hcd : MayPrecede c d := List.IsChain.rel_head? h.ordered hd
  exact hcd.imp_right (hlt last hlast).le.trans

theorem flatMap_decomposeChar (h : ∀ c ∈ text, Atom c) : text.flatMap decomposeChar = text := by
  calc text.flatMap decomposeChar
      = text.flatMap ([·]) := List.flatMap_congr fun c hc => decomposeChar_of_atom (h c hc)
    _ = text := List.flatMap_singleton' text

/-- Taken apart again, composed text has its marks where they came from. -/
theorem orderMarks_composeOnto (hkept : ∀ c ∈ kept, Atom c) (hrest : ∀ c ∈ rest, Atom c)
    (h : Kept kept rest) : orderMarks ((composeOnto base kept rest).flatMap decomposeChar) =
      orderMarks (decomposeChar base ++ (kept.reverse ++ rest)) := by
  have hreverse {kept : List Char} (hkept : ∀ c ∈ kept, Atom c) :
      kept.reverse.flatMap decomposeChar = kept.reverse :=
    flatMap_decomposeChar fun c hc => hkept c (List.mem_reverse.1 hc)
  induction rest generalizing base kept with
  | nil =>
    rw [composeOnto, List.flatMap_cons, hreverse hkept, List.append_nil]
  | cons c rest ih =>
    obtain ⟨hc, hrest⟩ := List.forall_mem_cons.1 hrest
    rw [composeOnto_cons]
    cases hjoins : joins? base kept c with
    | some joined =>
      -- `c` was read behind the kept marks, but none of them keeps it from standing before them
      obtain ⟨hpair, hlt⟩ := joins?_eq_some hjoins
      have hmoved : ∀ a ∈ kept.reverse, combiningClass a ≠ 0 ∧
          combiningClass a < combiningClass c := by
        intro a ha
        have ha := List.mem_reverse.1 ha
        obtain ⟨last, older, rfl⟩ := List.exists_cons_of_ne_nil (List.ne_nil_of_mem ha)
        exact ⟨h.marks a ha, (h.le_head rfl a ha).trans_lt (hlt last rfl)⟩
      calc orderMarks ((composeOnto joined kept rest).flatMap decomposeChar)
          = orderMarks (decomposeChar joined ++ (kept.reverse ++ rest)) :=
            ih hkept hrest (h.join hlt)
        _ = orderMarks (decomposeChar base ++ c :: (kept.reverse ++ rest)) := by
            rw [decomposeChar_of_composePair? hpair, decomposeChar_of_atom hc, List.append_assoc,
              List.singleton_append]
        _ = orderMarks (decomposeChar base ++ (kept.reverse ++ c :: rest)) :=
            orderMarks_append_congr _ (orderMarks_move hmoved rest)
    | none =>
      by_cases hbase : combiningClass c = 0
      · have hnext : orderMarks ((composeOnto c [] rest).flatMap decomposeChar) =
            orderMarks (c :: rest) := by
          have hrestart : orderMarks ((composeOnto c [] rest).flatMap decomposeChar) =
              orderMarks (decomposeChar c ++ rest) := ih (by simp) hrest h.restart
          rwa [decomposeChar_of_atom hc] at hrestart
        simp only [hbase, if_true]
        rw [List.flatMap_append, List.flatMap_cons, hreverse hkept, List.append_assoc]
        exact orderMarks_append_congr _ (orderMarks_append_congr _ hnext)
      · simp only [hbase, if_false]
        rw [ih (List.forall_mem_cons.2 ⟨hc, hkept⟩) hrest (h.keep hbase), List.reverse_cons,
          List.append_assoc, List.singleton_append]

theorem orderMarks_composeOrdered (htext : ∀ c ∈ text, Atom c) (h : MarksOrdered text) :
    orderMarks ((composeOrdered text).flatMap decomposeChar) = orderMarks text := by
  induction text with
  | nil => rfl
  | cons c rest ih =>
    obtain ⟨hc, hrest⟩ := List.forall_mem_cons.1 htext
    rw [composeOrdered]
    split
    · have hstart : Kept [] rest := ⟨by simp, .nil, by simp, h.tail⟩
      rw [orderMarks_composeOnto (by simp) hrest hstart, decomposeChar_of_atom hc]
      rfl
    · rw [List.flatMap_cons, decomposeChar_of_atom hc]
      exact orderMarks_append_congr [c] (ih hrest h.tail)

def recompose (text : List Char) : List Char :=
  composeOrdered (orderMarks (text.flatMap decomposeChar))

theorem atom_of_mem_ordered (hc : c ∈ orderMarks (text.flatMap decomposeChar)) : Atom c := by
  obtain ⟨d, -, hd⟩ := List.mem_flatMap.1 (mem_orderMarks.1 hc)
  exact atom_of_mem_decomposeChar hd

theorem recompose_recompose (text : List Char) : recompose (recompose text) = recompose text := by
  have hordered := marksOrdered_orderMarks (text.flatMap decomposeChar)
  calc recompose (recompose text)
      = composeOrdered (orderMarks (orderMarks (text.flatMap decomposeChar))) :=
        congrArg composeOrdered (orderMarks_composeOrdered (fun _ => atom_of_mem_ordered) hordered)
    _ = recompose text := congrArg composeOrdered (orderMarks_orderMarks _)

def Composed (text : List Char) : Prop := (∀ c ∈ text, c.toNat < 0x300) ∨ recompose text = text

theorem compose_of_composed (h : Composed text) : compose text = text := by
  by_cases hlow : text.all (·.toNat < 0x300) = true
  · exact if_pos hlow
  · refine (if_neg hlow).trans (h.resolve_left fun hall => hlow ?_)
    simpa using hall

theorem composed_compose (text : List Char) : Composed (compose text) := by
  by_cases hlow : text.all (·.toNat < 0x300) = true
  · have hself : compose text = text := if_pos hlow
    rw [hself]
    exact .inl (by simpa using hlow)
  · have hrecompose : compose text = recompose text := if_neg hlow
    rw [hrecompose]
    exact .inr (recompose_recompose text)

end SemanticWiki.Text
