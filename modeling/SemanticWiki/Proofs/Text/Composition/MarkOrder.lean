import Mathlib.Data.List.Basic
import Mathlib.Data.List.Chain
import SemanticWiki.Text.Composition

/-! The order of marks. Every mark moves behind the marks of lower class that follow it. So two marks
of different classes may change places beforehand, what is in order already stays as it is, and no mark
moves past a character that is none. -/

namespace SemanticWiki.Text

variable {text front rest other : List Char} {a b c d s : Char}

/-- A character may be followed by one that is no mark, or by a mark that is not of lower class. -/
def MayPrecede (c d : Char) : Prop := combiningClass d = 0 ∨ combiningClass c ≤ combiningClass d

def MarksOrdered (text : List Char) : Prop := text.IsChain MayPrecede

theorem insertMark_cons_of_mayPrecede (h : MayPrecede c d) :
    insertMark c (d :: rest) = c :: d :: rest := by
  refine if_neg ?_
  rintro ⟨hmark, hlower⟩
  rcases h with hbase | hle
  · exact hmark hbase
  · omega

theorem insertMark_cons_of_not_mayPrecede (h : ¬ MayPrecede c d) :
    insertMark c (d :: rest) = d :: insertMark c rest := by
  refine if_pos ?_
  rw [MayPrecede, not_or] at h
  exact ⟨h.1, by omega⟩

theorem mem_insertMark : d ∈ insertMark c text ↔ d = c ∨ d ∈ text := by
  induction text with
  | nil => simp [insertMark]
  | cons e rest ih =>
    rw [insertMark]
    split
    · rw [List.mem_cons, ih, List.mem_cons, or_left_comm]
    · exact List.mem_cons

theorem orderMarks_cons (c : Char) (rest : List Char) : orderMarks (c :: rest) =
    if combiningClass c = 0 then c :: orderMarks rest else insertMark c (orderMarks rest) := rfl

theorem orderMarks_cons_base (hs : combiningClass s = 0) (rest : List Char) :
    orderMarks (s :: rest) = s :: orderMarks rest := if_pos hs

theorem orderMarks_cons_mark (hc : combiningClass c ≠ 0) (rest : List Char) :
    orderMarks (c :: rest) = insertMark c (orderMarks rest) := if_neg hc

theorem mem_orderMarks : d ∈ orderMarks text ↔ d ∈ text := by
  induction text with
  | nil => exact Iff.rfl
  | cons c rest ih =>
    rw [orderMarks_cons, List.mem_cons]
    split
    · rw [List.mem_cons, ih]
    · rw [mem_insertMark, ih]

theorem orderMarks_append_congr (front : List Char) (h : orderMarks rest = orderMarks other) :
    orderMarks (front ++ rest) = orderMarks (front ++ other) := by
  induction front with
  | nil => exact h
  | cons c front ih =>
    rw [List.cons_append, List.cons_append, orderMarks_cons, orderMarks_cons, ih]

theorem insertMark_comm (ha : combiningClass a ≠ 0) (hlt : combiningClass a < combiningClass b)
    (text : List Char) : insertMark a (insertMark b text) = insertMark b (insertMark a text) := by
  have hab : MayPrecede a b := .inr hlt.le
  have hba : ¬ MayPrecede b a := by
    rintro (hbase | hle)
    · exact ha hbase
    · omega
  induction text with
  | nil =>
    rw [insertMark, insertMark, insertMark_cons_of_mayPrecede hab,
      insertMark_cons_of_not_mayPrecede hba, insertMark]
  | cons d rest ih =>
    by_cases hbd : MayPrecede b d
    · -- both stay in front of `d`
      have had : MayPrecede a d := hbd.imp_right hlt.le.trans
      rw [insertMark_cons_of_mayPrecede hbd, insertMark_cons_of_mayPrecede had,
        insertMark_cons_of_mayPrecede hab, insertMark_cons_of_not_mayPrecede hba,
        insertMark_cons_of_mayPrecede hbd]
    · rw [insertMark_cons_of_not_mayPrecede hbd]
      by_cases had : MayPrecede a d
      · rw [insertMark_cons_of_mayPrecede had, insertMark_cons_of_mayPrecede had,
          insertMark_cons_of_not_mayPrecede hba, insertMark_cons_of_not_mayPrecede hbd]
      · rw [insertMark_cons_of_not_mayPrecede had, insertMark_cons_of_not_mayPrecede had,
          insertMark_cons_of_not_mayPrecede hbd, ih]

theorem orderMarks_swap (ha : combiningClass a ≠ 0) (hlt : combiningClass a < combiningClass b)
    (rest : List Char) : orderMarks (b :: a :: rest) = orderMarks (a :: b :: rest) := by
  have hb : combiningClass b ≠ 0 := by omega
  rw [orderMarks_cons_mark hb, orderMarks_cons_mark ha, orderMarks_cons_mark ha,
    orderMarks_cons_mark hb, insertMark_comm ha hlt]

/-- A mark that may follow all of the marks in front may as well stand before them, if none of them is
of its own class. -/
theorem orderMarks_move (hmarks : ∀ a ∈ front, combiningClass a ≠ 0 ∧
    combiningClass a < combiningClass c) (rest : List Char) :
    orderMarks (c :: (front ++ rest)) = orderMarks (front ++ c :: rest) := by
  induction front with
  | nil => rfl
  | cons a front ih =>
    obtain ⟨⟨ha, hlt⟩, hfront⟩ := List.forall_mem_cons.1 hmarks
    calc orderMarks (c :: a :: (front ++ rest))
        = orderMarks (a :: c :: (front ++ rest)) := orderMarks_swap ha hlt _
      _ = orderMarks (a :: (front ++ c :: rest)) := orderMarks_append_congr [a] (ih hfront)

theorem marksOrdered_insertMark (h : MarksOrdered text) : MarksOrdered (insertMark c text) := by
  induction text with
  | nil => exact .singleton c
  | cons d rest ih =>
    by_cases hcd : MayPrecede c d
    · rw [insertMark_cons_of_mayPrecede hcd]
      exact .cons_cons hcd h
    · have hdc : MayPrecede d c := by
        rw [MayPrecede, not_or] at hcd
        exact .inr (by omega)
      rw [insertMark_cons_of_not_mayPrecede hcd]
      cases rest with
      | nil => exact .cons_cons hdc (.singleton c)
      | cons e rest =>
        have hinserted := ih h.tail
        -- what stands behind `d` now is what stood there before, or `c`
        by_cases hce : MayPrecede c e
        · rw [insertMark_cons_of_mayPrecede hce] at hinserted ⊢
          exact .cons_cons hdc hinserted
        · rw [insertMark_cons_of_not_mayPrecede hce] at hinserted ⊢
          exact .cons_cons h.rel hinserted

theorem marksOrdered_orderMarks (text : List Char) : MarksOrdered (orderMarks text) := by
  induction text with
  | nil => exact .nil
  | cons c rest ih =>
    by_cases hc : combiningClass c = 0
    · rw [orderMarks_cons_base hc]
      refine List.isChain_cons.2 ⟨fun d _ => .inr ?_, ih⟩
      omega
    · rw [orderMarks_cons_mark hc]
      exact marksOrdered_insertMark ih

theorem orderMarks_of_ordered (h : MarksOrdered text) : orderMarks text = text := by
  induction text with
  | nil => rfl
  | cons c rest ih =>
    rw [orderMarks_cons, ih h.tail]
    split
    · rfl
    · cases rest with
      | nil => rfl
      | cons d rest => exact insertMark_cons_of_mayPrecede h.rel

theorem orderMarks_orderMarks (text : List Char) : orderMarks (orderMarks text) = orderMarks text :=
  orderMarks_of_ordered (marksOrdered_orderMarks text)

theorem insertMark_append_base (hs : combiningClass s = 0) (front rest : List Char) :
    insertMark c (front ++ s :: rest) = insertMark c front ++ s :: rest := by
  induction front with
  | nil => exact insertMark_cons_of_mayPrecede (.inl hs)
  | cons d front ih =>
    rw [List.cons_append, insertMark, insertMark, ih]
    split <;> rfl

theorem orderMarks_append_base (hs : combiningClass s = 0) (front rest : List Char) :
    orderMarks (front ++ s :: rest) = orderMarks front ++ s :: orderMarks rest := by
  induction front with
  | nil => exact orderMarks_cons_base hs rest
  | cons c front ih =>
    rw [List.cons_append, orderMarks_cons, orderMarks_cons, ih]
    split
    · rfl
    · exact insertMark_append_base hs _ _

end SemanticWiki.Text
