import Mathlib.Data.List.Chain
import SemanticWiki.Proofs.Text.CodeMask
import SemanticWiki.Text.Composition

/-! What the canonical-equivalence data is like. Composites are nested three deep at most, what a
character is replaced by is not taken apart again, and separators of words have no part in either. The
tables are read from their text once and checked whole, with sets of code points as masks. -/

namespace SemanticWiki.Text

def Mapping.code (m : Mapping) : Nat := m.char.toNat

def Mapping.partCodes (m : Mapping) : List Nat := m.parts.map Char.toNat

def codes (table : List Mapping) : List Nat := table.map Mapping.code

def partCodes (table : List Mapping) : List Nat := table.flatMap Mapping.partCodes

def nested (table : List Mapping) : Nat → List Nat
  | 0 => codes table
  | depth + 1 => codes (table.filter fun m => m.partCodes.any (mask (nested table depth)).testBit)

def isSyllable (n : Nat) : Bool := 0xAC00 ≤ n && n ≤ 0xD7A3

def isOrdinary (n : Nat) : Bool := 0xC0 ≤ n && (n < 0x1100 || 0x11FF < n) && !isSyllable n

def separatorCodes : List Nat := 0x5F :: blankCodes

def Mapping.keepsSeparators (m : Mapping) : Bool :=
  if (mask separatorCodes).testBit m.code then
    m.parts.length == 1 && m.partCodes.all (mask separatorCodes).testBit
  else !m.partCodes.any (mask separatorCodes).testBit

structure TablesFit (composites replacements : List Mapping) : Prop where
  ascending : (codes composites).IsChain (· < ·)
  ordinary : (codes composites ++ codes replacements).all isOrdinary = true
  shallow : nested composites 3 = []
  replaced_last : apart (partCodes replacements) (codes composites ++ codes replacements) = true
  replaced_alphabetic : (partCodes replacements).all (!isSyllable ·) = true
  unseparated : apart (codes composites ++ partCodes composites) separatorCodes = true
  separators_kept : replacements.all Mapping.keepsSeparators = true

instance (composites replacements : List Mapping) : Decidable (TablesFit composites replacements) :=
  decidable_of_iff
    ((codes composites).IsChain (· < ·) ∧
      (codes composites ++ codes replacements).all isOrdinary = true ∧
      nested composites 3 = [] ∧
      apart (partCodes replacements) (codes composites ++ codes replacements) = true ∧
      (partCodes replacements).all (!isSyllable ·) = true ∧
      apart (codes composites ++ partCodes composites) separatorCodes = true ∧
      replacements.all Mapping.keepsSeparators = true)
    ⟨fun ⟨hascending, hordinary, hshallow, hlast, halphabetic, hunseparated, hkept⟩ =>
        ⟨hascending, hordinary, hshallow, hlast, halphabetic, hunseparated, hkept⟩,
      fun h => ⟨h.ascending, h.ordinary, h.shallow, h.replaced_last, h.replaced_alphabetic,
        h.unseparated, h.separators_kept⟩⟩

-- a literal is slow to take apart, so its characters are listed first
set_option maxRecDepth 1000000 in
theorem tablesFit : TablesFit composites replacements := by
  unfold composites replacements mappings
  rw [String.toList_ofList, String.toList_ofList]
  decide +kernel

def Classless (codes : List Nat) (classes : List (Nat × CodeSet)) : Prop :=
  ∀ entry ∈ classes, (entry.2.all fun range => codes.all fun n =>
    n < range.first || range.last < n) = true

theorem Classless.cons {codes : List Nat} {k : Nat} {source : String} {text : List Char}
    {rest : List (Nat × CodeSet)} (hsource : source.toList = text)
    (hset : (((pieces (·.isWhitespace) text).filterMap CodeRange.ofText?).all fun range =>
      codes.all fun n => n < range.first || range.last < n) = true)
    (hrest : Classless codes rest) : Classless codes ((k, CodeSet.ofText source) :: rest) := by
  refine List.forall_mem_cons.2 ⟨?_, hrest⟩
  rw [CodeSet.ofText, hsource]
  exact hset

set_option maxRecDepth 1000000 in
theorem separators_classless : Classless separatorCodes combiningClasses := by
  unfold combiningClasses
  repeat
    apply Classless.cons
    · exact String.toList_ofList
    · decide +kernel
  exact List.forall_mem_nil _

theorem combiningClass_of_mem_separatorCodes {c : Char} (hc : c.toNat ∈ separatorCodes) :
    combiningClass c = 0 := by
  have hnone : combiningClasses.find? (·.2.contains c) = none := by
    refine List.find?_eq_none.2 fun entry hentry => ?_
    rw [CodeSet.contains_eq_false fun range hrange => ?_]
    · exact Bool.false_ne_true
    · have houtside := List.all_eq_true.1 (separators_classless entry hentry) range hrange
      simpa using List.all_eq_true.1 houtside c.toNat hc
  rw [combiningClass, hnone]
  exact ite_self 0

end SemanticWiki.Text
