import Mathlib.Data.List.Basic
import SemanticWiki.Json.Printer
import SemanticWiki.Json.Reader

/-! Structured data that is read back. A text is read as a value by the readers of its parts, and what
is printed is read as the value that it was printed for. A number is read as it is written. -/

namespace SemanticWiki.Json

open Text Text.Reader

def numeral : Reader String := do
  gaps
  let text ← get
  number
  return String.ofList (text.take (text.length - (← get).length))

def startingWith (inner : Reader JsonValue) : Option Char → Reader JsonValue
  | some '"' => return .string (← string)
  | some '[' => return .array (← array inner)
  | some '{' => return .object (← object string fun key => return (key, ← inner))
  | some 't' | some 'f' => return .boolean (← boolean)
  | some 'n' => do literal ['n', 'u', 'l', 'l']; return .null
  | _ => return .number (← numeral)

def nested : Nat → Reader JsonValue
  | 0 => failure
  | depth + 1 => do gaps; startingWith (nested depth) (← peek?)

def value : Reader JsonValue := do nested ((← get).length + 1)

def read? (text : String) : Option JsonValue := document? value text

variable {α β : Type} {text rest gap : List Char}

theorem bind_run {p : Reader α} {f : α → Reader β} {a : α} (h : p text = some (a, rest)) :
    (p >>= f) text = f a rest := by
  change (p text >>= fun x => f x.1 x.2) = _
  rw [h]
  rfl

def isGap (c : Char) : Bool := c == ' ' || c == '\t' || c == '\n' || c == '\r'

theorem not_isGap_of_isDigit {c : Char} (hc : c.isDigit = true) : isGap c = false := by
  by_contra hgap
  simp only [isGap, Bool.not_eq_false, Bool.or_eq_true, beq_iff_eq] at hgap
  rcases hgap with ((rfl | rfl) | rfl) | rfl <;> cases hc

theorem gaps_run (htext : text.all isGap = true) (hrest : rest.head?.any isGap = false) :
    gaps (text ++ rest) = some ((), rest) := by
  have hall : ∀ c ∈ text, (c == ' ' || c == '\t' || c == '\n' || c == '\r') = true :=
    List.all_eq_true.1 htext
  rw [gaps, skip, List.dropWhile_append_of_pos hall]
  cases rest with
  | nil => rfl
  | cons c rest => rw [List.dropWhile_cons_of_neg (by simpa [isGap] using hrest)]

theorem gaps_none (hrest : rest.head?.any isGap = false) : gaps rest = some ((), rest) :=
  gaps_run (show ([] : List Char).all isGap = true from rfl) hrest

theorem mark_run (htext : text.all isGap = true) {c : Char} (hc : isGap c = false) :
    mark c (text ++ c :: rest) = some ((), rest) := by
  rw [mark, bind_run (gaps_run htext (by simpa using hc))]
  exact if_pos rfl

/-! Strings -/

/-- What a character is read as, behind an opening quote. -/
def pieceOf (c : Char) : Piece :=
  if c.toNat < 0x20 ∧ c ∉ ['\x08', '\t', '\n', '\x0c', '\r'] then .unit c.toNat else .char c

theorem hexText_control : ∀ n < 0x20, ∃ a b c d, (hexText 4 n).toList = [a, b, c, d] ∧
    hexNumber? [a, b, c, d] = some n ∧ scalar? n = some (Char.ofNat n) := by
  intro n hn
  have hfour : ((hexText 4 n).toList.length == 4 && hexNumber? (hexText 4 n).toList == some n &&
      scalar? n == some (Char.ofNat n)) = true := by
    have hall : (List.range 0x20).all (fun n => (hexText 4 n).toList.length == 4 &&
        hexNumber? (hexText 4 n).toList == some n && scalar? n == some (Char.ofNat n)) = true := by
      decide +kernel
    exact List.all_eq_true.1 hall n (List.mem_range.2 hn)
  simp only [Bool.and_eq_true, beq_iff_eq] at hfour
  obtain ⟨⟨hlength, hnumber⟩, hscalar⟩ := hfour
  obtain ⟨a, b, c, d, htext⟩ := List.length_eq_four.1 hlength
  exact ⟨a, b, c, d, htext, htext ▸ hnumber, hscalar⟩

theorem quotedBody_escapeChar (c : Char) (rest : List Char) :
    quotedBody ((JsonValue.escapeChar c).toList ++ rest) =
      (quotedBody rest).map fun (pieces, rest) => (pieceOf c :: pieces, rest) := by
  unfold JsonValue.escapeChar
  split
  · rfl
  · rfl
  · rfl
  · rfl
  · rfl
  · rfl
  · rfl
  · rename_i hquote hbackslash hback htab hnewline hfeed hreturn
    by_cases hcontrol : c.toNat < 0x20
    · obtain ⟨w, x, y, z, htext, hnumber, -⟩ := hexText_control c.toNat hcontrol
      have hpiece : pieceOf c = .unit c.toNat :=
        if_pos ⟨hcontrol, by simpa using ⟨hback, htab, hnewline, hfeed, hreturn⟩⟩
      rw [if_pos hcontrol, String.toList_append, htext, hpiece]
      change (hexNumber? [w, x, y, z] >>= _) = _
      rw [hnumber]
      rfl
    · have hpiece : pieceOf c = .char c := if_neg fun h => hcontrol h.1
      have hplain : (decide (' ' ≤ c) && c != '\\') = true := by
        rw [Bool.and_eq_true, decide_eq_true_eq, bne_iff_ne]
        exact ⟨UInt32.le_iff_toNat_le.2 (Nat.le_of_not_lt hcontrol), hbackslash⟩
      rw [if_neg hcontrol, hpiece, Char.toString_eq_singleton, String.toList_singleton]
      conv_lhs => unfold quotedBody
      split <;> simp_all

theorem decode?_pieceOf (c : Char) (pieces : List Piece) :
    decode? (pieceOf c :: pieces) = (decode? pieces).map (c :: ·) := by
  unfold pieceOf
  split
  · rename_i hcontrol
    obtain ⟨-, -, -, -, -, -, hscalar⟩ := hexText_control c.toNat hcontrol.1
    rw [Char.ofNat_toNat] at hscalar
    conv_lhs => unfold decode?
    rw [hscalar]
  · rfl

theorem quotedBody_printed (text rest : List Char) :
    quotedBody (text.flatMap (fun c => (JsonValue.escapeChar c).toList) ++ '"' :: rest) =
      some (text.map pieceOf, rest) := by
  induction text with
  | nil => rfl
  | cons c text ih =>
    rw [List.flatMap_cons, List.append_assoc, quotedBody_escapeChar, ih]
    rfl

theorem decode?_pieces (text : List Char) : decode? (text.map pieceOf) = some text := by
  induction text with
  | nil => rfl
  | cons c text ih =>
    rw [List.map_cons, decode?_pieceOf, ih]
    rfl

theorem toList_printString (text : String) : (JsonValue.printString text).toList =
    '"' :: (text.toList.flatMap fun c => (JsonValue.escapeChar c).toList) ++ ['"'] := by
  rw [JsonValue.printString, String.toList_append, String.toList_append, String.toList_join,
    List.flatMap_map]
  rfl

theorem string_run (hgap : gap.all isGap = true) (text : String) (rest : List Char) :
    string (gap ++ (JsonValue.printString text).toList ++ rest) = some (text, rest) := by
  have hquoted : quoted (gap ++ (JsonValue.printString text).toList ++ rest) =
      some (text.toList.map pieceOf, rest) := by
    rw [toList_printString, List.append_assoc, List.append_assoc, List.cons_append]
    rw [quoted, bind_run (mark_run hgap rfl)]
    exact quotedBody_printed text.toList rest
  rw [string, bind_run hquoted, decode?_pieces]
  exact congrArg (fun t => some (t, rest)) String.ofList_toList

/-! Numbers -/

/-- Nothing that a number could go on with. -/
def Ends (rest : List Char) : Prop :=
  rest.head?.any (fun c => c.isDigit || c == '.' || c == 'e' || c == 'E') = false

/-- The text is a number, wherever it ends. -/
def IsNumber (text : String) : Prop :=
  text.toList.head?.any Char.isDigit = true ∧
    ∀ rest, Ends rest → number (text.toList ++ rest) = some ((), rest)

theorem peek_run (text : List Char) : peek? text = some (text.head?, text) := rfl

theorem fraction_run (hrest : Ends rest) : fraction rest = some ((), rest) := by
  have hpoint : rest.head? ≠ some '.' := by
    intro hhead
    rw [Ends, hhead] at hrest
    cases hrest
  rw [fraction, bind_run (peek_run rest), if_neg hpoint]
  rfl

theorem exponent_run (hrest : Ends rest) : exponent rest = some ((), rest) := by
  rw [exponent, bind_run (peek_run rest)]
  cases rest with
  | nil => rfl
  | cons c rest =>
    have hletter : ¬ (c = 'e' ∨ c = 'E') := by
      rintro (rfl | rfl) <;> cases hrest
    dsimp only [List.head?_cons]
    rw [if_neg hletter]
    rfl

theorem head_toDigits {n : Nat} (hn : n ≠ 0) :
    ∃ c rest, Nat.toDigits 10 n = c :: rest ∧ c ≠ '0' := by
  induction n using Nat.strongRecOn with
  | ind n ih =>
    rw [Nat.toDigits_eq_if (by decide)]
    split
    · rename_i hlt
      refine ⟨n.digitChar, [], rfl, ?_⟩
      have hall : ∀ n < 10, n ≠ 0 → n.digitChar ≠ '0' := by decide
      exact hall n hlt hn
    · rename_i hge
      obtain ⟨c, rest, hdigits, hc⟩ := ih (n / 10) (by omega) (by omega)
      exact ⟨c, rest ++ [(n % 10).digitChar], by rw [hdigits]; rfl, hc⟩

theorem integer_run {n : Nat} (hrest : Ends rest) :
    integer (Nat.toDigits 10 n ++ rest) = some ((), rest) := by
  by_cases hn : n = 0
  · subst hn
    rfl
  · obtain ⟨c, more, hdigits, hc⟩ := head_toDigits hn
    have hall : ∀ d ∈ c :: more, d.isDigit = true := by
      rw [← hdigits]
      exact fun d hd => Nat.isDigit_of_mem_toDigits (by decide) (by decide) hd
    have hread : takeWhile1 Char.isDigit (c :: more ++ rest) = some (c :: more, rest) := by
      rw [takeWhile1, List.takeWhile_append_of_pos hall, List.dropWhile_append_of_pos hall]
      cases rest with
      | nil => rw [List.takeWhile_nil, List.dropWhile_nil, List.append_nil]
      | cons d rest =>
        have hd : ¬ d.isDigit = true := by
          intro hd
          simp [Ends, hd] at hrest
        rw [List.takeWhile_cons_of_neg hd, List.dropWhile_cons_of_neg hd, List.append_nil]
    have hzero : (c :: more ++ rest).head? ≠ some '0' := by simpa using hc
    rw [hdigits, integer, bind_run (peek_run _), if_neg hzero, bind_run hread]
    rfl

theorem isNumber_toString (n : Nat) : IsNumber (toString n) := by
  obtain ⟨c, more, hdigits⟩ := List.exists_cons_of_ne_nil (Nat.toDigits_ne_nil (n := n) (b := 10))
  have hc : c.isDigit = true :=
    Nat.isDigit_of_mem_toDigits (by decide) (by decide) (hdigits ▸ List.mem_cons_self)
  rw [IsNumber, Nat.toString_eq_ofList_toDigits, String.toList_ofList]
  refine ⟨by rw [hdigits]; exact hc, fun rest hrest => ?_⟩
  have hhead : (Nat.toDigits 10 n ++ rest).head? = some c := by rw [hdigits]; rfl
  have hgaps : gaps (Nat.toDigits 10 n ++ rest) = some ((), Nat.toDigits 10 n ++ rest) :=
    gaps_none (by rw [hhead]; exact not_isGap_of_isDigit hc)
  have hminus : minus (Nat.toDigits 10 n ++ rest) = some ((), Nat.toDigits 10 n ++ rest) := by
    have hsign : some c ≠ some '-' := by
      rintro ⟨⟩
      cases hc
    rw [minus, bind_run (peek_run _), hhead, if_neg hsign]
    rfl
  rw [number, bind_run hgaps, bind_run hminus, bind_run (integer_run hrest),
    bind_run (fraction_run hrest), exponent_run hrest]

end SemanticWiki.Json
