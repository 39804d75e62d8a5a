import SemanticWiki.Proofs.Json.Reading

/-! Printed values. Whatever a value consists of, and however far it is indented, what is printed for it
is read back as the value, provided that its numbers are numbers. -/

namespace SemanticWiki.Json

open Text Text.Reader JsonValue

variable {α : Type} {rest : List Char} {indent : String}

theorem ends_of_not {c : Char} (hc : (c.isDigit || c == '.' || c == 'e' || c == 'E') = false) :
    Ends (c :: rest) := by
  rw [Ends, List.head?_cons, Option.any_some, hc]

section Items

variable {close : Char} {item : Reader α} {printed : α → List Char} {a : α} {as : List α}

/-- What is printed for `a` is read as `a`, behind any gap. -/
def ReadsBack (item : Reader α) (printed : α → List Char) (a : α) : Prop :=
  ∀ lead rest, lead.all isGap = true → Ends rest → item (lead ++ printed a ++ rest) = some (a, rest)

def newLine (indent : String) : List Char := '\n' :: indent.toList

def further (indent : String) (printed : α → List Char) (as : List α) : List Char :=
  as.flatMap fun a => ',' :: newLine indent ++ printed a

def lines (opening close : Char) (indent : String) (printed : α → List Char) (a : α) (as : List α) :
    List Char :=
  opening :: newLine (indent ++ "  ") ++ printed a ++ further (indent ++ "  ") printed as ++
    newLine indent ++ [close]

theorem length_le_further (indent : String) (printed : α → List Char) (as : List α) :
    as.length ≤ (further indent printed as).length := by
  induction as with
  | nil => exact Nat.zero_le _
  | cons a as ih =>
    simp only [further, List.flatMap_cons, List.length_append, List.length_cons] at ih ⊢
    omega

theorem length_lt_lines (opening close : Char) {b : α} (hb : b ∈ a :: as) :
    (printed b).length < (lines opening close indent printed a as).length := by
  simp only [lines, List.length_append, List.length_cons]
  rcases List.mem_cons.1 hb with rfl | hb
  · omega
  · have hsub := (List.sublist_flatten_of_mem
      (List.mem_map_of_mem (f := fun a => ',' :: newLine (indent ++ "  ") ++ printed a) hb)).length_le
    rw [← List.flatMap_def] at hsub
    simp only [List.length_append, List.length_cons] at hsub
    unfold further
    omega

theorem newLine_gap (hindent : indent.toList.all isGap = true) :
    (newLine indent).all isGap = true := hindent

variable (hclose : isGap close = false ∧ close ≠ ',') {inner : String}
  (hindent : indent.toList.all isGap = true) (hinner : inner.toList.all isGap = true)
include hclose hindent hinner

theorem items_run (lead : List Char) (hlead : lead.all isGap = true)
    (hitems : ∀ b ∈ a :: as, ReadsBack item printed b) {fuel : Nat} (hfuel : as.length < fuel) :
    items close item fuel
      (lead ++ printed a ++ (further inner printed as ++ newLine indent ++ close :: rest)) =
        some (a :: as, rest) := by
  induction fuel generalizing a as lead with
  | zero => omega
  | succ fuel ih =>
    obtain ⟨hfirst, hothers⟩ := List.forall_mem_cons.1 hitems
    cases as with
    | nil =>
      have hgaps : gaps (newLine indent ++ close :: rest) = some ((), close :: rest) :=
        gaps_run (newLine_gap hindent) (by simpa using hclose.1)
      have hnone : further inner printed [] ++ newLine indent ++ close :: rest =
          newLine indent ++ close :: rest := rfl
      have hends : Ends (newLine indent ++ close :: rest) := ends_of_not rfl
      have hany : Reader.any (close :: rest) = some (close, rest) := rfl
      rw [hnone, items, bind_run (hfirst lead _ hlead hends), bind_run hgaps, bind_run hany,
        if_neg hclose.2, if_pos rfl]
      rfl
    | cons b as =>
      let more := newLine inner ++ printed b ++ (further inner printed as ++ newLine indent ++
        close :: rest)
      have hmore : further inner printed (b :: as) ++ newLine indent ++ close :: rest =
          ',' :: more := by
        simp [further, more]
      have hends : Ends (',' :: more) := ends_of_not rfl
      have hgaps : gaps (',' :: more) = some ((), ',' :: more) := gaps_none rfl
      have hany : Reader.any (',' :: more) = some (',', more) := rfl
      have hrest := ih (newLine inner) (newLine_gap hinner) hothers (Nat.lt_of_succ_lt_succ hfuel)
      rw [hmore, items, bind_run (hfirst lead _ hlead hends), bind_run hgaps,
        bind_run hany, if_pos rfl, bind_run hrest]
      rfl

omit hclose hinner in
theorem inner_gap : (indent ++ "  ").toList.all isGap = true := by
  rw [String.toList_append, List.all_append, hindent]
  rfl

omit hinner in
theorem bracketed_run {opening : Char} (hopening : isGap opening = false) (lead : List Char)
    (hlead : lead.all isGap = true)
    (hhead : (printed a).head?.any (fun c => !isGap c && c != close) = true)
    (hitems : ∀ b ∈ a :: as, ReadsBack item printed b) :
    bracketed opening close item (lead ++ lines opening close indent printed a as ++ rest) =
      some (a :: as, rest) := by
  have hinner : (indent ++ "  ").toList.all isGap = true := inner_gap hindent
  obtain ⟨c, more, hprinted⟩ : ∃ c more, printed a = c :: more := by
    cases hprinted : printed a with
    | nil => simp [hprinted] at hhead
    | cons c more => exact ⟨c, more, rfl⟩
  have hc : isGap c = false ∧ c ≠ close := by simpa [hprinted] using hhead
  let text := printed a ++ (further (indent ++ "  ") printed as ++ newLine indent ++ close :: rest)
  have htext : lead ++ lines opening close indent printed a as ++ rest =
      lead ++ opening :: (newLine (indent ++ "  ") ++ text) := by
    simp [lines, text]
  have hgaps : gaps (newLine (indent ++ "  ") ++ text) = some ((), text) :=
    gaps_run (newLine_gap hinner) (by simpa [text, hprinted] using hc.1)
  have hfull : text.head? ≠ some close := by simpa [text, hprinted] using hc.2
  have hget : (get : Reader (List Char)) text = some (text, text) := rfl
  have hfuel : as.length < text.length := by
    have hleast := length_le_further (indent ++ "  ") printed as
    simp only [text, List.length_append, List.length_cons]
    omega
  rw [htext, bracketed, bind_run (mark_run hlead hopening), bind_run hgaps,
    bind_run (peek_run text), if_neg hfull, bind_run hget]
  exact items_run hclose hindent hinner [] rfl hitems hfuel

end Items

theorem bracketed_nil {opening close : Char} {item : Reader α} (hopening : isGap opening = false)
    (hclose : isGap close = false) (lead : List Char) (hlead : lead.all isGap = true) :
    bracketed opening close item (lead ++ opening :: close :: rest) = some ([], rest) := by
  have hgaps : gaps (close :: rest) = some ((), close :: rest) := gaps_none (by simpa using hclose)
  have hchar : char close (close :: rest) = some ((), rest) := if_pos rfl
  rw [bracketed, bind_run (mark_run hlead hopening), bind_run hgaps, bind_run (peek_run _),
    if_pos List.head?_cons, bind_run hchar]
  rfl

/-! Values -/

def valueText (indent : String) (v : JsonValue) : List Char := (v.print indent).toList

def fieldText (indent : String) (f : String × JsonValue) : List Char :=
  (printString f.1).toList ++ ':' :: ' ' :: valueText indent f.2

theorem valueText_array (indent : String) (v : JsonValue) (vs : List JsonValue) :
    valueText indent (.array (v :: vs)) = lines '[' ']' indent (valueText (indent ++ "  ")) v vs := by
  have hfurther (inner : String) (vs : List JsonValue) :
      (printItems inner vs).toList = further inner (valueText inner) vs := by
    induction vs with
    | nil => rfl
    | cons v vs ih => simp [printItems, further, newLine, valueText, ih]
  simp [valueText, print, lines, newLine, hfurther]

theorem valueText_object (indent : String) (f : String × JsonValue)
    (fields : List (String × JsonValue)) : valueText indent (.object (f :: fields)) =
      lines '{' '}' indent (fieldText (indent ++ "  ")) f fields := by
  have hfurther (inner : String) (fields : List (String × JsonValue)) :
      (printFields inner fields).toList = further inner (fieldText inner) fields := by
    induction fields with
    | nil => rfl
    | cons f fields ih => simp [printFields, further, newLine, fieldText, valueText, ih]
  simp [valueText, print, lines, newLine, fieldText, hfurther]

/-- The value is read back from what is printed for it, however far it is indented. -/
structure Readable (v : JsonValue) : Prop where
  head : ∀ indent, (valueText indent v).head?.any (fun c => !isGap c && c != ']') = true
  reads : ∀ indent depth, indent.toList.all isGap = true → (valueText indent v).length ≤ depth + 1 →
    ReadsBack (nested (depth + 1)) (valueText indent) v

theorem Readable.length_pos {v : JsonValue} (h : Readable v) (indent : String) :
    0 < (valueText indent v).length := by
  have hhead := h.head indent
  cases htext : valueText indent v with
  | nil => simp [htext] at hhead
  | cons c more => exact Nat.zero_lt_succ _

theorem Readable.exists_depth {v : JsonValue} (h : Readable v) {depth : Nat}
    (hroom : (valueText indent v).length ≤ depth) : ∃ d, depth = d + 1 :=
  Nat.exists_eq_add_one.2 (Nat.lt_of_lt_of_le (h.length_pos indent) hroom)

theorem Readable.field {f : String × JsonValue} (h : Readable f.2) {depth : Nat}
    (hindent : indent.toList.all isGap = true) (hroom : (valueText indent f.2).length ≤ depth + 1) :
    ReadsBack (do let key ← string; mark ':'; return (key, ← nested (depth + 1)))
      (fieldText indent) f := by
  intro lead rest hlead hrest
  let more := [' '] ++ valueText indent f.2 ++ rest
  have htext : lead ++ fieldText indent f ++ rest =
      lead ++ (printString f.1).toList ++ ':' :: more := by
    simp [fieldText, more]
  have hkey := string_run hlead f.1 (':' :: more)
  have hmark : mark ':' (':' :: more) = some ((), more) := mark_run List.all_nil rfl
  have hvalue := h.reads _ depth hindent hroom [' '] rest rfl hrest
  rw [htext, bind_run hkey, bind_run hmark, bind_run hvalue]
  rfl

theorem nested_run (lead : List Char) (hlead : lead.all isGap = true) {text : List Char}
    (htext : text.head?.any (!isGap ·) = true) (depth : Nat) :
    nested (depth + 1) (lead ++ text) = nested (depth + 1) text := by
  have hhead : text.head?.any isGap = false := by
    cases text with
    | nil => rfl
    | cons c more => simpa using htext
  rw [nested, bind_run (gaps_run hlead hhead), bind_run (gaps_none hhead)]

variable {text : List Char} {depth : Nat}

theorem nested_peek {c : Char} (hc : isGap c = false) :
    nested (depth + 1) (c :: text) = startingWith (nested depth) (some c) (c :: text) := by
  have hgaps : gaps (c :: text) = some ((), c :: text) := gaps_none hc
  rw [nested, bind_run hgaps, bind_run (peek_run _), List.head?_cons]

theorem startingWith_digit {c : Char} (hc : c.isDigit = true) (inner : Reader JsonValue) :
    startingWith inner (some c) = do return .number (← numeral) := by
  unfold startingWith
  split <;> first | rfl | cases hc | simp_all

theorem readable_null : Readable .null where
  head indent := by rw [valueText, print]; rfl
  reads indent depth hindent hdepth lead rest hlead hrest := by
    have hprinted : valueText indent .null = ['n', 'u', 'l', 'l'] := by rw [valueText, print]; rfl
    rw [hprinted, List.append_assoc, nested_run lead hlead rfl]
    rfl

theorem readable_boolean (on : Bool) : Readable (.boolean on) where
  head indent := by cases on <;> rw [valueText, print] <;> rfl
  reads indent depth hindent hdepth lead rest hlead hrest := by
    have hprinted : valueText indent (.boolean on) =
        if on then ['t', 'r', 'u', 'e'] else ['f', 'a', 'l', 's', 'e'] := by
      cases on <;> rw [valueText, print] <;> rfl
    rw [hprinted, List.append_assoc]
    cases on <;> exact nested_run lead hlead rfl depth

theorem readable_string (text : String) : Readable (.string text) where
  head indent := by rw [valueText, print, toList_printString]; rfl
  reads indent depth hindent hdepth lead rest hlead hrest := by
    have hstring : string ((printString text).toList ++ rest) = some (text, rest) :=
      string_run List.all_nil text rest
    rw [valueText, print, List.append_assoc]
    rw [toList_printString] at hstring ⊢
    rw [nested_run lead hlead rfl]
    exact (nested_peek rfl).trans (bind_run hstring)

theorem IsNumber.exists_cons {text : String} (h : IsNumber text) :
    ∃ c more, text.toList = c :: more ∧ c.isDigit = true := by
  cases htext : text.toList with
  | nil => simp [IsNumber, htext] at h
  | cons c more => exact ⟨c, more, rfl, by simpa [htext] using h.1⟩

theorem IsNumber.head_append {text : String} (h : IsNumber text) (rest : List Char) :
    (text.toList ++ rest).head?.any isGap = false := by
  obtain ⟨c, more, htext, hc⟩ := h.exists_cons
  rw [htext]
  exact not_isGap_of_isDigit hc

theorem numeral_run {text : String} (h : IsNumber text) (hrest : Ends rest) :
    numeral (text.toList ++ rest) = some (text, rest) := by
  have hgaps : gaps (text.toList ++ rest) = some ((), text.toList ++ rest) :=
    gaps_none (h.head_append rest)
  have hget (text : List Char) : (get : Reader (List Char)) text = some (text, text) := rfl
  rw [numeral, bind_run hgaps, bind_run (hget _), bind_run (h.2 rest hrest), bind_run (hget rest),
    List.length_append, Nat.add_sub_cancel, List.take_left, String.ofList_toList]
  rfl

theorem readable_number {text : String} (h : IsNumber text) : Readable (.number text) where
  head indent := by
    obtain ⟨c, more, htext, hc⟩ := h.exists_cons
    have hclose : c ≠ ']' := by
      rintro rfl
      cases hc
    simp [valueText, print, htext, not_isGap_of_isDigit hc, hclose]
  reads indent depth hindent hdepth lead rest hlead hrest := by
    obtain ⟨c, more, htext, hc⟩ := h.exists_cons
    have hhead : (text.toList ++ rest).head?.any (!isGap ·) = true := by
      simp [htext, not_isGap_of_isDigit hc]
    have hread := numeral_run h hrest
    rw [valueText, print, List.append_assoc, nested_run lead hlead hhead]
    rw [htext, List.cons_append] at hread ⊢
    rw [nested_peek (not_isGap_of_isDigit hc), startingWith_digit hc]
    exact bind_run hread

theorem readable_array {vs : List JsonValue} (h : ∀ v ∈ vs, Readable v) : Readable (.array vs) where
  head indent := by
    cases vs with
    | nil => rw [valueText, print]; rfl
    | cons v vs => rw [valueText_array]; rfl
  reads indent depth hindent hdepth lead rest hlead hrest := by
    cases vs with
    | nil =>
      have hprinted : valueText indent (.array []) = ['[', ']'] := by rw [valueText, print]; rfl
      rw [hprinted, List.append_assoc, nested_run lead hlead rfl]
      exact (nested_peek rfl).trans (bind_run (bracketed_nil rfl rfl [] rfl))
    | cons v vs =>
      rw [valueText_array] at hdepth ⊢
      have hroom : ∀ b ∈ v :: vs, (valueText (indent ++ "  ") b).length ≤ depth := fun b hb =>
        Nat.le_of_lt_succ (Nat.lt_of_lt_of_le (length_lt_lines '[' ']' hb) hdepth)
      obtain ⟨depth, rfl⟩ := (h v List.mem_cons_self).exists_depth (hroom v List.mem_cons_self)
      have hitems : ∀ b ∈ v :: vs,
          ReadsBack (nested (depth + 1)) (valueText (indent ++ "  ")) b :=
        fun b hb => (h b hb).reads _ depth (inner_gap hindent) (hroom b hb)
      rw [List.append_assoc, nested_run lead hlead rfl]
      exact (nested_peek rfl).trans (bind_run (bracketed_run ⟨rfl, by decide⟩ hindent rfl [] rfl
        ((h v List.mem_cons_self).head _) hitems))

theorem readable_object {fields : List (String × JsonValue)} (h : ∀ f ∈ fields, Readable f.2) :
    Readable (.object fields) where
  head indent := by
    cases fields with
    | nil => rw [valueText, print]; rfl
    | cons f fields => rw [valueText_object]; rfl
  reads indent depth hindent hdepth lead rest hlead hrest := by
    cases fields with
    | nil =>
      have hprinted : valueText indent (.object []) = ['{', '}'] := by rw [valueText, print]; rfl
      rw [hprinted, List.append_assoc, nested_run lead hlead rfl]
      exact (nested_peek rfl).trans (bind_run (bracketed_nil rfl rfl [] rfl))
    | cons f fields =>
      rw [valueText_object] at hdepth ⊢
      have hroom : ∀ b ∈ f :: fields, (valueText (indent ++ "  ") b.2).length ≤ depth := by
        intro b hb
        have hlt := Nat.lt_of_lt_of_le (length_lt_lines '{' '}' hb) hdepth
        simp only [fieldText, List.length_append, List.length_cons] at hlt
        omega
      obtain ⟨depth, rfl⟩ := (h f List.mem_cons_self).exists_depth (hroom f List.mem_cons_self)
      have hitems : ∀ b ∈ f :: fields, ReadsBack
          (do let key ← string; mark ':'; return (key, ← nested (depth + 1)))
          (fieldText (indent ++ "  ")) b :=
        fun b hb => (h b hb).field (inner_gap hindent) (hroom b hb)
      rw [List.append_assoc, nested_run lead hlead rfl]
      exact (nested_peek rfl).trans (bind_run (bracketed_run ⟨rfl, by decide⟩ hindent rfl [] rfl (by
        rw [fieldText, toList_printString]; rfl) hitems))

/-- Every number that the value holds is one. -/
inductive Printable : JsonValue → Prop
  | null : Printable .null
  | boolean (on : Bool) : Printable (.boolean on)
  | number {text : String} : IsNumber text → Printable (.number text)
  | string (text : String) : Printable (.string text)
  | array {vs : List JsonValue} : (∀ v ∈ vs, Printable v) → Printable (.array vs)
  | object {fields : List (String × JsonValue)} :
      (∀ f ∈ fields, Printable f.2) → Printable (.object fields)

theorem Printable.readable {v : JsonValue} (h : Printable v) : Readable v := by
  induction h with
  | null => exact readable_null
  | boolean on => exact readable_boolean on
  | number htext => exact readable_number htext
  | string text => exact readable_string text
  | array _ ih => exact readable_array ih
  | object _ ih => exact readable_object ih

theorem read?_print {v : JsonValue} (h : Printable v) : read? (v.print "") = some v := by
  have hread := h.readable.reads "" (valueText "" v).length rfl (Nat.le_succ _) [] [] rfl rfl
  rw [List.nil_append, List.append_nil] at hread
  have hvalue : value (v.print "").toList = some (v, []) := hread
  have hdocument : (do let a ← value; gaps; return a : Reader JsonValue) (v.print "").toList =
      some (v, []) := by
    rw [bind_run hvalue]
    rfl
  rw [read?, document?, whole, StateT.run, hdocument]
  rfl

end SemanticWiki.Json
