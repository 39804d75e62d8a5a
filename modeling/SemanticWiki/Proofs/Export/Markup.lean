import SemanticWiki.Proofs.Export.Escaping
import SemanticWiki.Proofs.Text.Coding

/-! Written elements. What stands between tags and quotes is clean, and every start tag has the end tag
of its name behind it, with whole elements or with a text in between. A text can be taken for a sequence
of elements in one way at most. -/

namespace SemanticWiki.Xml

open Text

def IsTagName (name : String) : Prop := name ≠ "" ∧ name.toList.all Char.isAlpha = true

instance : DecidablePred IsTagName := fun _ => inferInstanceAs (Decidable (_ ∧ _))

theorem IsTagName.isAlpha {name : String} (h : IsTagName name) : ∀ c ∈ name.toList, c.isAlpha = true :=
  List.all_eq_true.1 h.2

/-- Attributes as they stand in a tag, each with another name and with its value in quotes. -/
inductive Attributed : List (String × String) → List Char → Prop
  | nil : Attributed [] []
  | cons {name value : String} {attributes : List (String × String)} {raw rest : List Char}
      (hname : IsTagName name) (hnew : name ∉ attributes.map Prod.fst) (hclean : Clean raw)
      (hvalue : resolve raw = value.toList) (hrest : Attributed attributes rest) :
      Attributed ((name, value) :: attributes)
        (' ' :: (name.toList ++ '=' :: '"' :: (raw ++ '"' :: rest)))

inductive Opening (name : String) (attributes : List (String × String)) : List Char → Prop
  | intro {raw : List Char} (hname : IsTagName name) (hattributes : Attributed attributes raw) :
      Opening name attributes ('<' :: (name.toList ++ raw))

def closing (name : String) : List Char := '<' :: '/' :: (name.toList ++ ['>'])

def isLayout (c : Char) : Bool := c == ' ' || c == '\n'

/-- Elements that follow each other, with nothing but blanks around them. An element is an empty tag,
or has a text or elements between its start tag and its end tag. -/
inductive Written : List Xml → List Char → Prop
  | nil {space : List Char} (hblank : ∀ c ∈ space, isLayout c = true) : Written [] space
  | empty {name : String} {attributes : List (String × String)} {siblings : List Xml}
      {space opening rest : List Char} (hblank : ∀ c ∈ space, isLayout c = true)
      (hopening : Opening name attributes opening) (hrest : Written siblings rest) :
      Written (.element name attributes [] :: siblings) (space ++ (opening ++ '/' :: '>' :: rest))
  | leaf {name content : String} {attributes : List (String × String)} {siblings : List Xml}
      {space opening raw rest : List Char} (hblank : ∀ c ∈ space, isLayout c = true)
      (hopening : Opening name attributes opening) (hclean : Clean raw)
      (hcontent : resolve raw = content.toList) (hrest : Written siblings rest) :
      Written (.element name attributes [.text content] :: siblings)
        (space ++ (opening ++ '>' :: (raw ++ (closing name ++ rest))))
  | node {name : String} {attributes : List (String × String)} {child : Xml}
      {children siblings : List Xml} {space opening inner rest : List Char}
      (hblank : ∀ c ∈ space, isLayout c = true) (hopening : Opening name attributes opening)
      (hchildren : Written (child :: children) inner) (hrest : Written siblings rest) :
      Written (.element name attributes (child :: children) :: siblings)
        (space ++ (opening ++ '>' :: (inner ++ (closing name ++ rest))))

variable {name name' : String} {attributes attributes' : List (String × String)}
  {trees trees' siblings : List Xml} {raw raw' opening opening' rest rest' : List Char}

/-! How a tag is read. -/

def EndsTag (c : Char) : Prop := c = '/' ∨ c = '>'

theorem Attributed.unique (h : Attributed attributes raw) (h' : Attributed attributes' raw')
    {c c' : Char} (hc : EndsTag c) (hc' : EndsTag c') (hsame : raw ++ c :: rest = raw' ++ c' :: rest') :
    attributes = attributes' ∧ c :: rest = c' :: rest' := by
  have hspace {d : Char} (hd : EndsTag d) : d ≠ ' ' := by
    rcases hd with rfl | rfl <;> decide
  induction h generalizing attributes' raw' with
  | nil =>
    cases h' with
    | nil => exact ⟨rfl, hsame⟩
    | cons => exact absurd (List.cons.inj hsame).1 (hspace hc)
  | @cons name value attributes raw rear hname hnew hclean hvalue hrest ih =>
    cases h' with
    | nil => exact absurd (List.cons.inj hsame).1.symm (hspace hc')
    | @cons name' value' attributes' raw' rear' hname' hnew' hclean' hvalue' hrest' =>
      simp only [List.cons_append, List.append_assoc] at hsame
      obtain ⟨hnames, hsame⟩ := boundary hname.isAlpha hname'.isAlpha rfl rfl (List.cons.inj hsame).2
      have hunquoted {text : List Char} (htext : Clean text) : ∀ c ∈ text, (c != '"') = true :=
        fun c hc => bne_iff_ne.2 (htext.unmarked c hc).2.2.1
      obtain ⟨hraw, hsame⟩ := boundary (hunquoted hclean) (hunquoted hclean') rfl rfl
        (List.cons.inj (List.cons.inj hsame).2).2
      obtain ⟨hattributes, hend⟩ := ih hrest' (List.cons.inj hsame).2
      have hvalues : value = value' := String.toList_inj.1 (by rw [← hvalue, ← hvalue', hraw])
      rw [String.toList_inj.1 hnames, hvalues, hattributes]
      exact ⟨rfl, hend⟩

theorem Opening.front (h : Opening name attributes opening) :
    ∃ c rest, opening = '<' :: c :: rest ∧ c.isAlpha = true := by
  cases h with
  | intro hname hattributes =>
    obtain ⟨c, letters, hletters⟩ := List.exists_cons_of_ne_nil
      (mt String.toList_eq_nil_iff.1 hname.1)
    exact ⟨c, _, by rw [hletters, List.cons_append], hname.isAlpha c (by simp [hletters])⟩

theorem Opening.unique (h : Opening name attributes opening)
    (h' : Opening name' attributes' opening') {c c' : Char} (hc : EndsTag c) (hc' : EndsTag c')
    (hsame : opening ++ c :: rest = opening' ++ c' :: rest') :
    name = name' ∧ attributes = attributes' ∧ c :: rest = c' :: rest' := by
  have hbehind {attributes : List (String × String)} {raw : List Char} {c : Char}
      (hraw : Attributed attributes raw) (hc : EndsTag c) (rest : List Char) :
      ∃ d tail, raw ++ c :: rest = d :: tail ∧ d.isAlpha = false := by
    cases hraw with
    | nil => exact ⟨c, rest, rfl, by rcases hc with rfl | rfl <;> rfl⟩
    | cons => exact ⟨' ', _, rfl, rfl⟩
  cases h with
  | @intro raw hname hattributes =>
    cases h' with
    | @intro raw' hname' hattributes' =>
      simp only [List.cons_append, List.append_assoc] at hsame
      obtain ⟨d, tail, htail, hd⟩ := hbehind hattributes hc rest
      obtain ⟨d', tail', htail', hd'⟩ := hbehind hattributes' hc' rest'
      have htexts := (List.cons.inj hsame).2
      rw [htail, htail'] at htexts
      obtain ⟨hnames, hends⟩ := boundary hname.isAlpha hname'.isAlpha hd hd' htexts
      rw [← htail, ← htail'] at hends
      exact ⟨String.toList_inj.1 hnames, hattributes.unique hattributes' hc hc' hends⟩

/-! How elements are read. -/

/-- What stands behind the tag of the first of some elements, up to its end. -/
inductive Remainder (name : String) : List Xml → List Xml → List Char → Prop
  | empty {siblings : List Xml} {rest : List Char} (hrest : Written siblings rest) :
      Remainder name [] siblings ('/' :: '>' :: rest)
  | leaf {content : String} {siblings : List Xml} {raw rest : List Char} (hclean : Clean raw)
      (hcontent : resolve raw = content.toList) (hrest : Written siblings rest) :
      Remainder name [.text content] siblings ('>' :: (raw ++ (closing name ++ rest)))
  | node {child : Xml} {children siblings : List Xml} {inner rest : List Char}
      (hchildren : Written (child :: children) inner) (hrest : Written siblings rest) :
      Remainder name (child :: children) siblings ('>' :: (inner ++ (closing name ++ rest)))

theorem Remainder.front {children : List Xml} (h : Remainder name children siblings rest) :
    ∃ c tail, rest = c :: tail ∧ EndsTag c := by
  cases h with
  | empty => exact ⟨'/', _, rfl, .inl rfl⟩
  | leaf | node => exact ⟨'>', _, rfl, .inr rfl⟩

theorem Written.cases (h : Written trees raw) :
    (trees = [] ∧ ∀ c ∈ raw, isLayout c = true) ∨
      ∃ name attributes children siblings space opening rest,
        trees = .element name attributes children :: siblings ∧ raw = space ++ (opening ++ rest) ∧
        (∀ c ∈ space, isLayout c = true) ∧ Opening name attributes opening ∧
        Remainder name children siblings rest := by
  cases h with
  | nil hblank => exact .inl ⟨rfl, hblank⟩
  | empty hblank hopening hrest =>
    exact .inr ⟨_, _, _, _, _, _, _, rfl, rfl, hblank, hopening, .empty hrest⟩
  | leaf hblank hopening hclean hcontent hrest =>
    exact .inr ⟨_, _, _, _, _, _, _, rfl, rfl, hblank, hopening, .leaf hclean hcontent hrest⟩
  | node hblank hopening hchildren hrest =>
    exact .inr ⟨_, _, _, _, _, _, _, rfl, rfl, hblank, hopening, .node hchildren hrest⟩

def Stops (stop : List Char) : Prop := stop = [] ∨ ∃ rest, stop = '<' :: '/' :: rest

theorem stops_closing (name : String) (rest : List Char) : Stops (closing name ++ rest) :=
  .inr ⟨_, rfl⟩

theorem Opening.not_stops (h : Opening name attributes opening) (rest : List Char) :
    ¬ Stops (opening ++ rest) := by
  obtain ⟨c, tail, rfl, hc⟩ := h.front
  rintro (hnil | ⟨behind, hend⟩)
  · cases hnil
  · obtain rfl := (List.cons.inj (List.cons.inj hend).2).1
    exact absurd hc (by decide)

theorem eq_of_blanks {space space' text text' : List Char}
    (hblank : ∀ c ∈ space, isLayout c = true) (hblank' : ∀ c ∈ space', isLayout c = true)
    (htext : ∀ c ∈ text.head?, isLayout c = false) (htext' : ∀ c ∈ text'.head?, isLayout c = false)
    (h : space ++ text = space' ++ text') : text = text' := by
  have hdrop {text : List Char} (htext : ∀ c ∈ text.head?, isLayout c = false) :
      text.dropWhile isLayout = text := by
    cases text with
    | nil => rfl
    | cons c rest => exact List.dropWhile_cons_of_neg (by simp [htext c rfl])
  have hdropped := congrArg (List.dropWhile isLayout) h
  rwa [List.dropWhile_append_of_pos hblank, List.dropWhile_append_of_pos hblank', hdrop htext,
    hdrop htext'] at hdropped

theorem Stops.head {stop : List Char} (h : Stops stop) : ∀ c ∈ stop.head?, isLayout c = false := by
  rcases h with rfl | ⟨rest, rfl⟩ <;> simp [isLayout]

theorem Opening.head (h : Opening name attributes opening) (rest : List Char) :
    ∀ c ∈ (opening ++ rest).head?, isLayout c = false := by
  obtain ⟨c, tail, rfl, -⟩ := h.front
  simp [isLayout]

theorem Written.aligned (h : Written trees raw) {space stop : List Char} {c : Char}
    (hblank : ∀ c ∈ space, isLayout c = true) (hopening : Opening name attributes opening)
    (hc : EndsTag c) (hstop : Stops stop) (hsame : space ++ (opening ++ c :: rest) = raw ++ stop) :
    ∃ children siblings tail, trees = .element name attributes children :: siblings ∧
      Remainder name children siblings tail ∧ c :: rest = tail ++ stop := by
  rcases h.cases with ⟨rfl, hraw⟩ | ⟨name', attributes', children, siblings, space', opening', tail,
    rfl, rfl, hblank', hopening', hremainder⟩
  · have hends := eq_of_blanks hblank hraw (hopening.head _) hstop.head hsame
    exact absurd (hends ▸ hstop) (hopening.not_stops _)
  · obtain ⟨d, tail', htail, hd⟩ := hremainder.front
    rw [List.append_assoc, List.append_assoc] at hsame
    have htags := eq_of_blanks hblank hblank' (hopening.head _) (hopening'.head _) hsame
    rw [htail, List.cons_append] at htags
    obtain ⟨rfl, rfl, hends⟩ := hopening.unique hopening' hc hd htags
    refine ⟨children, siblings, tail, rfl, hremainder, ?_⟩
    rw [htail, List.cons_append]
    exact hends

theorem Written.front {tree : Xml} (h : Written (tree :: siblings) raw) :
    ∃ space c rest, raw = space ++ '<' :: c :: rest ∧ (∀ d ∈ space, isLayout d = true) ∧
      c.isAlpha = true := by
  rcases h.cases with ⟨hnil, -⟩ | ⟨_, _, _, _, space, _, rest, -, rfl, hblank, hopening, -⟩
  · cases hnil
  · obtain ⟨c, tail, rfl, hc⟩ := hopening.front
    exact ⟨space, c, tail ++ rest, rfl, hblank, hc⟩

theorem Clean.free (h : Clean raw) : ∀ c ∈ raw, (c != '<') = true :=
  fun c hc => bne_iff_ne.2 (h.unmarked c hc).1

theorem Written.not_text {tree : Xml} (h : Written (tree :: siblings) raw') (hclean : Clean raw)
    {front : List Char} : raw ++ (closing name ++ rest) ≠ raw' ++ front := by
  obtain ⟨space, c, tail, rfl, hblank, hc⟩ := h.front
  intro hsame
  rw [List.append_assoc] at hsame
  have hfree : ∀ d ∈ space, (d != '<') = true := by
    intro d hd
    have hspace := hblank d hd
    simp only [isLayout, Bool.or_eq_true, beq_iff_eq] at hspace
    rcases hspace with rfl | rfl <;> rfl
  obtain ⟨-, htags⟩ := boundary hclean.free hfree rfl rfl hsame
  obtain rfl := (List.cons.inj (List.cons.inj htags).2).1
  exact absurd hc (by decide)

theorem Written.unique (h : Written trees raw) (h' : Written trees' raw') {stop stop' : List Char}
    (hstop : Stops stop) (hstop' : Stops stop') (hsame : raw ++ stop = raw' ++ stop') :
    trees = trees' ∧ stop = stop' := by
  -- on the first reading; its next tag is also that of the second one, and what follows the tag tells
  -- which kind of element both have there
  induction h generalizing trees' raw' stop stop' with
  | @nil space hblank =>
    rcases h'.cases with ⟨rfl, hblank'⟩ | ⟨_, _, _, _, space', opening', rest', rfl, rfl, hblank',
      hopening', -⟩
    · exact ⟨rfl, eq_of_blanks hblank hblank' hstop.head hstop'.head hsame⟩
    · rw [List.append_assoc, List.append_assoc] at hsame
      have hends := eq_of_blanks hblank hblank' hstop.head (hopening'.head _) hsame
      exact absurd (hends ▸ hstop) (hopening'.not_stops _)
  | @empty name attributes siblings space opening rest hblank hopening hrest ih =>
    simp only [List.append_assoc, List.cons_append] at hsame
    obtain ⟨children, siblings', tail, rfl, hremainder, hends⟩ :=
      h'.aligned hblank hopening (.inl rfl) hstop' hsame
    cases hremainder with
    | empty hrest' =>
      obtain ⟨rfl, rfl⟩ := ih hrest' hstop hstop' (List.cons.inj (List.cons.inj hends).2).2
      exact ⟨rfl, rfl⟩
    | leaf | node => exact absurd (List.cons.inj hends).1 (by decide)
  | @leaf name content attributes siblings space opening raw rest hblank hopening hclean hcontent
      hrest ih =>
    simp only [List.append_assoc, List.cons_append] at hsame
    obtain ⟨children, siblings', tail, rfl, hremainder, hends⟩ :=
      h'.aligned hblank hopening (.inr rfl) hstop' hsame
    cases hremainder with
    | empty => exact absurd (List.cons.inj hends).1 (by decide)
    | @leaf content' _ raw' rest' hclean' hcontent' hrest' =>
      simp only [List.append_assoc, List.cons_append] at hends
      obtain ⟨rfl, hbehind⟩ := boundary hclean.free hclean'.free rfl rfl (List.cons.inj hends).2
      have hclosings : closing name ++ (rest ++ stop) = closing name ++ (rest' ++ stop') := hbehind
      obtain rfl : content = content' := String.toList_inj.1 (hcontent.symm.trans hcontent')
      obtain ⟨rfl, rfl⟩ := ih hrest' hstop hstop' (List.append_cancel_left hclosings)
      exact ⟨rfl, rfl⟩
    | node hchildren' hrest' =>
      simp only [List.append_assoc, List.cons_append] at hends
      exact absurd (List.cons.inj hends).2 (hchildren'.not_text hclean)
  | @node name attributes child children siblings space opening inner rest hblank hopening hchildren
      hrest ihchildren ih =>
    simp only [List.append_assoc, List.cons_append] at hsame
    obtain ⟨children', siblings', tail, rfl, hremainder, hends⟩ :=
      h'.aligned hblank hopening (.inr rfl) hstop' hsame
    cases hremainder with
    | empty => exact absurd (List.cons.inj hends).1 (by decide)
    | leaf hclean' hcontent' hrest' =>
      simp only [List.append_assoc, List.cons_append] at hends
      exact absurd (List.cons.inj hends).2.symm (hchildren.not_text hclean')
    | node hchildren' hrest' =>
      simp only [List.append_assoc, List.cons_append] at hends
      obtain ⟨hsame', hclosings⟩ := ihchildren hchildren' (stops_closing name _)
        (stops_closing name _) (List.cons.inj hends).2
      obtain ⟨rfl, rfl⟩ := ih hrest' hstop hstop' (List.append_cancel_left hclosings)
      rw [hsame']
      exact ⟨rfl, rfl⟩

end SemanticWiki.Xml
