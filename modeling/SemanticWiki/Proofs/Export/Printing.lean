import SemanticWiki.Proofs.Export.Markup

/-! The text that is printed for an element is that of the element, whatever stands behind it: on one
line, in a block, and in a document. -/

namespace SemanticWiki.Xml

variable {name indent : String} {attributes : List (String × String)}
  {tree : Xml} {trees children siblings : List Xml} {raw rest : List Char}

def IsTag (name : String) (keys : List String) : Prop :=
  IsTagName name ∧ (∀ key ∈ keys, IsTagName key) ∧ keys.Nodup

instance (name : String) (keys : List String) : Decidable (IsTag name keys) :=
  inferInstanceAs (Decidable (_ ∧ _ ∧ _))

theorem attributed_attributeText (hnames : ∀ key ∈ attributes.map Prod.fst, IsTagName key)
    (hdistinct : (attributes.map Prod.fst).Nodup) :
    Attributed attributes (attributeText attributes).toList := by
  induction attributes with
  | nil => exact .nil
  | cons pair attributes ih =>
    obtain ⟨name, value⟩ := pair
    obtain ⟨hname, hothers⟩ := List.forall_mem_cons.1 hnames
    obtain ⟨hnew, hdifferent⟩ := List.nodup_cons.1 hdistinct
    obtain ⟨hclean, hvalue⟩ := escape_clean value
    have htext : (attributeText ((name, value) :: attributes)).toList =
        ' ' :: (name.toList ++ '=' :: '"' :: ((escape value).toList ++
          '"' :: (attributeText attributes).toList)) := by
      simp [attributeText]
    rw [htext]
    exact .cons hname hnew hclean hvalue (ih hothers hdifferent)

def opened (name : String) (attributes : List (String × String)) : List Char :=
  '<' :: (name.toList ++ (attributeText attributes).toList)

theorem IsTag.opening (h : IsTag name (attributes.map Prod.fst)) :
    Opening name attributes (opened name attributes) :=
  .intro h.1 (attributed_attributeText h.2.1 h.2.2)

def IsTextOf (tree : Xml) (raw : List Char) : Prop :=
  ∀ (siblings : List Xml) (rest : List Char), Written siblings rest →
    Written (tree :: siblings) (raw ++ rest)

theorem IsTextOf.written (h : IsTextOf tree raw) : Written [tree] raw := by
  have hbehind := h [] [] (.nil (List.forall_mem_nil _))
  rwa [List.append_nil] at hbehind

theorem Written.blanks_append {space : List Char} (hblank : ∀ c ∈ space, isLayout c = true)
    (h : Written trees raw) : Written trees (space ++ raw) := by
  have hboth {space' : List Char} (hblank' : ∀ c ∈ space', isLayout c = true) :
      ∀ c ∈ space ++ space', isLayout c = true :=
    fun c hc => (List.mem_append.1 hc).elim (hblank c) (hblank' c)
  cases h with
  | nil hblank' => exact .nil (hboth hblank')
  | empty hblank' hopening hrest =>
    rw [← List.append_assoc]
    exact .empty (hboth hblank') hopening hrest
  | leaf hblank' hopening hclean hcontent hrest =>
    rw [← List.append_assoc]
    exact .leaf (hboth hblank') hopening hclean hcontent hrest
  | node hblank' hopening hchildren hrest =>
    rw [← List.append_assoc]
    exact .node (hboth hblank') hopening hchildren hrest

theorem IsTextOf.blanks {front back : List Char} (h : IsTextOf tree raw)
    (hfront : ∀ c ∈ front, isLayout c = true) (hback : ∀ c ∈ back, isLayout c = true) :
    IsTextOf tree (front ++ (raw ++ back)) := by
  intro siblings rest hrest
  rw [List.append_assoc, List.append_assoc]
  exact (h _ _ (hrest.blanks_append hback)).blanks_append hfront

theorem written_flatMap {print : Xml → List Char} (h : ∀ tree ∈ trees, IsTextOf tree (print tree))
    (hrest : Written siblings rest) : Written (trees ++ siblings) (trees.flatMap print ++ rest) := by
  induction trees with
  | nil => exact hrest
  | cons tree trees ih =>
    obtain ⟨htree, hothers⟩ := List.forall_mem_cons.1 h
    rw [List.flatMap_cons, List.append_assoc]
    exact htree _ _ (ih hothers)

theorem isLayout_newline : ∀ c ∈ ['\n'], isLayout c = true := by simp [isLayout]

theorem isLayout_spaces : ∀ c ∈ "    ".toList, isLayout c = true := by simp [isLayout]

theorem isTextOf_node {print : Xml → List Char} {child : Xml} {front back : List Char}
    (htag : IsTag name (attributes.map Prod.fst)) (hfront : ∀ c ∈ front, isLayout c = true)
    (hback : ∀ c ∈ back, isLayout c = true) (h : ∀ tree ∈ child :: children, IsTextOf tree (print tree)) :
    IsTextOf (.element name attributes (child :: children))
      (opened name attributes ++ '>' ::
        (front ++ ((child :: children).flatMap print ++ (back ++ closing name)))) := by
  intro siblings rest hrest
  have hinner := (written_flatMap h (.nil hback)).blanks_append hfront
  rw [List.append_nil] at hinner
  have hnode := Written.node (List.forall_mem_nil _) htag.opening
    hinner hrest
  simpa only [List.nil_append, List.append_assoc, List.cons_append] using hnode

/-! Elements that are printed on one line. -/

/-- An element with tags that can be read, and with either a text or elements in it. -/
inductive Tidy : Xml → Prop
  | empty {name : String} {attributes : List (String × String)}
      (htag : IsTag name (attributes.map Prod.fst)) : Tidy (.element name attributes [])
  | leaf {name content : String} {attributes : List (String × String)}
      (htag : IsTag name (attributes.map Prod.fst)) :
      Tidy (.element name attributes [.text content])
  | node {name : String} {attributes : List (String × String)} {child : Xml} {children : List Xml}
      (htag : IsTag name (attributes.map Prod.fst))
      (hchildren : ∀ tree ∈ child :: children, Tidy tree) :
      Tidy (.element name attributes (child :: children))

theorem toList_inlineAll (trees : List Xml) :
    (inlineAll trees).toList = trees.flatMap fun tree => (inline tree).toList := by
  induction trees with
  | nil => rfl
  | cons tree trees ih => rw [inlineAll, String.toList_append, ih, List.flatMap_cons]

theorem toList_inline_empty (name : String) (attributes : List (String × String)) :
    (inline (.element name attributes [])).toList = opened name attributes ++ ['/', '>'] := by
  simp [inline, opened]

theorem toList_inline_cons (name : String) (attributes : List (String × String)) (child : Xml)
    (children : List Xml) :
    (inline (.element name attributes (child :: children))).toList =
      opened name attributes ++ '>' ::
        ((child :: children).flatMap (fun tree => (inline tree).toList) ++ closing name) := by
  simp [inline, toList_inlineAll, opened, closing]

theorem Tidy.isTextOf (h : Tidy tree) : IsTextOf tree (inline tree).toList := by
  induction h with
  | @empty name attributes htag =>
    intro siblings rest hrest
    have hempty := Written.empty (List.forall_mem_nil _)
      htag.opening hrest
    rw [toList_inline_empty, List.append_assoc]
    exact hempty
  | @leaf name content attributes htag =>
    intro siblings rest hrest
    obtain ⟨hclean, hcontent⟩ := escape_clean content
    have hleaf := Written.leaf (List.forall_mem_nil _)
      htag.opening hclean hcontent hrest
    rw [toList_inline_cons]
    simpa [inline] using hleaf
  | @node name attributes child children htag hchildren ih =>
    have hnode := isTextOf_node htag
      (List.forall_mem_nil _) (List.forall_mem_nil _) ih
    rw [toList_inline_cons]
    exact hnode

/-! Blocks and documents. -/

inductive Block : Xml → Prop
  | intro {name : String} {attributes : List (String × String)} {children : List Xml}
      (htag : IsTag name (attributes.map Prod.fst)) (hchildren : ∀ tree ∈ children, Tidy tree) :
      Block (.element name attributes children)

theorem Block.isTextOf (h : Block tree) (hindent : ∀ c ∈ indent.toList, isLayout c = true) :
    IsTextOf tree (block indent tree).toList := by
  cases h with
  | @intro name attributes children htag hchildren =>
    cases children with
    | nil =>
      have hline := (Tidy.empty htag).isTextOf.blanks hindent isLayout_newline
      simpa [block] using hline
    | cons child children =>
      have hlead : ∀ c ∈ (indent ++ "    ").toList, isLayout c = true := by
        intro c hc
        rw [String.toList_append, List.mem_append] at hc
        exact hc.elim (hindent c) (isLayout_spaces c)
      have hlines : ∀ tree ∈ child :: children, IsTextOf tree
          ((indent ++ "    ").toList ++ ((inline tree).toList ++ ['\n'])) :=
        fun tree htree => (hchildren tree htree).isTextOf.blanks hlead isLayout_newline
      have hnode := isTextOf_node htag isLayout_newline hindent hlines
      have hblock := hnode.blanks hindent isLayout_newline
      simpa [block, opened, closing, List.flatMap_map] using hblock

theorem written_document (attributes : List (String × String))
    (htag : IsTag name (attributes.map Prod.fst)) (hchildren : children ≠ [])
    (hblocks : ∀ tree ∈ children, Block tree) :
    ∃ body, document name attributes children = "<?xml version=\"1.0\"?>\n" ++ body ∧
      Written [.element name attributes children] body.toList := by
  obtain ⟨child, others, rfl⟩ := List.exists_cons_of_ne_nil hchildren
  have htexts : ∀ tree ∈ child :: others, IsTextOf tree (block "    " tree).toList :=
    fun tree htree => (hblocks tree htree).isTextOf isLayout_spaces
  have hnode := isTextOf_node htag isLayout_newline (List.forall_mem_nil _) htexts
  have hroot := hnode.blanks (List.forall_mem_nil _) isLayout_newline
  refine ⟨"<" ++ name ++ attributeText attributes ++ ">\n" ++
    String.join ((child :: others).map (block "    ")) ++ "</" ++ name ++ ">\n", ?_, ?_⟩
  · unfold document
    simp only [String.append_assoc]
  · simpa [opened, closing, List.flatMap_map] using hroot.written

end SemanticWiki.Xml
