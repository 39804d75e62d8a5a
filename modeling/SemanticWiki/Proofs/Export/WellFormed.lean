import SemanticWiki.Proofs.Export.Faithfulness
import SemanticWiki.Proofs.Export.Printing

/-! Exports as documents of nested elements are well-formed, whatever their words and their base are, and
the identifiers and words are found in them as they are. Which characters a document may have at all is
left to its readers. -/

namespace SemanticWiki

namespace Xml

mutual

def nested : Xml → List Xml
  | text content => [text content]
  | element name attributes children => element name attributes children :: nestedAll children

def nestedAll : List Xml → List Xml
  | [] => []
  | child :: children => nested child ++ nestedAll children

end

def values (key : String) (tree : Xml) : List String :=
  tree.nested.flatMap fun
    | text _ => []
    | element _ attributes _ => (attributes.filter (·.1 == key)).map (·.2)

def textIn (name : String) : Xml → Option (String × String)
  | text content => some (name, content)
  | element .. => none

def texts (tree : Xml) : List (String × String) :=
  tree.nested.flatMap fun
    | text _ => []
    | element name _ children => children.filterMap (textIn name)

@[simp]
theorem textIn_text (name content : String) : textIn name (text content) = some (name, content) := rfl

@[simp]
theorem textIn_element (name other : String) (attributes : List (String × String))
    (children : List Xml) : textIn name (element other attributes children) = none := rfl

theorem nestedAll_eq_flatMap (trees : List Xml) : nestedAll trees = trees.flatMap nested := by
  induction trees with
  | nil => rfl
  | cons tree trees ih => rw [nestedAll, ih, List.flatMap_cons]

@[simp]
theorem values_text (key content : String) : (text content).values key = [] := rfl

@[simp]
theorem values_element (key name : String) (attributes : List (String × String))
    (children : List Xml) : (element name attributes children).values key =
      (attributes.filter (·.1 == key)).map (·.2) ++ children.flatMap (values key) := by
  rw [values, nested, List.flatMap_cons, nestedAll_eq_flatMap, List.flatMap_assoc]
  rfl

@[simp]
theorem texts_text (content : String) : (text content).texts = [] := rfl

@[simp]
theorem texts_element (name : String) (attributes : List (String × String)) (children : List Xml) :
    (element name attributes children).texts =
      children.filterMap (textIn name) ++ children.flatMap texts := by
  rw [texts, nested, List.flatMap_cons, nestedAll_eq_flatMap, List.flatMap_assoc]
  rfl

theorem Block.textIn_eq_none {tree : Xml} (h : Block tree) (name : String) : textIn name tree = none := by
  cases h
  rfl

end Xml

namespace Export.OwlXml

open Xml

variable {s : Snapshot} {annotate : Bool} {id : ElementId} {ax : Axiom} {node : Xml}

/-- What can be read from nodes that stand in blocks of their own. -/
structure Holds (nodes : List Xml) (iris : List String) (labels : List (String × String)) : Prop where
  blocks : ∀ node ∈ nodes, Block node
  iris : nodes.flatMap (values "IRI") = iris
  texts : nodes.flatMap texts = labels

theorem holds_nil : Holds [] [] [] := ⟨List.forall_mem_nil _, rfl, rfl⟩

theorem Holds.append {nodes nodes' : List Xml} {iris iris' : List String}
    {labels labels' : List (String × String)} (h : Holds nodes iris labels)
    (h' : Holds nodes' iris' labels') :
    Holds (nodes ++ nodes') (iris ++ iris') (labels ++ labels') where
  blocks node hnode := (List.mem_append.1 hnode).elim (h.blocks node) (h'.blocks node)
  iris := by rw [List.flatMap_append, h.iris, h'.iris]
  texts := by rw [List.flatMap_append, h.texts, h'.texts]

theorem holds_flatMap {nodesOf : Element → List Xml} {iriOf : Element → String}
    {labelsOf : Element → List (String × String)}
    (h : ∀ e, Holds (nodesOf e) [iriOf e] (labelsOf e)) (es : List Element) :
    Holds (es.flatMap nodesOf) (es.map iriOf) (es.flatMap labelsOf) := by
  induction es with
  | nil => exact holds_nil
  | cons e es ih => exact (h e).append ih

theorem tidy_entityNode (s : Snapshot) (e : Element) : Tidy (entityNode s e) := by
  have htag : ∀ kind, IsTag (entityType kind) ["IRI"] := by
    intro kind
    cases kind <;> decide
  exact .empty (htag e.kind)

theorem values_entityNode (s : Snapshot) (e : Element) :
    (entityNode s e).values "IRI" = [iriOf s e] := by
  simp [entityNode]

theorem holds_label (e : Element) (word : String) :
    Holds [label s e word] [] [("IRI", iriOf s e), ("Literal", Word.pretty word)] where
  blocks := by
    refine List.forall_mem_singleton.2 (.intro (by decide) ?_)
    simp only [List.forall_mem_cons]
    exact ⟨.empty (by decide), .leaf (by decide), .leaf (by decide), List.forall_mem_nil _⟩
  iris := by simp [label]
  texts := by simp [label, List.filterMap_cons]

theorem holds_labels (e : Element) (words : List String) :
    Holds (words.map (label s e)) []
      (words.flatMap fun word => [("IRI", iriOf s e), ("Literal", Word.pretty word)]) := by
  induction words with
  | nil => exact holds_nil
  | cons word words ih => exact (holds_label e word).append ih

theorem holds_declaration (annotate : Bool) (s : Snapshot) (e : Element) :
    Holds (declaration annotate s e) [iriOf s e] ((if annotate then e.words else []).flatMap
      fun word => [("IRI", iriOf s e), ("Literal", Word.pretty word)]) := by
  have hentity : Holds [.element "Declaration" [] [entityNode s e]] [iriOf s e] [] := by
    refine ⟨List.forall_mem_singleton.2 (.intro (by decide) ?_), ?_, ?_⟩
    · exact List.forall_mem_singleton.2 (tidy_entityNode s e)
    · simp [values_entityNode]
    · simp [entityNode]
  cases annotate with
  | false => exact hentity
  | true => exact hentity.append (holds_labels e e.words)

theorem entity_inv (h : entity s id = .ok node) :
    ∃ e, s.element? id = some e ∧ node = entityNode s e := by
  obtain ⟨e, he, hnode⟩ := bind_ok h
  unfold elementOf at he
  split at he
  · cases he
    exact ⟨e, by assumption, (Except.ok.inj hnode).symm⟩
  · cases he

theorem holds_entities {tag : String} (htag : IsTag tag []) (es : List Element) :
    Holds [.element tag [] (es.map (entityNode s))] (es.map (iriOf s)) [] where
  blocks := by
    refine List.forall_mem_singleton.2 (.intro htag fun node hnode => ?_)
    obtain ⟨e, -, rfl⟩ := List.mem_map.1 hnode
    exact tidy_entityNode s e
  iris := by
    have hsame : es.map (iriOf s) = es.flatMap fun e => [iriOf s e] := List.map_eq_flatMap
    simp [List.flatMap_map, values_entityNode, hsame]
  texts := by simp [List.flatMap_map, entityNode]

theorem axiomNode_holds (h : axiomNode s ax = .ok node) : ∃ mentioned : List Element,
    ax.arguments.map s.element? = mentioned.map some ∧
      Holds [node] (mentioned.map (iriOf s)) [] := by
  cases ax with
  | subClassOf | disjointClasses | classAssertion =>
    obtain ⟨_, hfirst, h⟩ := bind_ok h
    obtain ⟨_, hsecond, h⟩ := bind_ok h
    obtain ⟨e, he, rfl⟩ := entity_inv hfirst
    obtain ⟨f, hf, rfl⟩ := entity_inv hsecond
    obtain rfl := Except.ok.inj h
    refine ⟨[e, f], by simp [Axiom.arguments, he, hf], holds_entities ?_ [e, f]⟩
    decide
  | negativeClassAssertion individual cls =>
    obtain ⟨_, hcls, h⟩ := bind_ok h
    obtain ⟨_, hindividual, h⟩ := bind_ok h
    obtain ⟨e, he, rfl⟩ := entity_inv hcls
    obtain ⟨f, hf, rfl⟩ := entity_inv hindividual
    obtain rfl := Except.ok.inj h
    have hcomplement : Tidy (.element "ObjectComplementOf" [] [entityNode s e]) :=
      .node (by decide) (List.forall_mem_singleton.2 (tidy_entityNode s e))
    refine ⟨[e, f], by simp [Axiom.arguments, he, hf], ?_, ?_, ?_⟩
    · refine List.forall_mem_singleton.2 (.intro (by decide) ?_)
      simpa using ⟨hcomplement, tidy_entityNode s f⟩
    · simp [values_entityNode]
    · simp [entityNode]
  | objectPropertyAssertion subject property object =>
    obtain ⟨_, hproperty, h⟩ := bind_ok h
    obtain ⟨_, hsubject, h⟩ := bind_ok h
    obtain ⟨_, hobject, h⟩ := bind_ok h
    obtain ⟨e, he, rfl⟩ := entity_inv hproperty
    obtain ⟨f, hf, rfl⟩ := entity_inv hsubject
    obtain ⟨g, hg, rfl⟩ := entity_inv hobject
    obtain rfl := Except.ok.inj h
    refine ⟨[e, f, g], by simp [Axiom.arguments, he, hf, hg], holds_entities ?_ [e, f, g]⟩
    decide

theorem axiomNodes_hold {axioms : List Axiom} {nodes : List Xml}
    (h : axioms.mapM (axiomNode s) = .ok nodes) : ∃ mentioned : List Element,
    (axioms.flatMap Axiom.arguments).map s.element? = mentioned.map some ∧
      Holds nodes (mentioned.map (iriOf s)) [] := by
  induction axioms generalizing nodes with
  | nil =>
    cases h
    exact ⟨[], rfl, holds_nil⟩
  | cons ax axioms ih =>
    rw [List.mapM_cons] at h
    obtain ⟨node, hnode, h⟩ := bind_ok h
    obtain ⟨others, hothers, h⟩ := bind_ok h
    obtain rfl := Except.ok.inj h
    obtain ⟨first, hfirst, hholds⟩ := axiomNode_holds hnode
    obtain ⟨mentioned, hmentioned, hrest⟩ := ih hothers
    refine ⟨first ++ mentioned, ?_, ?_⟩
    · rw [List.flatMap_cons, List.map_append, List.map_append, hfirst, hmentioned]
    · rw [List.map_append]
      exact hholds.append hrest

theorem nodes_hold {nodes : List Xml} (h : OwlXml.nodes annotate s = .ok nodes) :
    ∃ mentioned : List Element,
      (s.axioms.flatMap Axiom.arguments).map s.element? = mentioned.map some ∧
      Holds nodes (owl :: rdfs :: (s.elements ++ mentioned).map (iriOf s))
        (s.elements.flatMap fun e => (if annotate then e.words else []).flatMap
          fun word => [("IRI", iriOf s e), ("Literal", Word.pretty word)]) := by
  obtain ⟨axioms, haxioms, h⟩ := bind_ok h
  obtain rfl := Except.ok.inj h
  obtain ⟨mentioned, hfound, hstated⟩ := axiomNodes_hold haxioms
  have hnamespace (name iri : String) : Block (namespaceNode name iri) :=
    .intro (by decide : IsTag "Prefix" ["name", "IRI"]) (List.forall_mem_nil _)
  have hvocabularies : Holds [namespaceNode "owl" owl, namespaceNode "rdfs" rdfs] [owl, rdfs] [] :=
    ⟨by simp [hnamespace], by simp [namespaceNode], by simp [namespaceNode]⟩
  have hdeclared := holds_flatMap (holds_declaration annotate s) s.elements
  exact ⟨mentioned, hfound, by simpa using (hvocabularies.append hdeclared).append hstated⟩

end Export.OwlXml

namespace Exporter

open Export

/-- Nothing is assumed of the base, or of the words but that they have been saved. -/
theorem owl_xml_well_formed {annotate : Bool} {s : Snapshot} {t : String}
    (ht : (owlXml annotate).run s = .ok t) :
    ∃ (body : String) (children : List Xml) (mentioned : List Element),
      let root := Xml.element "Ontology" [("xmlns", owl), ("ontologyIRI", s.baseIri)] children
      t = "<?xml version=\"1.0\"?>\n" ++ body ∧
      Xml.Written [root] body.toList ∧ (∀ trees, Xml.Written trees body.toList → trees = [root]) ∧
      (s.axioms.flatMap Axiom.arguments).map s.element? = mentioned.map some ∧
      root.values "IRI" =
        owl :: rdfs :: (s.elements ++ mentioned).map (fun e => s.baseIri ++ "#" ++ e.headword) ∧
      root.texts = s.elements.flatMap fun e => (if annotate then e.words else []).flatMap fun word =>
        [("IRI", s.baseIri ++ "#" ++ e.headword), ("Literal", Word.pretty word)] := by
  rw [run_ok_iff] at ht
  obtain ⟨children, hchildren, ht⟩ := bind_ok ht
  obtain rfl := Except.ok.inj ht
  obtain ⟨mentioned, hfound, hholds⟩ := OwlXml.nodes_hold hchildren
  have hsome : children ≠ [] := by
    rintro rfl
    exact absurd hholds.iris (List.cons_ne_nil _ _).symm
  have htag : Xml.IsTag "Ontology" ["xmlns", "ontologyIRI"] := by decide
  obtain ⟨body, htext, hwritten⟩ := Xml.written_document
    [("xmlns", owl), ("ontologyIRI", s.baseIri)] htag hsome hholds.blocks
  refine ⟨body, children, mentioned, htext, hwritten, fun trees htrees => ?_, hfound, ?_, ?_⟩
  · exact (htrees.unique hwritten (.inl rfl) (.inl rfl) rfl).1
  · rw [Xml.values_element]
    exact hholds.iris
  · have hown : children.filterMap (Xml.textIn "Ontology") = [] :=
      List.filterMap_eq_nil_iff.2 fun node hnode => (hholds.blocks node hnode).textIn_eq_none _
    rw [Xml.texts_element, hown]
    exact hholds.texts

/-! A laboratory that O'Neill is not, under a base with marks of every kind. -/

def laboratory : Element :=
  ⟨⟨.first⟩, .concept, [.word "R&D_<lab>", .word "R&D_<labs>"]⟩

def neighbour : Element := ⟨⟨laboratory.id.toSerial.succ⟩, .individual, [.word "O'Neill", .flag false]⟩

def marked : Snapshot where
  name := "wiki"
  baseIri := "http://example.org/?q=\"<&>\""
  revision := 3
  elements := [laboratory, neighbour]
  sentences := [(.first, .assertion (.nonMembership neighbour.id laboratory.id) "en")]

theorem marks_read_back : ∃ (body : String) (root : Xml),
    (owlXml true).run marked = .ok ("<?xml version=\"1.0\"?>\n" ++ body) ∧
      Xml.Written [root] body.toList ∧ (∀ trees, Xml.Written trees body.toList → trees = [root]) ∧
      root.values "IRI" = [owl, rdfs, "http://example.org/?q=\"<&>\"#R&D_<lab>",
        "http://example.org/?q=\"<&>\"#O'Neill", "http://example.org/?q=\"<&>\"#R&D_<lab>",
        "http://example.org/?q=\"<&>\"#O'Neill"] ∧
      root.texts = [("IRI", "http://example.org/?q=\"<&>\"#R&D_<lab>"), ("Literal", "R&D <lab>"),
        ("IRI", "http://example.org/?q=\"<&>\"#R&D_<lab>"), ("Literal", "R&D <labs>"),
        ("IRI", "http://example.org/?q=\"<&>\"#O'Neill"), ("Literal", "O'Neill")] := by
  obtain ⟨t, ht⟩ : ∃ t, (owlXml true).run marked = .ok t := by
    have hsome : ((owlXml true).run marked).toOption.isSome = true := by decide +kernel
    cases hrun : (owlXml true).run marked with
    | ok t => exact ⟨t, rfl⟩
    | error error => simp [hrun, Except.toOption] at hsome
  obtain ⟨body, children, mentioned, rfl, hwritten, honly, hfound, hvalues, htexts⟩ :=
    owl_xml_well_formed ht
  have hmentioned : mentioned = [laboratory, neighbour] := by
    have hids : (marked.axioms.flatMap Axiom.arguments).map marked.element? =
        [laboratory, neighbour].map some := by
      decide +kernel
    exact List.map_injective_iff.2 (Option.some_injective _) (hfound.symm.trans hids)
  refine ⟨body, _, ht, hwritten, honly, hvalues.trans ?_, htexts.trans ?_⟩
  · rw [hmentioned]
    decide +kernel
  · decide +kernel

end Exporter

end SemanticWiki
