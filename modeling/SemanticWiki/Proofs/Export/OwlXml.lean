import SemanticWiki.Export.OwlXml
import SemanticWiki.Proofs.Except
import SemanticWiki.Proofs.Export.Layout

/-! Documents of nested elements, read back. The kinds of what an axiom is about go by its form, so all
that is left to tell two axioms of one form apart is the names. -/

namespace SemanticWiki

open Text

namespace Xml

theorem escape_append (front rest : String) : escape (front ++ rest) = escape front ++ escape rest := by
  apply String.toList_inj.1
  simp [escape]

theorem escapeChar_of_stored {c : Char} (hc : Word.isStoredChar c = true) : escapeChar c = [c] := by
  unfold escapeChar
  split
  · cases hc
  · cases hc
  · cases hc
  · cases hc
  · cases hc
  · rfl

theorem escape_of_isName {name : String} (hname : Export.IsName name) : escape name = name := by
  have hchars : name.toList.flatMap escapeChar = name.toList.flatMap fun c => [c] :=
    List.flatMap_congr fun c hc => escapeChar_of_stored (hname c hc)
  rw [escape, hchars, List.flatMap_singleton', String.ofList_toList]

end Xml

namespace Export.OwlXml

open Layout

variable {s : Snapshot} {id : ElementId} {kind : Kind}

/-! The parts of the block of an axiom: its first line, the elements in it, and its last line. -/

def openingLine (tag : String) : String := "    " ++ "<" ++ tag ++ ">\n" ++ "    " ++ "    "

def nameLead (baseIri : String) : String := Xml.escape (baseIri ++ "#")

def openingTag (type : String) : String := "<" ++ type ++ " IRI=\""

def nextLine : String := "\n" ++ "    " ++ "    "

def closingLine (tag : String) : String := "\n" ++ "    " ++ "</" ++ tag ++ ">\n"

theorem inline_entity {name : String} (hname : IsName name) (type baseIri : String) :
    (Xml.inline (.element type [("IRI", baseIri ++ "#" ++ name)] [])).toList =
      (openingTag type).toList ++ (nameLead baseIri).toList ++ name.toList ++ "\"/>".toList := by
  simp [Xml.inline, Xml.attributeText, Xml.escape_append, Xml.escape_of_isName hname, nameLead,
    openingTag]

theorem inline_complement (child : Xml) :
    Xml.inline (.element "ObjectComplementOf" [] [child]) =
      "<ObjectComplementOf>" ++ Xml.inline child ++ "</ObjectComplementOf>" := by
  apply String.toList_inj.1
  simp [Xml.inline, Xml.inlineAll, Xml.attributeText]

def mark : Axiom.Form → String
  | .subClassOf => openingLine "SubClassOf" ++ openingTag "Class"
  | .disjointClasses => openingLine "DisjointClasses" ++ openingTag "Class"
  | .classAssertion => openingLine "ClassAssertion" ++ openingTag "Class"
  | .negativeClassAssertion =>
    openingLine "ClassAssertion" ++ "<ObjectComplementOf>" ++ openingTag "Class"
  | .objectPropertyAssertion => openingLine "ObjectPropertyAssertion" ++ openingTag "ObjectProperty"

def gaps (lead : String) : Axiom.Form → List String
  | .subClassOf =>
    ["\"/>" ++ nextLine ++ openingTag "Class" ++ lead, "\"/>" ++ closingLine "SubClassOf"]
  | .disjointClasses =>
    ["\"/>" ++ nextLine ++ openingTag "Class" ++ lead, "\"/>" ++ closingLine "DisjointClasses"]
  | .classAssertion =>
    ["\"/>" ++ nextLine ++ openingTag "NamedIndividual" ++ lead,
     "\"/>" ++ closingLine "ClassAssertion"]
  | .negativeClassAssertion =>
    ["\"/>" ++ "</ObjectComplementOf>" ++ nextLine ++ openingTag "NamedIndividual" ++ lead,
     "\"/>" ++ closingLine "ClassAssertion"]
  | .objectPropertyAssertion =>
    ["\"/>" ++ nextLine ++ openingTag "NamedIndividual" ++ lead,
     "\"/>" ++ nextLine ++ openingTag "NamedIndividual" ++ lead,
     "\"/>" ++ closingLine "ObjectPropertyAssertion"]

def layout (baseIri : String) (form : Axiom.Form) : Layout :=
  ⟨mark form, nameLead baseIri, gaps (nameLead baseIri) form⟩

theorem toList_block (tag : String) (child : Xml) (children : List Xml) :
    (Xml.block "    " (.element tag [] (child :: children))).toList =
      ("    " ++ "<" ++ tag ++ ">\n").toList ++
        (child :: children).flatMap (fun c => ("    " ++ "    " ++ Xml.inline c ++ "\n").toList) ++
          ("    " ++ "</" ++ tag ++ ">\n").toList := by
  rw [Xml.block, Xml.attributeText]
  simp only [String.toList_append, String.toList_join, List.flatMap_map, List.flatMap_nil,
    List.append_nil, List.append_assoc]

theorem legible_layout (baseIri : String) : Legible (layout baseIri) where
  marks f g := by
    cases f <;> cases g <;> simp [layout, mark, openingLine, openingTag]
  gaps f := by
    have hquote (rest : String) : EndsName ("\"/>" ++ rest) :=
      ⟨'"', '/' :: '>' :: rest.toList, by simp, rfl⟩
    cases f <;> simp only [layout, gaps, String.append_assoc, List.forall_mem_cons, hquote,
      List.not_mem_nil, false_implies, implies_true, and_self]
  count ax := by cases ax <;> rfl

theorem entity_ok (h : s.kindOf id = some kind) :
    entity s id = .ok (.element (entityType kind) [("IRI", s.baseIri ++ "#" ++ s.nameOf id)] []) := by
  obtain ⟨e, he, -, -, rfl, hname⟩ := Snapshot.elementOf_ok h
  rw [entity, he, hname]
  rfl

theorem axiomNode_ok (hnamed : s.WellNamed) {ax : Axiom} (hfits : ax.Fits s.kindOf) :
    ∃ node, axiomNode s ax = .ok node ∧
      (Xml.block "    " node).toList = text (layout s.baseIri) s ax := by
  cases ax with
  | objectPropertyAssertion subject property object =>
    obtain ⟨hsubject, hproperty, hobject⟩ := hfits
    obtain ⟨kind, hkind, htype⟩ : ∃ kind, s.kindOf property = some kind ∧
        entityType kind = "ObjectProperty" :=
      hproperty.elim (fun h => ⟨_, h, rfl⟩) fun h => ⟨_, h, rfl⟩
    have hentity := entity_ok hkind
    rw [htype] at hentity
    refine ⟨_, by rw [axiomNode, hentity, entity_ok hsubject, entity_ok hobject]; rfl, ?_⟩
    simp only [toList_block, inline_entity (hnamed.isName hkind),
      inline_entity (hnamed.isName hsubject), inline_entity (hnamed.isName hobject), text, fill,
      layout, mark, gaps, spelled, Axiom.form, Axiom.arguments, entityType, openingLine, nextLine,
      closingLine, String.toList_append, List.flatMap_cons, List.flatMap_nil, List.map_cons,
      List.map_nil, List.append_assoc, List.append_nil]
  | _ =>
    have hname := hnamed.isName hfits.1
    have hname' := hnamed.isName hfits.2
    refine ⟨_, by rw [axiomNode, entity_ok hfits.1, entity_ok hfits.2]; rfl, ?_⟩
    simp only [toList_block, inline_complement, inline_entity hname, inline_entity hname', text, fill,
      layout, mark, gaps, spelled, Axiom.form, Axiom.arguments, entityType, openingLine, nextLine,
      closingLine, String.toList_append, List.flatMap_cons, List.flatMap_nil, List.map_cons,
      List.map_nil, List.append_assoc, List.append_nil]

def front (annotate : Bool) (s : Snapshot) : String :=
  "<?xml version=\"1.0\"?>\n" ++ "<" ++ "Ontology" ++
    Xml.attributeText [("xmlns", owl), ("ontologyIRI", s.baseIri)] ++ ">\n" ++
    String.join (([namespaceNode "owl" owl, namespaceNode "rdfs" rdfs] ++
      s.elements.flatMap (declaration annotate s)).map (Xml.block "    "))

def back : String := "</" ++ "Ontology" ++ ">\n"

theorem render_ok (hnamed : s.WellNamed) (annotate : Bool) :
    ∃ t, render annotate s = .ok t ∧ t.toList =
      (front annotate s).toList ++ s.axioms.flatMap (text (layout s.baseIri) s) ++ back.toList := by
  obtain ⟨axioms, haxioms, htexts⟩ := mapM_ok fun ax hax => axiomNode_ok hnamed (hnamed.fits ax hax)
  refine ⟨_, by rw [render, nodes, haxioms]; rfl, ?_⟩
  rw [← flatMap_eq_of_forall₂ htexts]
  unfold Xml.document front back
  simp only [String.toList_append, String.toList_join, List.flatMap_map, List.flatMap_append,
    List.append_assoc]

section Alike

variable {s' : Snapshot} (hbase : s'.baseIri = s.baseIri) (helements : s'.elements = s.elements)
  {annotate : Bool}
include hbase

theorem declaration_eq : declaration annotate s' = declaration annotate s := by
  have hlabel : label s' = label s := by
    funext e word
    simp only [label, iriOf, hbase]
  funext e
  simp only [declaration, entityNode, iriOf, hbase, hlabel]

include helements

theorem render_eq_of_axioms_eq (haxioms : s'.axioms = s.axioms) :
    render annotate s' = render annotate s := by
  have hnode : axiomNode s' = axiomNode s := by
    funext ax
    cases ax <;> simp only [axiomNode, entity, entityNode, iriOf, hbase, Snapshot.elementOf_eq helements]
  rw [render, render, nodes, nodes, declaration_eq hbase, hbase, helements, haxioms, hnode]

theorem axioms_eq_of_render_eq (hnamed : s.WellNamed) (hnamed' : s'.WellNamed)
    (hrender : render annotate s' = render annotate s) : s'.axioms = s.axioms := by
  obtain ⟨t, ht, htext⟩ := render_ok hnamed annotate
  obtain ⟨t', ht', htext'⟩ := render_ok hnamed' annotate
  have hfront : front annotate s' = front annotate s := by
    unfold front
    rw [hbase, helements, declaration_eq hbase]
  have hfits : ∀ ax ∈ s'.axioms, ax.Fits s.kindOf := Snapshot.kindOf_eq helements ▸ hnamed'.fits
  obtain rfl : t' = t := Except.ok.inj (by rw [← ht, ← ht', hrender])
  rw [htext', hfront, hbase, text_eq helements] at htext
  exact (legible_layout s.baseIri).axioms_eq hnamed hfits hnamed.fits htext

end Alike

end Export.OwlXml

end SemanticWiki
