import SemanticWiki.Export.FunctionalSyntax
import SemanticWiki.Proofs.Export.Layout
import SemanticWiki.Proofs.Except

/-! Lines of functional syntax, read back. Every name stands between a colon and a character that ends
it, and the mark of an axiom tells of what kinds its names are. -/

namespace SemanticWiki.Export.FunctionalSyntax

open Layout Text

variable {s : Snapshot} {id : ElementId} {kind : Kind}

def layout : Axiom.Form → Layout
  | .subClassOf => ⟨"SubClassOf(:", "", [" :", ")\n"]⟩
  | .disjointClasses => ⟨"DisjointClasses(:", "", [" :", ")\n"]⟩
  | .classAssertion => ⟨"ClassAssertion(:", "", [" :", ")\n"]⟩
  | .negativeClassAssertion => ⟨"ClassAssertion(ObjectComplementOf(:", "", [") :", ")\n"]⟩
  | .objectPropertyAssertion => ⟨"ObjectPropertyAssertion(:", "", [" :", " :", ")\n"]⟩

theorem legible_layout : Legible layout where
  marks f g := by cases f <;> cases g <;> decide +kernel
  gaps f := by
    have hnext : EndsName " :" := ⟨' ', [':'], rfl, rfl⟩
    have hcomplement : EndsName ") :" := ⟨')', [' ', ':'], rfl, rfl⟩
    have hclosing : EndsName ")\n" := ⟨')', ['\n'], rfl, rfl⟩
    cases f <;> simp [layout, hclosing, hnext, hcomplement]
  count ax := by cases ax <;> rfl

theorem entity_ok (h : s.kindOf id = some kind) : entity s id = .ok (":" ++ s.nameOf id) := by
  obtain ⟨e, he, -, -, -, hname⟩ := Snapshot.elementOf_ok h
  rw [entity, he, hname]
  rfl

theorem axiomLine_ok {ax : Axiom} (hfits : ax.Fits s.kindOf) :
    ∃ line, axiomLine s ax = .ok line ∧ (line ++ "\n").toList = text layout s ax := by
  cases ax with
  | objectPropertyAssertion subject property object =>
    obtain ⟨kind, hproperty⟩ := hfits.exists_kind property List.mem_cons_self
    refine ⟨_, by rw [axiomLine, entity_ok hproperty, entity_ok hfits.1, entity_ok hfits.2.2]; rfl, ?_⟩
    simp [text, fill, layout, spelled, Axiom.form, Axiom.arguments]
  | _ =>
    refine ⟨_, by rw [axiomLine, entity_ok hfits.1, entity_ok hfits.2]; rfl, ?_⟩
    simp [text, fill, layout, spelled, Axiom.form, Axiom.arguments]

def front (annotate : Bool) (s : Snapshot) : String :=
  String.join ((header s.baseIri ++ s.elements.flatMap (declaration annotate)).map (· ++ "\n"))

theorem render_ok (hnamed : s.WellNamed) (annotate : Bool) :
    ∃ t, render annotate s = .ok t ∧ t.toList =
      (front annotate s).toList ++ s.axioms.flatMap (text layout s) ++ ")\n".toList := by
  obtain ⟨axioms, haxioms, htexts⟩ := mapM_ok fun ax hax => axiomLine_ok (hnamed.fits ax hax)
  refine ⟨_, by rw [render, lines, haxioms]; rfl, ?_⟩
  rw [String.toList_join, List.flatMap_map, ← flatMap_eq_of_forall₂ htexts, List.flatMap_append,
    List.flatMap_append, List.flatMap_singleton, front, String.toList_join, List.flatMap_map]
  rfl

section Alike

variable {s' : Snapshot} (hbase : s'.baseIri = s.baseIri) (helements : s'.elements = s.elements)
  {annotate : Bool}
include hbase helements

theorem render_eq_of_axioms_eq (haxioms : s'.axioms = s.axioms) :
    render annotate s' = render annotate s := by
  have hline : axiomLine s' = axiomLine s := by
    funext ax
    cases ax <;> simp only [axiomLine, entity, Snapshot.elementOf_eq helements]
  rw [render, render, lines, lines, hbase, helements, haxioms, hline]

theorem axioms_eq_of_render_eq (hnamed : s.WellNamed) (hnamed' : s'.WellNamed)
    (hrender : render annotate s' = render annotate s) : s'.axioms = s.axioms := by
  obtain ⟨t, ht, htext⟩ := render_ok hnamed annotate
  obtain ⟨t', ht', htext'⟩ := render_ok hnamed' annotate
  have hfront : front annotate s' = front annotate s := by rw [front, front, hbase, helements]
  have hfits : ∀ ax ∈ s'.axioms, ax.Fits s.kindOf := Snapshot.kindOf_eq helements ▸ hnamed'.fits
  obtain rfl : t' = t := Except.ok.inj (by rw [← ht, ← ht', hrender])
  rw [htext', hfront, text_eq helements] at htext
  exact legible_layout.axioms_eq hnamed hfits hnamed.fits htext

end Alike

end SemanticWiki.Export.FunctionalSyntax
