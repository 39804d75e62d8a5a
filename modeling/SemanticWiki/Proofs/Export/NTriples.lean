import SemanticWiki.Export.NTriples
import SemanticWiki.Proofs.Except
import SemanticWiki.Proofs.Export.Layout
import SemanticWiki.Proofs.Iri

/-! Triples, read back. First the lines tell the triples, as no identifier goes on behind its fragment;
then the triples tell the axioms. A property may have the identifier of a word of the vocabularies, so
it takes the kinds of the subject and of the object to tell a triple about it from the others. -/

namespace SemanticWiki.Export.NTriples

open Text

/-! The lines of triples. -/

def IsNode (iri : String) : Prop :=
  ∃ front name, iri = front ++ "#" ++ name ∧ '#' ∉ front.toList ∧ IsName name

theorem IsNode.boundary {iri iri' : String} (h : IsNode iri) (h' : IsNode iri') {c : Char}
    (hc : Word.isStoredChar c = false) {rest rest' : List Char}
    (htext : iri.toList ++ c :: rest = iri'.toList ++ c :: rest') : iri = iri' ∧ rest = rest' := by
  obtain ⟨front, name, rfl, hfront, hname⟩ := h
  obtain ⟨front', name', rfl, hfront', hname'⟩ := h'
  have hplain : ∀ front : String, '#' ∉ front.toList → ∀ d ∈ front.toList, (d != '#') = true := by
    intro front hfront d hd
    simpa using fun hsign : d = '#' => hfront (hsign ▸ hd)
  have hsign : "#".toList = ['#'] := rfl
  simp only [String.toList_append, hsign, List.append_assoc, List.singleton_append] at htext
  obtain ⟨hsame, hbehind⟩ :=
    Text.boundary (hplain front hfront) (hplain front' hfront') (by decide) (by decide) htext
  obtain ⟨hsame', hrest⟩ := Text.boundary hname hname' hc hc (List.cons.inj hbehind).2
  rw [String.toList_inj.1 hsame, String.toList_inj.1 hsame']
  exact ⟨rfl, (List.cons.inj hrest).2⟩

inductive Term.Plain : Term → Prop
  | iri {text : String} (hnode : IsNode text) : Plain (.iri text)
  | blank {label : String} (hlabel : IsName label) : Plain (.blank label)

theorem Term.Plain.boundary {t u : Term} (ht : t.Plain) (hu : u.Plain) {rest rest' : List Char}
    (htext : t.print.toList ++ ' ' :: rest = u.print.toList ++ ' ' :: rest') :
    t = u ∧ rest = rest' := by
  cases ht with
  | @iri text hnode =>
    cases hu with
    | @iri text' hnode' =>
      have hbehind : text.toList ++ '>' :: ' ' :: rest = text'.toList ++ '>' :: ' ' :: rest' := by
        simpa [print] using htext
      obtain ⟨rfl, hrest⟩ := hnode.boundary hnode' (by decide) hbehind
      exact ⟨rfl, (List.cons.inj hrest).2⟩
    | blank hlabel' => simp [print] at htext
  | @blank label hlabel =>
    cases hu with
    | iri hnode => simp [print] at htext
    | @blank label' hlabel' =>
      have hbehind : label.toList ++ ' ' :: rest = label'.toList ++ ' ' :: rest' := by
        simpa [print] using htext
      obtain ⟨hsame, hrest⟩ := Text.boundary hlabel hlabel' (by decide) (by decide) hbehind
      rw [String.toList_inj.1 hsame]
      exact ⟨rfl, (List.cons.inj hrest).2⟩

structure Triple.Plain (t : Triple) : Prop where
  subject : t.subject.Plain
  predicate : IsNode t.predicate
  object : t.object.Plain

theorem decodable_print : Decodable Triple.Plain fun t _ => t.print.toList := by
  intro t u _ rest rest' ht hu htext
  have hline (t : Triple) (rest : List Char) : t.print.toList ++ rest =
      t.subject.print.toList ++ ' ' :: '<' :: (t.predicate.toList ++ '>' :: ' ' ::
        (t.object.print.toList ++ ' ' :: '.' :: '\n' :: rest)) := by
    simp [Triple.print]
  rw [hline, hline] at htext
  obtain ⟨hsubject, htext⟩ := ht.subject.boundary hu.subject htext
  obtain ⟨hpredicate, htext⟩ :=
    ht.predicate.boundary hu.predicate (by decide) (List.cons.inj htext).2
  obtain ⟨hobject, -⟩ := ht.object.boundary hu.object (List.cons.inj htext).2
  obtain ⟨subject, predicate, object⟩ := t
  obtain ⟨subject', predicate', object'⟩ := u
  obtain rfl : subject = subject' := hsubject
  obtain rfl : predicate = predicate' := hpredicate
  obtain rfl : object = object' := hobject
  rfl

theorem print_ne_nil (t : Triple) : t.print.toList ≠ [] := by simp [Triple.print]

/-! The triples of axioms. -/

variable {s : Snapshot} {id : ElementId} {kind : Kind}

def nodeOf (s : Snapshot) (id : ElementId) : String := s.baseIri ++ "#" ++ s.nameOf id

def stated (s : Snapshot) (ax : Axiom) (n : Nat) : List Triple :=
  match ax with
  | .subClassOf sub sup => [⟨.iri (nodeOf s sub), rdfs ++ "subClassOf", .iri (nodeOf s sup)⟩]
  | .disjointClasses first second =>
    [⟨.iri (nodeOf s first), owl ++ "disjointWith", .iri (nodeOf s second)⟩]
  | .classAssertion individual cls => [⟨.iri (nodeOf s individual), rdfType, .iri (nodeOf s cls)⟩]
  | .negativeClassAssertion individual cls =>
    [⟨.blank ("c" ++ toString n), rdfType, .iri (owl ++ "Class")⟩,
     ⟨.blank ("c" ++ toString n), owl ++ "complementOf", .iri (nodeOf s cls)⟩,
     ⟨.iri (nodeOf s individual), rdfType, .blank ("c" ++ toString n)⟩]
  | .objectPropertyAssertion subject property object =>
    [⟨.iri (nodeOf s subject), nodeOf s property, .iri (nodeOf s object)⟩]

theorem nodeOf_ne (hnamed : s.WellNamed) {id' : ElementId} {kind' : Kind}
    (hid : s.kindOf id = some kind) (hid' : s.kindOf id' = some kind') (hkind : kind ≠ kind') :
    nodeOf s id ≠ nodeOf s id' := by
  intro hsame
  have hname : s.nameOf id = s.nameOf id' := by
    rw [nodeOf, nodeOf] at hsame
    exact String.append_right_inj (s.baseIri ++ "#") |>.1 hsame
  obtain rfl := hnamed.eq_of_nameOf_eq hid hid' hname
  exact hkind (Option.some.inj (hid.symm.trans hid'))

section Stated

variable {a b : Axiom} {n : Nat} {rest rest' : List Triple}

theorem form_eq_of_stated_eq (hnamed : s.WellNamed) (ha : a.Fits s.kindOf) (hb : b.Fits s.kindOf)
    (h : stated s a n ++ rest = stated s b n ++ rest') : a.form = b.form := by
  have hvocabulary : rdfs ++ "subClassOf" ≠ owl ++ "disjointWith" := by decide +kernel
  cases a with
  | subClassOf _ _ =>
    cases b with
    | subClassOf _ _ => rfl
    | disjointClasses _ _ => simp [stated, hvocabulary] at h
    | classAssertion _ _ | objectPropertyAssertion _ _ _ =>
      have hsubject := nodeOf_ne hnamed ha.1 hb.1 (by decide)
      simp [stated, hsubject] at h
    | negativeClassAssertion _ _ => simp [stated] at h
  | disjointClasses _ _ =>
    cases b with
    | subClassOf _ _ => simp [stated, hvocabulary.symm] at h
    | disjointClasses _ _ => rfl
    | classAssertion _ _ | objectPropertyAssertion _ _ _ =>
      have hsubject := nodeOf_ne hnamed ha.1 hb.1 (by decide)
      simp [stated, hsubject] at h
    | negativeClassAssertion _ _ => simp [stated] at h
  | classAssertion _ _ =>
    cases b with
    | subClassOf _ _ | disjointClasses _ _ =>
      have hsubject := nodeOf_ne hnamed ha.1 hb.1 (by decide)
      simp [stated, hsubject] at h
    | classAssertion _ _ => rfl
    | objectPropertyAssertion _ _ _ =>
      have hobject := nodeOf_ne hnamed ha.2 hb.2.2 (by decide)
      simp [stated, hobject] at h
    | negativeClassAssertion _ _ => simp [stated] at h
  | objectPropertyAssertion _ _ _ =>
    cases b with
    | subClassOf _ _ | disjointClasses _ _ =>
      have hsubject := nodeOf_ne hnamed ha.1 hb.1 (by decide)
      simp [stated, hsubject] at h
    | classAssertion _ _ =>
      have hobject := nodeOf_ne hnamed ha.2.2 hb.2 (by decide)
      simp [stated, hobject] at h
    | objectPropertyAssertion _ _ _ => rfl
    | negativeClassAssertion _ _ => simp [stated] at h
  | negativeClassAssertion _ _ =>
    cases b with
    | negativeClassAssertion _ _ => rfl
    | _ => simp [stated] at h

theorem names_eq_of_stated_eq (hform : a.form = b.form)
    (h : stated s a n ++ rest = stated s b n ++ rest') :
    a.arguments.map s.nameOf = b.arguments.map s.nameOf := by
  cases a <;> cases b <;> first
    | (cases hform; done)
    | (simp [stated, nodeOf] at h; simp [Axiom.arguments, h])

theorem decodable_stated (hnamed : s.WellNamed) : Decodable (Axiom.Fits s.kindOf) (stated s) := by
  intro a b n rest rest' ha hb htriples
  have hform := form_eq_of_stated_eq hnamed ha hb htriples
  have hnames := names_eq_of_stated_eq hform htriples
  exact Axiom.eq_of_form_eq hform (hnamed.eq_of_names_eq ha.exists_kind hb.exists_kind hnames)

theorem stated_ne_nil (s : Snapshot) (ax : Axiom) (n : Nat) : stated s ax n ≠ [] := by
  cases ax <;> exact List.cons_ne_nil _ _

end Stated

theorem isNode_vocabulary : IsNode rdfType ∧ IsNode (rdfs ++ "subClassOf") ∧
    IsNode (owl ++ "disjointWith") ∧ IsNode (owl ++ "Class") ∧ IsNode (owl ++ "complementOf") := by
  have hrdf : '#' ∉ "http://www.w3.org/1999/02/22-rdf-syntax-ns".toList := by decide +kernel
  have hrdfs : '#' ∉ "http://www.w3.org/2000/01/rdf-schema".toList := by decide +kernel
  have howl : '#' ∉ "http://www.w3.org/2002/07/owl".toList := by decide +kernel
  refine ⟨⟨_, "type", ?_, hrdf, ?_⟩, ⟨_, "subClassOf", ?_, hrdfs, ?_⟩, ⟨_, "disjointWith", ?_, howl, ?_⟩,
    ⟨_, "Class", ?_, howl, ?_⟩, ⟨_, "complementOf", ?_, howl, ?_⟩⟩ <;>
  first | decide +kernel | exact List.all_eq_true.1 (by decide +kernel)

theorem isName_label (n : Nat) : IsName ("c" ++ toString n) := by
  intro c hc
  rw [Nat.toString_eq_ofList_toDigits, String.toList_append, List.mem_append] at hc
  rcases hc with hc | hc
  · obtain rfl : c = 'c' := by simpa using hc
    rfl
  · rw [String.toList_ofList] at hc
    have hdigit : c.isDigit = true := Nat.isDigit_of_mem_toDigits (by decide) (by decide) hc
    simp [Word.isStoredChar, Word.isPartChar, Char.isAlphanum, hdigit]

theorem plain_stated (hnamed : s.WellNamed) (hplain : '#' ∉ s.baseIri.toList) {ax : Axiom}
    (hfits : ax.Fits s.kindOf) (n : Nat) : ∀ t ∈ stated s ax n, t.Plain := by
  have hnode {id : ElementId} {kind : Kind} (hid : s.kindOf id = some kind) :
      IsNode (nodeOf s id) := ⟨s.baseIri, s.nameOf id, rfl, hplain, hnamed.isName hid⟩
  have hlabel : Term.Plain (.blank ("c" ++ toString n)) := .blank (isName_label n)
  obtain ⟨htype, hsubClassOf, hdisjointWith, hclass, hcomplementOf⟩ := isNode_vocabulary
  cases ax with
  | subClassOf sub sup =>
    exact List.forall_mem_singleton.2 ⟨.iri (hnode hfits.1), hsubClassOf, .iri (hnode hfits.2)⟩
  | disjointClasses first second =>
    exact List.forall_mem_singleton.2 ⟨.iri (hnode hfits.1), hdisjointWith, .iri (hnode hfits.2)⟩
  | classAssertion individual cls =>
    exact List.forall_mem_singleton.2 ⟨.iri (hnode hfits.1), htype, .iri (hnode hfits.2)⟩
  | negativeClassAssertion individual cls =>
    refine List.forall_mem_cons.2 ⟨⟨hlabel, htype, .iri hclass⟩, ?_⟩
    refine List.forall_mem_cons.2 ⟨⟨hlabel, hcomplementOf, .iri (hnode hfits.2)⟩, ?_⟩
    exact List.forall_mem_singleton.2 ⟨.iri (hnode hfits.1), htype, hlabel⟩
  | objectPropertyAssertion subject property object =>
    obtain ⟨kind, hproperty⟩ := hfits.exists_kind property List.mem_cons_self
    exact List.forall_mem_singleton.2
      ⟨.iri (hnode hfits.1), hnode hproperty, .iri (hnode hfits.2.2)⟩

theorem plain_of_mem (hnamed : s.WellNamed) (hplain : '#' ∉ s.baseIri.toList) {axioms : List Axiom}
    (hfits : ∀ ax ∈ axioms, ax.Fits s.kindOf) :
    ∀ t ∈ axioms.zipIdx.flatMap (fun (ax, n) => stated s ax n), t.Plain := by
  intro t ht
  obtain ⟨⟨ax, n⟩, hax, ht⟩ := List.mem_flatMap.1 ht
  exact plain_stated hnamed hplain (hfits ax (List.fst_mem_of_mem_zipIdx hax)) n t ht

/-! The document. The base must be valid, and it must not have a fragment if there are elements. -/

def declared (s : Snapshot) (e : Element) : List Triple :=
  ⟨.iri (iriOf s e), rdfType, .iri (owl ++ entityType e.kind)⟩ ::
    e.words.map fun word => ⟨.iri (iriOf s e), rdfs ++ "label", .literal (Word.pretty word)⟩

def heading (s : Snapshot) : Triple := ⟨.iri s.baseIri, rdfType, .iri (owl ++ "Ontology")⟩

def front (s : Snapshot) : String :=
  String.join ((heading s :: (s.elements.map (declared s)).flatten).map Triple.print)

theorem isFragmentChar_of_stored {c : Char} (hc : Word.isStoredChar c = true) :
    Iri.isFragmentChar c = true ∧ c ≠ '%' := by
  have hbasic : c.toNat < 0x80 := by
    rw [Word.isStoredChar, Bool.or_eq_true, beq_iff_eq] at hc
    rcases hc with hc | rfl
    · exact (Word.isPartChar_spec hc).1
    · decide
  exact forall_basic (p := fun c => Word.isStoredChar c = true → Iri.isFragmentChar c = true ∧ c ≠ '%')
    (by decide +kernel) hbasic hc

section Valid

variable (hvalid : Iri.check s.baseIri = .ok ())
include hvalid

theorem checked_base : checked s.baseIri = .ok (.iri s.baseIri) := by rw [checked, hvalid]

section Plain

variable (hnamed : s.WellNamed) (hplain : '#' ∉ s.baseIri.toList)
include hnamed hplain

theorem checked_iriOf {e : Element} (he : e ∈ s.elements) :
    checked (iriOf s e) = .ok (.iri (iriOf s e)) := by
  have hname : ∀ c ∈ e.headword.toList, Iri.isFragmentChar c = true ∧ c ≠ '%' :=
    fun c hc => isFragmentChar_of_stored (hnamed.isName_headword e he c hc)
  rw [checked, iriOf, Iri.check_fragment_ok hplain hvalid hname]

theorem declaration_ok {e : Element} (he : e ∈ s.elements) :
    declaration s e = .ok (declared s e) := by
  rw [declaration, checked_iriOf hvalid hnamed hplain he]
  rfl

theorem node_ok (hid : s.kindOf id = some kind) : node s id = .ok (.iri (nodeOf s id)) := by
  obtain ⟨e, helement, he, -, -, hname⟩ := Snapshot.elementOf_ok hid
  rw [node, helement, nodeOf, hname]
  exact checked_iriOf hvalid hnamed hplain he

theorem statement_ok {ax : Axiom} (hfits : ax.Fits s.kindOf) (n : Nat) :
    statement s ax n = .ok (stated s ax n) := by
  have hnode {id : ElementId} {kind : Kind} (hid : s.kindOf id = some kind) :=
    node_ok hvalid hnamed hplain hid
  cases ax with
  | objectPropertyAssertion subject property object =>
    obtain ⟨kind, hproperty⟩ := hfits.exists_kind property List.mem_cons_self
    obtain ⟨e, helement, he, -, -, hname⟩ := Snapshot.elementOf_ok hproperty
    have hpredicate : nodeOf s property = iriOf s e := by rw [nodeOf, hname, iriOf]
    rw [statement, hnode hfits.1, hnode hfits.2.2, helement, stated, hpredicate]
    change (checked (iriOf s e) >>= _) = _
    rw [checked_iriOf hvalid hnamed hplain he]
    rfl
  | _ =>
    rw [statement, hnode hfits.1, hnode hfits.2]
    rfl

theorem triples_ok : triples s = .ok (heading s :: ((s.elements.map (declared s)).flatten ++
    (s.axioms.zipIdx.map fun (ax, n) => stated s ax n).flatten)) := by
  have hdeclarations := mapM_eq_map fun e he => declaration_ok hvalid hnamed hplain he
  have hstatements : s.axioms.zipIdx.mapM (fun (ax, n) => statement s ax n) =
      .ok (s.axioms.zipIdx.map fun (ax, n) => stated s ax n) := by
    refine mapM_eq_map fun (ax, n) hax => ?_
    exact statement_ok hvalid hnamed hplain (hnamed.fits ax (List.fst_mem_of_mem_zipIdx hax)) n
  rw [triples, checked_base hvalid, hdeclarations, hstatements]
  rfl

theorem render_ok : ∃ t, render s = .ok t ∧ t.toList = (front s).toList ++
    (s.axioms.zipIdx.flatMap fun (ax, n) => stated s ax n).flatMap (·.print.toList) := by
  refine ⟨_, by rw [render, triples_ok hvalid hnamed hplain]; rfl, ?_⟩
  rw [front, String.toList_join, String.toList_join, List.flatMap_map, List.flatMap_map,
    ← List.cons_append, List.flatMap_append]
  rfl

end Plain

theorem render_error (hsign : '#' ∈ s.baseIri.toList) {first : Element} {rest : List Element}
    (hfirst : s.elements = first :: rest) :
    render s = .error (.invalidIri (s.baseIri ++ "#" ++ first.headword) (.invalidCodePoint '#')) := by
  have hchecked : checked (iriOf s first) =
      .error (.invalidIri (s.baseIri ++ "#" ++ first.headword) (.invalidCodePoint '#')) := by
    rw [checked, iriOf, Iri.check_second_fragment hsign hvalid]
  have hdeclarations : s.elements.mapM (declaration s) =
      .error (.invalidIri (s.baseIri ++ "#" ++ first.headword) (.invalidCodePoint '#')) := by
    rw [hfirst, List.mapM_cons, declaration, hchecked]
    rfl
  rw [render, triples, checked_base hvalid, hdeclarations]
  rfl

theorem exists_render (hnamed : s.WellNamed)
    (hplain : '#' ∈ s.baseIri.toList → s.elements = []) : ∃ t, render s = .ok t := by
  by_cases hsign : '#' ∈ s.baseIri.toList
  · have hnone := hplain hsign
    rw [render, triples, checked_base hvalid, hnone, hnamed.axioms_eq_nil hnone]
    exact ⟨_, rfl⟩
  · obtain ⟨t, ht, -⟩ := render_ok hvalid hnamed hsign
    exact ⟨t, ht⟩

end Valid

theorem valid_of_render {t : String} (h : render s = .ok t) : Iri.check s.baseIri = .ok () := by
  unfold render triples at h
  obtain ⟨triples, htriples, -⟩ := bind_ok h
  obtain ⟨ontology, hontology, -⟩ := bind_ok htriples
  unfold checked at hontology
  split at hontology
  · assumption
  · cases hontology

section Alike

variable {s' : Snapshot} (hbase : s'.baseIri = s.baseIri) (helements : s'.elements = s.elements)
include hbase helements

theorem stated_eq : stated s' = stated s := by
  have hnode : nodeOf s' = nodeOf s := by
    funext id
    rw [nodeOf, nodeOf, hbase, Snapshot.nameOf_eq helements]
  funext ax n
  simp only [stated, hnode]

theorem front_eq : front s' = front s := by
  have hdeclared : declared s' = declared s := by
    funext e
    simp only [declared, iriOf, hbase]
  rw [front, front, heading, heading, hbase, helements, hdeclared]

theorem render_eq_of_axioms_eq (haxioms : s'.axioms = s.axioms) : render s' = render s := by
  have hdeclaration : declaration s' = declaration s := by
    funext e
    simp only [declaration, iriOf, hbase]
  have hstatement : statement s' = statement s := by
    funext ax n
    cases ax <;> simp only [statement, node, iriOf, hbase, Snapshot.elementOf_eq helements]
  rw [render, render, triples, triples, hbase, helements, haxioms, hdeclaration, hstatement]

theorem axioms_eq_of_render_eq (hnamed : s.WellNamed) (hnamed' : s'.WellNamed) {t : String}
    (ht : render s = .ok t) (ht' : render s' = .ok t) : s'.axioms = s.axioms := by
  have hvalid := valid_of_render ht
  cases hfirst : s.elements with
  | nil => rw [hnamed.axioms_eq_nil hfirst, hnamed'.axioms_eq_nil (helements.trans hfirst)]
  | cons first rest =>
    have hplain : '#' ∉ s.baseIri.toList := by
      intro hsign
      rw [render_error hvalid hsign hfirst] at ht
      cases ht
    obtain ⟨u, hu, htext⟩ := render_ok hvalid hnamed hplain
    obtain ⟨u', hu', htext'⟩ := render_ok (valid_of_render ht') hnamed' (hbase ▸ hplain)
    obtain rfl : u = t := Except.ok.inj (hu.symm.trans ht)
    obtain rfl : u' = u := Except.ok.inj (hu'.symm.trans ht')
    rw [htext', front_eq hbase helements, stated_eq hbase helements] at htext
    have hfits : ∀ ax ∈ s'.axioms, ax.Fits s.kindOf := Snapshot.kindOf_eq helements ▸ hnamed'.fits
    have htriples := decodable_print.flatMap_inj' print_ne_nil (plain_of_mem hnamed hplain hfits)
      (plain_of_mem hnamed hplain hnamed.fits) (List.append_cancel_left htext)
    exact (decodable_stated hnamed).flatMap_inj (stated_ne_nil s) hfits hnamed.fits 0 htriples

end Alike

end SemanticWiki.Export.NTriples
