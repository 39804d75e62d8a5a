import SemanticWiki.Proofs.Export.Naming
import SemanticWiki.Proofs.Text.Coding

/-! Axioms as forms that are filled with names. The text of an axiom begins with a mark of its form;
then come the names of what it is about, each with something behind it that cannot be part of a name.
So it can be told which axiom a text begins with. -/

namespace SemanticWiki

namespace Axiom

inductive Form where
  | subClassOf
  | disjointClasses
  | classAssertion
  | negativeClassAssertion
  | objectPropertyAssertion
deriving DecidableEq

def form : Axiom → Form
  | subClassOf .. => .subClassOf
  | disjointClasses .. => .disjointClasses
  | classAssertion .. => .classAssertion
  | negativeClassAssertion .. => .negativeClassAssertion
  | objectPropertyAssertion .. => .objectPropertyAssertion

/-- What the axiom is about, in the order in which it is written: the class of an individual and the
property of two come first. -/
def arguments : Axiom → List ElementId
  | subClassOf a b | disjointClasses a b => [a, b]
  | classAssertion individual cls | negativeClassAssertion individual cls => [cls, individual]
  | objectPropertyAssertion subject property object => [property, subject, object]

variable {a b : Axiom} {kindOf : ElementId → Option Kind}

theorem eq_of_form_eq (hform : a.form = b.form) (harguments : a.arguments = b.arguments) : a = b := by
  cases a <;> cases b <;> first | (cases hform; done) | (cases harguments; rfl)

theorem Fits.exists_kind (h : a.Fits kindOf) : ∀ id ∈ a.arguments, ∃ kind, kindOf id = some kind := by
  cases a with
  | subClassOf | disjointClasses => simpa [arguments] using ⟨⟨_, h.1⟩, ⟨_, h.2⟩⟩
  | classAssertion | negativeClassAssertion => simpa [arguments] using ⟨⟨_, h.2⟩, ⟨_, h.1⟩⟩
  | objectPropertyAssertion subject property object =>
    have hproperty : ∃ kind, kindOf property = some kind :=
      h.2.1.elim (fun hverb => ⟨_, hverb⟩) fun hadjective => ⟨_, hadjective⟩
    simpa [arguments] using ⟨hproperty, ⟨_, h.1⟩, ⟨_, h.2.2⟩⟩

end Axiom

namespace Export

open Text

/-- The text around the names of an axiom: a mark, what leads to the first name, and what stands behind
each name. -/
structure Layout where
  mark : String
  lead : String
  gaps : List String

namespace Layout

def spelled : List String → List String → List Char
  | name :: names, gap :: gaps => name.toList ++ gap.toList ++ spelled names gaps
  | _, _ => []

def fill (l : Layout) (names : List String) : List Char :=
  l.mark.toList ++ (l.lead.toList ++ spelled names l.gaps)

def EndsName (gap : String) : Prop :=
  ∃ c rest, gap.toList = c :: rest ∧ Word.isStoredChar c = false

theorem spelled_inj {names names' gaps : List String} {rest rest' : List Char}
    (hnames : ∀ name ∈ names, IsName name) (hnames' : ∀ name ∈ names', IsName name)
    (hgaps : ∀ gap ∈ gaps, EndsName gap) (hlength : names.length = gaps.length)
    (hlength' : names'.length = gaps.length)
    (h : spelled names gaps ++ rest = spelled names' gaps ++ rest') : names = names' := by
  induction gaps generalizing names names' with
  | nil => rw [List.length_eq_zero_iff.1 hlength, List.length_eq_zero_iff.1 hlength']
  | cons gap gaps ih =>
    obtain ⟨name, names, rfl⟩ := List.exists_cons_of_length_eq_add_one hlength
    obtain ⟨name', names', rfl⟩ := List.exists_cons_of_length_eq_add_one hlength'
    obtain ⟨hgap, hbehind⟩ := List.forall_mem_cons.1 hgaps
    obtain ⟨hname, hothers⟩ := List.forall_mem_cons.1 hnames
    obtain ⟨hname', hothers'⟩ := List.forall_mem_cons.1 hnames'
    have hcount : names.length = gaps.length := Nat.succ.inj hlength
    have hcount' : names'.length = gaps.length := Nat.succ.inj hlength'
    obtain ⟨c, tail, hgap, hc⟩ := hgap
    simp only [spelled, hgap, List.append_assoc, List.cons_append] at h
    obtain ⟨hsame, hrest⟩ := boundary hname hname' hc hc h
    have hspelled := List.append_cancel_left (List.cons.inj hrest).2
    rw [String.toList_inj.1 hsame, ih hothers hothers' hbehind hcount hcount' hspelled]

/-- A layout for every form. No mark begins another one, and behind every name there is a gap. -/
structure Legible (layout : Axiom.Form → Layout) : Prop where
  marks : ∀ f g, (layout f).mark.toList <+: (layout g).mark.toList → f = g
  gaps : ∀ f, ∀ gap ∈ (layout f).gaps, EndsName gap
  count : ∀ ax : Axiom, ax.arguments.length = (layout ax.form).gaps.length

variable {layout : Axiom.Form → Layout} {s : Snapshot}

def text (layout : Axiom.Form → Layout) (s : Snapshot) (ax : Axiom) : List Char :=
  (layout ax.form).fill (ax.arguments.map s.nameOf)

theorem text_eq {s' : Snapshot} (h : s'.elements = s.elements) : text layout s' = text layout s := by
  funext ax
  rw [text, text, Snapshot.nameOf_eq h]

theorem isName_of_fits (hnamed : s.WellNamed) {ax : Axiom} (hfits : ax.Fits s.kindOf) :
    ∀ name ∈ ax.arguments.map s.nameOf, IsName name := by
  intro name hname
  obtain ⟨id, hid, rfl⟩ := List.mem_map.1 hname
  obtain ⟨kind, hkind⟩ := hfits.exists_kind id hid
  exact hnamed.isName hkind

theorem Legible.decodable (h : Legible layout) (hnamed : s.WellNamed) :
    Decodable (Axiom.Fits s.kindOf) fun ax _ => text layout s ax := by
  intro a b _ rest rest' ha hb htext
  simp only [text, fill, List.append_assoc] at htext
  have hform : a.form = b.form := by
    have hmark : (layout a.form).mark.toList <+: (layout b.form).mark.toList ++ _ :=
      htext ▸ List.prefix_append _ _
    rcases List.prefix_or_prefix_of_prefix hmark (List.prefix_append _ _) with hmark | hmark
    · exact h.marks _ _ hmark
    · exact (h.marks _ _ hmark).symm
  rw [hform] at htext
  have hspelled := List.append_cancel_left (List.append_cancel_left htext)
  have hnames := spelled_inj (isName_of_fits hnamed ha) (isName_of_fits hnamed hb) (h.gaps b.form)
    (by rw [List.length_map, h.count, hform]) (by rw [List.length_map, h.count]) hspelled
  exact Axiom.eq_of_form_eq hform (hnamed.eq_of_names_eq ha.exists_kind hb.exists_kind hnames)

theorem Legible.text_ne_nil (h : Legible layout) (ax : Axiom) : text layout s ax ≠ [] := by
  intro hempty
  have hmark : (layout ax.form).mark.toList = [] := (List.append_eq_nil_iff.1 hempty).1
  have hany (f : Axiom.Form) : ax.form = f := h.marks _ f (hmark ▸ List.nil_prefix)
  cases (hany .subClassOf).symm.trans (hany .disjointClasses)

theorem Legible.axioms_eq (h : Legible layout) (hnamed : s.WellNamed) {as bs : List Axiom}
    (has : ∀ ax ∈ as, ax.Fits s.kindOf) (hbs : ∀ ax ∈ bs, ax.Fits s.kindOf)
    {front back : List Char}
    (htexts : front ++ as.flatMap (text layout s) ++ back =
      front ++ bs.flatMap (text layout s) ++ back) : as = bs :=
  (h.decodable hnamed).flatMap_inj' h.text_ne_nil has hbs
    (List.append_cancel_left (List.append_cancel_right htexts))

end Layout

end Export

end SemanticWiki
