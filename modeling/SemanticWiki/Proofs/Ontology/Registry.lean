import Mathlib.Data.Nat.Basic
import SemanticWiki.Ontology
import SemanticWiki.Proofs.Distinct
import SemanticWiki.Proofs.SortedInsertion

/-! The registered elements as a map from numbers to elements. The list of elements ascends, so every
element in it is the one that its number yields. -/

namespace SemanticWiki

namespace Ontology

variable {o : Ontology} {e f : Element} {id : ElementId} {elements : List Element}

theorem id_of_get? (h : o.get? id = some e) : e.id = id := by
  unfold get? at h
  simpa using List.find?_some h

theorem mem_of_get? (h : o.get? id = some e) : e ∈ o.elements := List.mem_of_find?_eq_some h

theorem find?_putElement (e : Element) (elements : List Element) (id : ElementId) :
    (putElement e elements).find? (·.id == id) =
      if e.id = id then some e else elements.find? (·.id == id) := by
  induction elements with
  | nil => by_cases h : e.id = id <;> simp [putElement, h]
  | cons f rest ih =>
    unfold putElement
    by_cases hsame : f.id = e.id
    · by_cases h : e.id = id <;> simp [hsame, h]
    · rw [if_neg hsame]
      by_cases hbefore : e.id.val < f.id.val
      · rw [if_pos hbefore]
        by_cases h : e.id = id <;> simp [h]
      · rw [if_neg hbefore, List.find?_cons, List.find?_cons, ih]
        by_cases h : f.id = id
        · have hne : e.id ≠ id := fun he => hsame (h.trans he.symm)
          simp [h, hne]
        · rw [beq_eq_false_iff_ne.2 h]

theorem find?_filter_ne (elements : List Element) (i id : ElementId) :
    (elements.filter (·.id != i)).find? (·.id == id) =
      if id = i then none else elements.find? (·.id == id) := by
  by_cases h : id = i
  · rw [if_pos h, List.find?_eq_none]
    intro e he
    have hne : e.id ≠ i := by simpa using (List.mem_filter.1 he).2
    simpa [h] using hne
  · rw [if_neg h, List.find?_filter]
    congr 1
    funext e
    by_cases he : e.id = id <;> simp [he, h]

theorem putElement_eq_insertByKey (e : Element) (elements : List Element) :
    putElement e elements = insertByKey (·.id.val) e elements := by
  induction elements with
  | nil => rfl
  | cons f rest ih =>
    have hid : f.id = e.id ↔ f.id.val = e.id.val :=
      ⟨fun hsame => by rw [hsame], ElementId.eq_of_val⟩
    unfold putElement insertByKey
    simp only [hid, ih]

theorem mem_putElement (h : f ∈ putElement e elements) : f = e ∨ f ∈ elements := by
  rw [putElement_eq_insertByKey] at h
  exact mem_of_mem_insertByKey h

def Ascending (elements : List Element) : Prop := elements.Pairwise (·.id.val < ·.id.val)

theorem Ascending.nodup_ids (h : Ascending elements) : (elements.map (·.id)).Nodup := by
  refine List.pairwise_map.2 (h.imp ?_)
  intro e f hlt hsame
  exact Nat.lt_irrefl _ (hsame ▸ hlt)

theorem ascending_putElement (h : Ascending elements) : Ascending (putElement e elements) := by
  rw [putElement_eq_insertByKey]
  exact pairwise_insertByKey h

theorem get?_of_mem (h : Ascending o.elements) (he : e ∈ o.elements) : o.get? e.id = some e := by
  unfold get?
  generalize o.elements = elements at h he
  induction elements with
  | nil => cases he
  | cons f rest ih =>
    obtain ⟨hfirst, hrest⟩ := List.pairwise_cons.1 h
    rcases List.mem_cons.1 he with rfl | he
    · simp
    · have hne : f.id ≠ e.id := by
        intro hsame
        have hlt := hfirst e he
        rw [hsame] at hlt
        exact Nat.lt_irrefl _ hlt
      simpa [hne] using ih hrest he

theorem get?_store (o : Ontology) (e : Element) (id : ElementId) :
    (o.store e).get? id = if e.id = id then some e else o.get? id :=
  find?_putElement e o.elements id

end Ontology

end SemanticWiki
