import SemanticWiki.Proofs.Lexicon.StoredWords
import SemanticWiki.Proofs.Ontology.Integrity
import SemanticWiki.Proofs.Word.Normalization

/-! A form that is sent back as it was shown. What an editor sees of a stored value is taken for that
value again, and an element does not get in the way of its own words. So an editor who changes nothing
is not refused and changes nothing. -/

namespace SemanticWiki

variable {slot : Slot} {value : Value}

theorem Slot.Admits.of_normalize_eq {raw other : String} (h : slot.Admits (.word raw))
    (hsame : Word.normalize other = Word.normalize raw) : slot.Admits (.word other) := by
  obtain ⟨hform, hword⟩ := h
  refine ⟨hform, ?_⟩
  rwa [hsame]

theorem Slot.Admits.stored (h : slot.Admits value) :
    slot.Admits value.normal ∧ value.normal.normal = value.normal := by
  cases value with
  | flag on => exact ⟨h, rfl⟩
  | word raw =>
    have hsame := Word.normalize_normalize raw
    exact ⟨h.of_normalize_eq hsame, congrArg Value.word hsame⟩

theorem Slot.Admits.shown (h : slot.Admits value) :
    slot.Admits value.normal.pretty ∧ value.normal.pretty.normal = value.normal := by
  cases value with
  | flag on => exact ⟨h, rfl⟩
  | word raw =>
    have hsame := Word.normalize_pretty_normalize raw
    exact ⟨h.of_normalize_eq hsame, congrArg Value.word hsame⟩

namespace Lexicon

variable {kind : Kind} {raw values : List Value}

/-- If what `f` makes of a stored value is taken for that value, the checks have the same outcome for
what it makes of all of them. -/
theorem validateValues_map {f : Value → Value}
    (hf : ∀ (slot : Slot) (value : Value), slot.Admits value →
      slot.Admits (f value.normal) ∧ (f value.normal).normal = value.normal)
    (h : validateValues kind raw = .ok values) :
    validateValues kind (values.map f) = .ok values := by
  obtain ⟨hadmits, rfl⟩ := validateValues_ok_iff.1 h
  rw [validateValues_ok_iff, List.map_map, List.map_map, List.forall₂_map_right_iff]
  constructor
  · exact hadmits.imp fun slot value hvalue => (hf slot value hvalue).1
  · clear h
    generalize kind.slots = slots at hadmits
    induction hadmits with
    | nil => rfl
    | cons hfirst _ ih =>
      have hvalue := (hf _ _ hfirst).2
      rw [List.map_cons, List.map_cons, ← ih, Function.comp_apply, Function.comp_apply, hvalue]

theorem validateValues_stored (h : validateValues kind raw = .ok values) :
    validateValues kind values = .ok values := by
  have hmap := validateValues_map (f := id) (fun _ _ => Slot.Admits.stored) h
  rwa [List.map_id] at hmap

theorem map_value_details {e : Element} (hlength : e.values.length = kind.slots.length) :
    (details kind e).map (·.value) = e.values.map Value.pretty := by
  have hshown : (details kind e).map (·.value) =
      ((kind.slots.zip e.values).map Prod.snd).map Value.pretty := by
    rw [details, List.map_map, List.map_map]
    rfl
  rw [hshown, List.map_snd_zip hlength.le]

theorem validateValues_details {e : Element} (h : e.Checked) :
    validateValues e.kind ((details e.kind e).map (·.value)) = .ok e.values := by
  rw [map_value_details h.holds.length_eq.symm]
  obtain ⟨raw, hraw⟩ := h
  exact validateValues_map (fun _ _ => Slot.Admits.shown) hraw

end Lexicon

namespace Ontology

variable {o : Ontology} {e : Element}

theorem Intact.accepts (h : Intact o) (hindexed : Indexed o) (he : e ∈ o.elements) :
    o.Accepts e := by
  have hget : o.get? e.id = some e := get?_of_mem hindexed.ascending he
  constructor
  · intro hremoved
    cases (h.removed e.id hremoved).symm.trans hget
  · intro registered hregistered
    rw [hget] at hregistered
    exact Option.some.inj hregistered ▸ rfl
  · rw [hindexed.taken?_eq_none_iff]
    intro f hf hother word hword other hmem hsame
    exact hother (congrArg Element.id (hindexed.eq_of_key_eq he hf hword hmem hsame)).symm

theorem Accepts.commit_eq (h : o.Accepts e) (hget : o.get? e.id = some e) :
    o.commit e.id e.kind e.values = (.ok o.revision, o) := by
  have hends := o.commit_commitment e.id e.kind e.values
  generalize o.commit e.id e.kind e.values = result at hends
  cases hends with
  | refused error hrefused => exact absurd h hrefused
  | unchanged haccepts hsame => rfl
  | stored haccepts hnew => exact absurd hget hnew

theorem Intact.save_eq (h : Intact o) (hindexed : Indexed o) (he : e ∈ o.elements)
    {wordNumber : Nat} (hnumber : wordNumber < e.kind.slots.length) {values : List Value}
    (hvalues : Lexicon.validateValues e.kind values = .ok e.values) :
    Lexicon.save e.kind o e wordNumber values = ⟨.ok o.revision, e, o⟩ := by
  have hcommit := (h.accepts hindexed he).commit_eq (get?_of_mem hindexed.ascending he)
  unfold Lexicon.save
  rw [if_neg (not_not.2 rfl), if_neg (Nat.not_le.2 hnumber), hvalues]
  dsimp only
  rw [hcommit]

theorem unchanged_form_saved (name baseIri : String) (edits : List Lexicon.Edit) :
    let o := (new name baseIri).edited edits
    (∀ e ∈ o.elements, ∀ wordNumber < e.kind.slots.length,
      Lexicon.save e.kind o e wordNumber ((Lexicon.details e.kind e).map (·.value)) =
        ⟨.ok o.revision, e, o⟩) ∧
    ∀ kind raw values, Lexicon.validateValues kind raw = .ok values →
      Lexicon.validateValues kind values = .ok values := by
  intro o
  have hnew := maintained_new name baseIri
  have hmaintained : Maintained o := hnew.edited edits
  have hintact : Intact o :=
    hnew.edited_induction (fun _ _ hchange => hchange.intact) (intact_new name baseIri) edits
  constructor
  · intro e he wordNumber hnumber
    have hshown := Lexicon.validateValues_details (hmaintained.checked e he)
    exact hintact.save_eq hmaintained.indexed he hnumber hshown
  · intro kind raw values hvalid
    exact Lexicon.validateValues_stored hvalid

theorem applies_to_saved_again :
    let verb : ElementId := ⟨.first⟩
    let entered : List Value := [.word " applies_ to", .word "apply  to", .word "_"]
    let stored : List Value := [.word "applies_to", .word "apply_to", .word ""]
    let shown : List Value := [.word "applies to", .word "apply to", .word ""]
    let o := (new "wiki" "http://example.org/").edited
      [.allocate .relation, .save .relation (.fresh verb .relation) 0 entered]
    o.elements = [⟨verb, .relation, stored⟩] ∧
      (Lexicon.details .relation ⟨verb, .relation, stored⟩).map (·.value) = shown ∧
      Lexicon.save .relation o ⟨verb, .relation, stored⟩ 2 shown =
        ⟨.ok o.revision, ⟨verb, .relation, stored⟩, o⟩ ∧
      Lexicon.validateValues .relation entered = .ok stored ∧
      Lexicon.validateValues .relation stored = .ok stored := by
  intro verb entered stored shown o
  have helements : o.elements = [⟨verb, .relation, stored⟩] := by decide +kernel
  have hshown : (Lexicon.details .relation ⟨verb, .relation, stored⟩).map (·.value) = shown := by
    decide +kernel
  have hentered : Lexicon.validateValues .relation entered = .ok stored := by decide +kernel
  obtain ⟨hsaved, hagain⟩ := unchanged_form_saved "wiki" "http://example.org/"
    [.allocate .relation, .save .relation (.fresh verb .relation) 0 entered]
  have hsave := hsaved ⟨verb, .relation, stored⟩ (helements ▸ List.mem_singleton_self _) 2 (by decide)
  rw [hshown] at hsave
  exact ⟨helements, hshown, hsave, hentered, hagain .relation entered stored hentered⟩

end Ontology

end SemanticWiki
