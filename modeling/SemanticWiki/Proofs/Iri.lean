import Mathlib.Data.List.TakeWhile
import SemanticWiki.Iri
import SemanticWiki.Proofs.Except

/-! Fragments of identifiers. The first number sign of an identifier is where its fragment starts, and
a fragment has no other one. So an identifier without a fragment can be given one of plain characters,
and an identifier with a fragment cannot be given another. -/

namespace SemanticWiki.Iri

variable {allowed : Char → Bool} {front text : List Char}

/-! One part, in which all characters but those of percent encodings have to be allowed. -/

theorem checkPart_append (h : checkPart allowed text = .ok ()) (rest : List Char) :
    checkPart allowed (text ++ rest) = checkPart allowed rest := by
  fun_induction checkPart allowed text with
  | case1 => rfl
  | case2 a b behind hhex ih =>
    rw [List.cons_append, List.cons_append, List.cons_append, checkPart, if_pos hhex, ih h]
  | case3 a b behind hhex => cases h
  | case4 short hshort => cases h
  | case5 c behind hnot hallowed ih =>
    rw [List.cons_append, checkPart, if_pos hallowed, ih h]
    exact hnot
  | case6 c behind hnot hallowed => cases h

theorem checkPart_cons_of_allowed {c : Char} (hc : allowed c = true) (hpercent : c ≠ '%')
    (rest : List Char) : checkPart allowed (c :: rest) = checkPart allowed rest := by
  rw [checkPart, if_pos hc]
  exact hpercent

theorem checkPart_cons_of_not_allowed {c : Char} (hc : allowed c = false) (hpercent : c ≠ '%')
    (rest : List Char) : checkPart allowed (c :: rest) = .error (.invalidCodePoint c) := by
  rw [checkPart, if_neg (by simp [hc])]
  exact hpercent

theorem checkPart_of_allowed (h : ∀ c ∈ text, allowed c = true ∧ c ≠ '%') :
    checkPart allowed text = .ok () := by
  induction text with
  | nil => rfl
  | cons c rest ih =>
    obtain ⟨hc, hpercent⟩ := h c List.mem_cons_self
    rw [checkPart_cons_of_allowed hc hpercent]
    exact ih fun d hd => h d (List.mem_cons_of_mem c hd)

/-! The parts in their order. No part in front of the fragment goes on beyond a number sign. -/

theorem takeWhile_append_stop {p : Char → Bool} {c : Char} (hc : p c = false)
    (front rest : List Char) : (front ++ c :: rest).takeWhile p = front.takeWhile p := by
  induction front with
  | nil => simp [hc]
  | cons d front ih => rw [List.cons_append, List.takeWhile_cons, List.takeWhile_cons, ih]

theorem dropWhile_append_stop {p : Char → Bool} {c : Char} (hc : p c = false)
    (front rest : List Char) :
    (front ++ c :: rest).dropWhile p = front.dropWhile p ++ c :: rest := by
  induction front with
  | nil => simp [hc]
  | cons d front ih =>
    rw [List.cons_append, List.dropWhile_cons, List.dropWhile_cons, ih]
    split <;> rfl

theorem checkTail_append (hfront : '#' ∉ front) (hstart : ∀ c ∈ front.head?, c = '?')
    (fragment : List Char) :
    checkTail (front ++ '#' :: fragment) = (checkTail front >>= fun _ => checkFragment fragment) := by
  cases front with
  | nil => rfl
  | cons c query =>
    obtain rfl : c = '?' := hstart c rfl
    have hquery : ∀ c ∈ query, (c != '#') = true := by
      intro c hc
      simpa using fun hsign : c = '#' => hfront (hsign ▸ List.mem_cons_of_mem _ hc)
    have hall : query.takeWhile (· != '#') = query := List.takeWhile_eq_self_iff.2 hquery
    have hnone : query.dropWhile (· != '#') = [] := List.dropWhile_eq_nil_iff.2 hquery
    rw [List.cons_append, checkTail, checkTail, takeWhile_append_stop (by decide),
      dropWhile_append_stop (by decide), hall, hnone]
    cases checkPart isQueryChar query <;> rfl

theorem checkPath_append (hfront : '#' ∉ front) (fragment : List Char) :
    checkPath (front ++ '#' :: fragment) = (checkPath front >>= fun _ => checkFragment fragment) := by
  have htail : '#' ∉ front.dropWhile (!endsPath ·) := fun h =>
    hfront ((List.dropWhile_suffix _).subset h)
  have hstart : ∀ c ∈ (front.dropWhile (!endsPath ·)).head?, c = '?' := by
    intro c hc
    have hends : endsPath c = true := by
      have hnot := List.head?_dropWhile_not (!endsPath ·) front
      rw [Option.mem_def.1 hc] at hnot
      simpa using hnot
    have hsign : c ≠ '#' := by
      rintro rfl
      exact htail (List.mem_of_mem_head? hc)
    simpa [endsPath, hsign] using hends
  rw [checkPath, checkPath, takeWhile_append_stop (by decide), dropWhile_append_stop (by decide),
    checkTail_append htail hstart]
  cases checkPart isPathChar (front.takeWhile (!endsPath ·)) <;> rfl

def checkBody (text : List Char) : Except IriError Unit :=
  match text with
  | '/' :: '/' :: rest => do
    checkAuthority (rest.takeWhile (!endsAuthority ·))
    checkPath (rest.dropWhile (!endsAuthority ·))
  | _ => checkPath text

theorem checkBody_append (hfront : '#' ∉ front) (fragment : List Char) :
    checkBody (front ++ '#' :: fragment) = (checkBody front >>= fun _ => checkFragment fragment) := by
  by_cases hauthority : ∃ rest, front = '/' :: '/' :: rest
  · obtain ⟨rest, rfl⟩ := hauthority
    have hrest : '#' ∉ rest.dropWhile (!endsAuthority ·) := fun h =>
      hfront (List.mem_cons_of_mem _ (List.mem_cons_of_mem _ ((List.dropWhile_suffix _).subset h)))
    rw [List.cons_append, List.cons_append, checkBody, checkBody, takeWhile_append_stop (by decide),
      dropWhile_append_stop (by decide), checkPath_append hrest]
    cases checkAuthority (rest.takeWhile (!endsAuthority ·)) <;> rfl
  · have hnone : ∀ rest, front ++ '#' :: fragment ≠ '/' :: '/' :: rest := by
      intro rest h
      rcases front with _ | ⟨c, _ | ⟨d, front⟩⟩
      · cases h
      · cases h
      · simp only [List.cons_append, List.cons.injEq] at h
        obtain ⟨rfl, rfl, -⟩ := h
        exact hauthority ⟨front, rfl⟩
    rw [checkBody, checkBody, checkPath_append hfront]
    · exact fun rest h => hauthority ⟨rest, h⟩
    · exact hnone

def checkScheme (first : Option Char) : List Char → Except IriError Unit
  | ':' :: rest => if (first.map Char.isAlpha).getD false then checkBody rest else .error .noScheme
  | _ => .error .noScheme

theorem check_eq (iri : String) :
    check iri = checkScheme iri.toList.head? (iri.toList.dropWhile isSchemeChar) := rfl

theorem check_fragment {base : String} (hbase : '#' ∉ base.toList) (fragment : String) :
    check (base ++ "#" ++ fragment) = (check base >>= fun _ => checkFragment fragment.toList) := by
  have htext : (base ++ "#" ++ fragment).toList = base.toList ++ '#' :: fragment.toList := by simp
  have hbehind : '#' ∉ base.toList.dropWhile isSchemeChar := fun h =>
    hbase ((List.dropWhile_suffix _).subset h)
  rw [check_eq, check_eq, htext, dropWhile_append_stop (by decide)]
  cases hscheme : base.toList.dropWhile isSchemeChar with
  | nil => rfl
  | cons c rest =>
    obtain ⟨first, more, hfirst⟩ : ∃ first more, base.toList = first :: more := by
      cases hempty : base.toList with
      | nil => simp [hempty] at hscheme
      | cons first more => exact ⟨first, more, rfl⟩
    rw [hfirst, List.cons_append, List.cons_append, List.head?_cons, List.head?_cons]
    by_cases hcolon : c = ':'
    · subst hcolon
      rw [hscheme] at hbehind
      have hrest : '#' ∉ rest := fun h => hbehind (List.mem_cons_of_mem _ h)
      rw [checkScheme, checkScheme, checkBody_append hrest]
      split <;> rfl
    · have hnot (text : List Char) : checkScheme (some first) (c :: text) = .error .noScheme := by
        rw [checkScheme]
        exact fun rest h => hcolon (List.cons.inj h).1
      rw [hnot, hnot]
      rfl

theorem check_fragment_ok {base fragment : String} (hbase : '#' ∉ base.toList)
    (hvalid : check base = .ok ())
    (hfragment : ∀ c ∈ fragment.toList, isFragmentChar c = true ∧ c ≠ '%') :
    check (base ++ "#" ++ fragment) = .ok () := by
  rw [check_fragment hbase, hvalid]
  exact checkPart_of_allowed hfragment

theorem check_second_fragment {base : String} (hbase : '#' ∈ base.toList)
    (hvalid : check base = .ok ()) (fragment : String) :
    check (base ++ "#" ++ fragment) = .error (.invalidCodePoint '#') := by
  obtain ⟨front, behind, hbase, hfirst⟩ := List.eq_append_cons_of_mem hbase
  have hsplit : base = String.ofList front ++ "#" ++ String.ofList behind := by
    apply String.toList_inj.1
    simpa using hbase
  have hfront : '#' ∉ (String.ofList front).toList := by simpa using hfirst
  have hbehind : checkFragment behind = .ok () := by
    rw [hsplit, check_fragment hfront] at hvalid
    obtain ⟨-, -, hvalid⟩ := bind_ok hvalid
    simpa using hvalid
  have hvalidFront : check (String.ofList front) = .ok () := by
    rw [hsplit, check_fragment hfront] at hvalid
    obtain ⟨_, hvalid, -⟩ := bind_ok hvalid
    exact hvalid
  have hagain : base ++ "#" ++ fragment =
      String.ofList front ++ "#" ++ (String.ofList behind ++ "#" ++ fragment) := by
    rw [hsplit]
    simp [String.append_assoc]
  have htext : (String.ofList behind ++ "#" ++ fragment).toList = behind ++ '#' :: fragment.toList := by
    simp
  rw [hagain, check_fragment hfront, hvalidFront, htext]
  change checkFragment _ = _
  rw [checkFragment, checkPart_append hbehind]
  exact checkPart_cons_of_not_allowed (by decide) (by decide) _

end SemanticWiki.Iri
