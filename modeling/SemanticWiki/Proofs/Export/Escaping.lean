import Mathlib.Data.List.Infix
import SemanticWiki.Export.Xml

/-! Text between tags and quotes. It is clean if it has no bracket and no quote of its own, and no
ampersand but those that begin a reference to one of five characters. Escaped text is clean, and is
got back when the references are replaced. -/

namespace SemanticWiki.Xml

def references : List (List Char × Char) :=
  [("&amp;".toList, '&'), ("&lt;".toList, '<'), ("&gt;".toList, '>'), ("&quot;".toList, '"'),
   ("&apos;".toList, '\'')]

def Unmarked (c : Char) : Prop := c ≠ '<' ∧ c ≠ '>' ∧ c ≠ '"' ∧ c ≠ '\''

instance : DecidablePred Unmarked := fun _ => inferInstanceAs (Decidable (_ ∧ _))

structure Clean (raw : List Char) : Prop where
  unmarked : ∀ c ∈ raw, Unmarked c
  referred : ∀ rest, '&' :: rest <:+ raw → ∃ r ∈ references, r.1 <+: '&' :: rest

def resolve : List Char → List Char
  | '&' :: 'a' :: 'm' :: 'p' :: ';' :: rest => '&' :: resolve rest
  | '&' :: 'l' :: 't' :: ';' :: rest => '<' :: resolve rest
  | '&' :: 'g' :: 't' :: ';' :: rest => '>' :: resolve rest
  | '&' :: 'q' :: 'u' :: 'o' :: 't' :: ';' :: rest => '"' :: resolve rest
  | '&' :: 'a' :: 'p' :: 'o' :: 's' :: ';' :: rest => '\'' :: resolve rest
  | c :: rest => c :: resolve rest
  | [] => []

theorem escapeChar_cases (c : Char) :
    (escapeChar c, c) ∈ references ∨
      escapeChar c = [c] ∧ c ≠ '&' ∧ Unmarked c := by
  unfold escapeChar
  split
  · exact .inl (by simp [references])
  · exact .inl (by simp [references])
  · exact .inl (by simp [references])
  · exact .inl (by simp [references])
  · exact .inl (by simp [references])
  · exact .inr ⟨rfl, by assumption, by assumption, by assumption, by assumption, by assumption⟩

theorem resolve_cons {c : Char} (hc : c ≠ '&') (rest : List Char) :
    resolve (c :: rest) = c :: resolve rest := by
  rw [resolve] <;> simp [hc]

theorem resolve_reference {r : List Char × Char} (hr : r ∈ references) (rest : List Char) :
    resolve (r.1 ++ rest) = r.2 :: resolve rest := by
  simp only [references, List.mem_cons, List.not_mem_nil, or_false] at hr
  rcases hr with rfl | rfl | rfl | rfl | rfl <;> rfl

theorem clean_nil : Clean [] where
  unmarked _ hc := absurd hc List.not_mem_nil
  referred _ hrest := absurd (List.suffix_nil.1 hrest) (List.cons_ne_nil _ _)

theorem Clean.cons {raw : List Char} (h : Clean raw) {c : Char}
    (hc : c ≠ '&' ∧ Unmarked c) : Clean (c :: raw) where
  unmarked d hd := by
    rcases List.mem_cons.1 hd with rfl | hd
    · exact hc.2
    · exact h.unmarked d hd
  referred rest hrest := by
    rcases List.suffix_cons_iff.1 hrest with hsame | hrest
    · exact absurd (List.cons.inj hsame).1.symm hc.1
    · exact h.referred rest hrest

theorem Clean.reference {raw : List Char} (h : Clean raw) {r : List Char × Char}
    (hr : r ∈ references) : Clean (r.1 ++ raw) := by
  -- behind its ampersand, a reference is ordinary text
  obtain ⟨tail, hcode, hordinary⟩ : ∃ tail, r.1 = '&' :: tail ∧
      tail.all (fun c => c ≠ '&' ∧ Unmarked c) = true := by
    simp only [references, List.mem_cons, List.not_mem_nil, or_false] at hr
    rcases hr with rfl | rfl | rfl | rfl | rfl <;> exact ⟨_, rfl, by decide⟩
  have htail : ∀ c ∈ tail, c ≠ '&' ∧ Unmarked c := by simpa using hordinary
  have hbehind : Clean (tail ++ raw) := by
    clear hcode hordinary
    induction tail with
    | nil => exact h
    | cons c tail ih =>
      obtain ⟨hc, hrest⟩ := List.forall_mem_cons.1 htail
      exact (ih hrest).cons hc
  rw [hcode, List.cons_append]
  refine ⟨fun c hc => ?_, fun rest hrest => ?_⟩
  · rcases List.mem_cons.1 hc with rfl | hc
    · decide
    · exact hbehind.unmarked c hc
  · rcases List.suffix_cons_iff.1 hrest with hsame | hrest
    · refine ⟨r, hr, ?_⟩
      rw [hsame, hcode, ← List.cons_append]
      exact List.prefix_append _ _
    · exact hbehind.referred rest hrest

theorem escape_clean (text : String) :
    Clean (escape text).toList ∧ resolve (escape text).toList = text.toList := by
  rw [escape, String.toList_ofList]
  induction text.toList with
  | nil => exact ⟨clean_nil, rfl⟩
  | cons c rest ih =>
    obtain ⟨hclean, hresolve⟩ := ih
    rw [List.flatMap_cons]
    rcases escapeChar_cases c with hreference | ⟨hsame, hc⟩
    · exact ⟨hclean.reference hreference, by rw [resolve_reference hreference, hresolve]⟩
    · rw [hsame, List.singleton_append]
      exact ⟨hclean.cons hc, by rw [resolve_cons hc.1, hresolve]⟩

example : (escape "a<b & \"c\"'").toList = "a&lt;b &amp; &quot;c&quot;&apos;".toList := by decide

end SemanticWiki.Xml
