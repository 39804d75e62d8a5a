import Mathlib.Data.List.Basic
import SemanticWiki.Proofs.Text.CodeMask
import SemanticWiki.Proofs.Text.LetterCase

/-! What lowercase letters are like. A capital becomes one or two letters that stay as they are, and
everything else stays what it is. So a text in lowercase is its own lowercase form, and it has blanks and
marks only where the text had them. -/

namespace SemanticWiki.Text

def CaseRun.codes (run : CaseRun) : List Nat :=
  (List.range ((run.last - run.first) / run.step + 1)).map fun i => run.first + run.step * i

def CaseRun.images (run : CaseRun) : List Nat := run.codes.map fun n : Nat => (n + run.shift).toNat

/-- Code points that no capital beyond the basic ones is moved to: the basic signs, digits and capitals
and the marks and signs behind the basic letters, the two capitals that have no single small letter, and
the blanks beyond. -/
def unreached : List Nat :=
  span 0 0x60 ++ span 0x7B 0xDE ++ [0x130, 0x3A3, 0x1680] ++ span 0x2000 0x205F ++ [0x3000]

theorem CaseRun.mem_codes {run : CaseRun} {n : Nat} (h : run.contains n = true) :
    n ∈ run.codes := by
  simp only [contains, Bool.and_eq_true, decide_eq_true_eq, beq_iff_eq] at h
  obtain ⟨⟨hfirst, hlast⟩, hstep⟩ := h
  refine List.mem_map.2 ⟨(n - run.first) / run.step, List.mem_range.2 ?_, ?_⟩
  · exact Nat.lt_succ_of_le (Nat.div_le_div_right (Nat.sub_le_sub_right hlast run.first))
  · have hmul := Nat.mul_div_cancel' (Nat.dvd_of_mod_eq_zero hstep)
    omega

structure Small (d : Char) : Prop where
  lowerChar_eq : lowerChar d = [d]
  not_sigma : d ≠ 'Σ'
  reached : d.toNat ∉ unreached

instance (d : Char) : Decidable (Small d) :=
  decidable_of_iff (lowerChar d = [d] ∧ d ≠ 'Σ' ∧ d.toNat ∉ unreached)
    ⟨fun ⟨hlower, hsigma, hreached⟩ => ⟨hlower, hsigma, hreached⟩, fun ⟨hlower, hsigma, hreached⟩ =>
      ⟨hlower, hsigma, hreached⟩⟩

theorem lowerRuns_images :
    apart (lowerRuns.flatMap CaseRun.images) (unreached ++ lowerRuns.flatMap CaseRun.codes) = true ∧
      (lowerRuns.flatMap CaseRun.images).all (Nat.isValidChar ·) = true := by
  decide +kernel

theorem small_of_mem_images {d : Char} (hd : d.toNat ∈ lowerRuns.flatMap CaseRun.images) :
    Small d := by
  have hout := not_mem_of_apart lowerRuns_images.1 hd
  rw [List.mem_append, not_or] at hout
  obtain ⟨hreached, hcapital⟩ := hout
  refine ⟨?_, ?_, hreached⟩
  · by_cases hbasic : d.toNat < 0x80
    · exact forall_basic (p := fun d => d.toNat ∉ unreached → lowerChar d = [d]) (by decide +kernel)
        hbasic hreached
    · have hdotted : d ≠ 'İ' := by
        rintro rfl
        exact hreached (by decide)
      have hnone : lowerRuns.find? (·.contains d.toNat) = none := by
        rw [List.find?_eq_none]
        intro run hrun hcontains
        exact hcapital (List.mem_flatMap.2 ⟨run, hrun, CaseRun.mem_codes hcontains⟩)
      rw [lowerChar, if_neg hbasic, if_neg hdotted, shiftedBy, hnone]
  · rintro rfl
    exact hreached (by decide)

theorem shiftedBy_lowerRuns (c : Char) :
    shiftedBy lowerRuns c = c ∨ Small (shiftedBy lowerRuns c) := by
  rw [shiftedBy]
  cases hfind : lowerRuns.find? (·.contains c.toNat) with
  | none => exact .inl rfl
  | some run =>
    have hrun := List.mem_of_find?_eq_some hfind
    have hcontains := List.find?_some hfind
    have himage : (c.toNat + run.shift).toNat ∈ lowerRuns.flatMap CaseRun.images :=
      List.mem_flatMap.2 ⟨run, hrun, List.mem_map_of_mem (CaseRun.mem_codes hcontains)⟩
    have hvalid : (c.toNat + run.shift).toNat.isValidChar := by
      have hall := List.all_eq_true.1 lowerRuns_images.2 _ himage
      rwa [decide_eq_true_eq] at hall
    exact .inr (small_of_mem_images ((toNat_ofNat hvalid).symm ▸ himage))

inductive Image (c : Char) : List Char → Prop
  | same (hlower : lowerChar c = [c]) (hsigma : c ≠ 'Σ') : Image c [c]
  | small {letters : List Char} (hsome : letters ≠ []) (hsmall : ∀ d ∈ letters, Small d) :
      Image c letters

theorem image_of_moved {c d : Char} (hsigma : c ≠ 'Σ') (hlower : lowerChar c = [d])
    (hmoved : d = c ∨ Small d) : Image c (lowerChar c) := by
  rw [hlower]
  rcases hmoved with rfl | hsmall
  · exact .same hlower hsigma
  · exact .small (List.cons_ne_nil d []) (by simpa using hsmall)

theorem image_lowerChar {c : Char} (hsigma : c ≠ 'Σ') : Image c (lowerChar c) := by
  by_cases hbasic : c.toNat < 0x80
  · have hmoved : c.toLower = c ∨ Small c.toLower :=
      forall_basic (p := fun c => c.toLower = c ∨ Small c.toLower) (by decide +kernel) hbasic
    exact image_of_moved hsigma (by rw [lowerChar, if_pos hbasic]) hmoved
  · by_cases hdotted : c = 'İ'
    · subst hdotted
      have hi : Small 'i' := by decide +kernel
      have hdot : Small '\u0307' := by decide +kernel
      exact .small (List.cons_ne_nil _ _)
        (List.forall_mem_cons.2 ⟨hi, List.forall_mem_cons.2 ⟨hdot, List.forall_mem_nil _⟩⟩)
    · exact image_of_moved hsigma (by rw [lowerChar, if_neg hbasic, if_neg hdotted])
        (shiftedBy_lowerRuns c)

theorem lowerAfter_cons (before : List Char) (c : Char) (rest : List Char) :
    ∃ letters, Image c letters ∧
      lowerAfter before (c :: rest) = letters ++ lowerAfter (c :: before) rest := by
  rw [lowerAfter]
  split
  · have hfinal : Small 'ς' := by decide +kernel
    have hinner : Small 'σ' := by decide +kernel
    refine ⟨_, .small (List.cons_ne_nil _ _) ?_, rfl⟩
    split
    · simpa using hfinal
    · simpa using hinner
  · rename_i hsigma
    exact ⟨_, image_lowerChar hsigma, rfl⟩

variable {text : List Char}

theorem Image.stays {c d : Char} {letters : List Char} (h : Image c letters) (hd : d ∈ letters) :
    lowerChar d = [d] ∧ d ≠ 'Σ' := by
  cases h with
  | same hlower hsigma =>
    obtain rfl := List.mem_singleton.1 hd
    exact ⟨hlower, hsigma⟩
  | small hsome hsmall => exact ⟨(hsmall d hd).lowerChar_eq, (hsmall d hd).not_sigma⟩

theorem stays_of_mem_lowerAfter {before : List Char} {d : Char} (hd : d ∈ lowerAfter before text) :
    lowerChar d = [d] ∧ d ≠ 'Σ' := by
  induction text generalizing before with
  | nil => cases hd
  | cons c rest ih =>
    obtain ⟨letters, himage, hcons⟩ := lowerAfter_cons before c rest
    rw [hcons, List.mem_append] at hd
    rcases hd with hd | hd
    · exact himage.stays hd
    · exact ih hd

theorem lowerAfter_eq_self (h : ∀ d ∈ text, lowerChar d = [d] ∧ d ≠ 'Σ') (before : List Char) :
    lowerAfter before text = text := by
  induction text generalizing before with
  | nil => rfl
  | cons c rest ih =>
    obtain ⟨⟨hlower, hsigma⟩, hrest⟩ := List.forall_mem_cons.1 h
    rw [lowerAfter, if_neg hsigma, hlower, ih hrest, List.singleton_append]

theorem lower_lower (text : List Char) : lower (lower text) = lower text :=
  lowerAfter_eq_self (fun _ => stays_of_mem_lowerAfter) []

theorem lower_ne_nil (h : text ≠ []) : lower text ≠ [] := by
  obtain ⟨c, rest, rfl⟩ := List.exists_cons_of_ne_nil h
  obtain ⟨letters, himage, hcons⟩ := lowerAfter_cons [] c rest
  rw [lower, hcons]
  cases himage with
  | same hlower hsigma => exact List.cons_ne_nil _ _
  | small hsome hsmall => exact List.append_ne_nil_of_left_ne_nil hsome _

section Kept

/-! What is true of no small letter is true in the lowercase form only where it was true before. -/

variable {p : Char → Bool} (hp : ∀ d, Small d → p d = false)
include hp

theorem Image.free {c : Char} {letters : List Char} (h : Image c letters) (hc : p c = false) :
    ∀ d ∈ letters, p d = false := by
  cases h with
  | same hlower hsigma => simpa using hc
  | small hsome hsmall => exact fun d hd => hp d (hsmall d hd)

theorem lower_free (h : ∀ c ∈ text, p c = false) : ∀ d ∈ lower text, p d = false := by
  rw [lower]
  generalize [] = before
  induction text generalizing before with
  | nil => simp [lowerAfter]
  | cons c rest ih =>
    obtain ⟨hc, hrest⟩ := List.forall_mem_cons.1 h
    obtain ⟨letters, himage, hcons⟩ := lowerAfter_cons before c rest
    rw [hcons]
    exact List.forall_mem_append.2 ⟨himage.free hp hc, ih hrest (c :: before)⟩

theorem head?_lower_free (h : ∀ c ∈ text.head?, p c = false) :
    ∀ d ∈ (lower text).head?, p d = false := by
  cases text with
  | nil => simp [lower, lowerAfter]
  | cons c rest =>
    obtain ⟨letters, himage, hcons⟩ := lowerAfter_cons [] c rest
    have hsome : letters ≠ [] := by cases himage <;> simp_all
    rw [lower, hcons, List.head?_append_of_ne_nil _ hsome]
    exact fun d hd => himage.free hp (h c rfl) d (List.mem_of_mem_head? hd)

theorem getLast?_lower_free (h : ∀ c ∈ text.getLast?, p c = false) :
    ∀ d ∈ (lower text).getLast?, p d = false := by
  rw [lower]
  generalize [] = before
  induction text generalizing before with
  | nil => simp [lowerAfter]
  | cons c rest ih =>
    obtain ⟨letters, himage, hcons⟩ := lowerAfter_cons before c rest
    rw [hcons]
    cases rest with
    | nil =>
      rw [lowerAfter, List.append_nil]
      exact fun d hd => himage.free hp (h c rfl) d (List.mem_of_mem_getLast? hd)
    | cons next rest =>
      have hrest := ih (by simpa using h) (c :: before)
      have hsome : lowerAfter (c :: before) (next :: rest) ≠ [] := by
        obtain ⟨letters, himage, hcons⟩ := lowerAfter_cons (c :: before) next rest
        rw [hcons]
        cases himage <;> simp_all
      rwa [List.getLast?_append_of_ne_nil _ hsome]

end Kept

theorem Small.not_blank {d : Char} (h : Small d) : isBlank d = false := by
  have hsub : ∀ n ∈ blankCodes, n ∈ unreached := by decide +kernel
  rw [← Bool.not_eq_true]
  intro hblank
  exact h.reached (hsub _ (mem_blankCodes hblank))

end SemanticWiki.Text
