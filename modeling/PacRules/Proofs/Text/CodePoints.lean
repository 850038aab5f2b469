import PacRules.Text.Alphanumeric
import PacRules.Text.Blank
import PacRules.Text.DecimalDigit

/-!
# Characters told by their code points

What is asked of the characters below a bound is looked at for each of them. Classes that are given
by spans have no common character if no span of one meets a span of the other. The blanks are such
a class too, and lie apart from the letters and the numbers.
-/

namespace PacRules.Text

/-- What holds of each character below a bound holds of any character below it. -/
theorem forall_char_lt {P : Char → Prop} {bound : Nat} (h : ∀ n < bound, P (Char.ofNat n))
    {c : Char} (hc : c.toNat < bound) : P c := by
  have hP := h c.toNat hc
  rwa [Char.ofNat_toNat] at hP

/-! ### Spans without a common character -/

/-- Each span of the one list ends in front of each of the other, or begins behind it. -/
def areApart (spans others : List Span) : Bool :=
  spans.all fun s => others.all fun o => Nat.blt s.last o.first || Nat.blt o.last s.first

theorem inSpans_eq_false_of_areApart {spans others : List Span} (h : areApart spans others = true)
    {c : Char} (hc : inSpans spans c = true) : inSpans others c = false := by
  rw [Bool.eq_false_iff]
  intro hother
  obtain ⟨s, hs, hcontains⟩ := List.any_eq_true.1 hc
  obtain ⟨o, ho, hcontains'⟩ := List.any_eq_true.1 hother
  have hapart := List.all_eq_true.1 (List.all_eq_true.1 h s hs) o ho
  rw [Span.contains_iff] at hcontains hcontains'
  simp only [Bool.or_eq_true, Nat.blt_eq] at hapart
  omega

/-! ### Blanks -/

/-- The spans of the blanks. -/
def blankSpans : List Span :=
  [⟨0x9, 0xd⟩, ⟨0x20, 0x20⟩, ⟨0x85, 0x85⟩, ⟨0xa0, 0xa0⟩, ⟨0x1680, 0x1680⟩, ⟨0x2000, 0x200a⟩,
   ⟨0x2028, 0x2029⟩, ⟨0x202f, 0x202f⟩, ⟨0x205f, 0x205f⟩, ⟨0x3000, 0x3000⟩]

theorem inSpans_of_isBlank {c : Char} (h : isBlank c = true) : inSpans blankSpans c = true := by
  have hrange : ∀ first last : Char, first ≤ c → c ≤ last →
      (⟨first.toNat, last.toNat⟩ : Span).contains c.toNat = true := by
    intro first last hfirst hlast
    exact (Span.contains_iff _ _).2
      ⟨UInt32.le_iff_toNat_le.1 hfirst, UInt32.le_iff_toNat_le.1 hlast⟩
  simp only [isBlank, Bool.or_eq_true, Bool.and_eq_true, decide_eq_true_eq] at h
  rcases h with (((((((((h | rfl) | rfl) | rfl) | rfl) | h) | rfl) | rfl) | rfl) | rfl) | rfl
  · exact List.any_eq_true.2 ⟨_, by simp [blankSpans], hrange '\t' '\r' h.1 h.2⟩
  · rfl
  · rfl
  · rfl
  · rfl
  · exact List.any_eq_true.2 ⟨_, by simp [blankSpans], hrange '\u2000' '\u200a' h.1 h.2⟩
  · rfl
  · rfl
  · rfl
  · rfl
  · rfl

/-- The letters and numbers, and the decimal digits among them, are apart from the blanks. -/
theorem areApart_blankSpans :
    areApart alphanumericSpans blankSpans = true ∧
      areApart decimalDigitSpans blankSpans = true := by
  rw [← Bool.and_eq_true]
  delta alphanumericSpans decimalDigitSpans Span.ofTable tableRows
  rw [alphanumericTable, decimalDigitTable, String.toList_ofList, String.toList_ofList]
  decide +kernel

theorem isBlank_eq_false_of_inSpans {spans : List Span} (hapart : areApart spans blankSpans = true)
    {c : Char} (hc : inSpans spans c = true) : isBlank c = false := by
  have hnone := inSpans_eq_false_of_areApart hapart hc
  rw [Bool.eq_false_iff]
  intro hblank
  simp [inSpans_of_isBlank hblank] at hnone

/-- No letter and no number is a blank. -/
theorem isBlank_eq_false_of_isAlphanumeric {c : Char} (h : isAlphanumeric c = true) :
    isBlank c = false := by
  by_cases hc : c.toNat < 128
  · rw [isAlphanumeric_of_ascii hc] at h
    exact forall_char_lt (P := fun c => c.isAlphanum = true → isBlank c = false) (by decide) hc h
  · have hspans : inSpans alphanumericSpans c = true := by simpa [isAlphanumeric, hc] using h
    exact isBlank_eq_false_of_inSpans areApart_blankSpans.1 hspans

theorem isBlank_eq_false_of_isDecimalDigit {c : Char} (h : isDecimalDigit c = true) :
    isBlank c = false := by
  by_cases hc : c.toNat < 128
  · rw [isDecimalDigit_of_ascii hc] at h
    exact forall_char_lt (P := fun c => c.isDigit = true → isBlank c = false) (by decide) hc h
  · have hspans : inSpans decimalDigitSpans c = true := by simpa [isDecimalDigit, hc] using h
    exact isBlank_eq_false_of_inSpans areApart_blankSpans.2 hspans

end PacRules.Text
