import Mathlib.Data.List.Basic
import PacRules.Proofs.Text.LowerCase

/-!
# Capitals

The characters that lower case changes are the capitals. Their lower-case forms stand in spans that
keep clear of every span of capitals, so no lower-case form holds a capital. A text in lower case
is therefore its own lower-case form, and so is every text made of its characters, whatever
stands around a sigma in it.
-/

namespace PacRules.Text

namespace LowerSpan

/-- The capitals, with those of ASCII and the dotted I, whose lower-case forms are not taken from
the table. -/
def capitals : List LowerSpan := ⟨0x41, 0x5a, 1, 0x61⟩ :: ⟨0x130, 0x130, 1, 0x69⟩ :: all

/-- The lower-case forms of `s` lie to one side of the capitals `t`. -/
def liesApart (s t : LowerSpan) : Bool :=
  Nat.blt (s.image s.last) t.first || Nat.blt t.last s.target

/-- The capitals `t` are every second code point, and the lower-case forms of `s` are among the
others. -/
def alternates (s t : LowerSpan) : Bool :=
  t.stride = 2 && (s.stride = 2 || s.first = s.last) && (s.target + t.first) % 2 = 1

theorem contains_iff {s : LowerSpan} {n : Nat} :
    s.contains n = true ↔ s.first ≤ n ∧ n ≤ s.last ∧ (n - s.first) % s.stride = 0 := by
  simp [contains, and_assoc]

theorem contains_image_eq_false {s t : LowerSpan} {n : Nat}
    (h : s.liesApart t = true ∨ s.alternates t = true) (hn : s.contains n = true) :
    t.contains (s.image n) = false := by
  rw [Bool.eq_false_iff]
  intro ht
  rw [contains_iff] at hn ht
  simp only [liesApart, alternates, Bool.or_eq_true, Bool.and_eq_true, Nat.blt_eq,
    decide_eq_true_eq] at h
  simp only [image] at h ht
  rcases h with (h | h) | ⟨⟨hstride, hstep⟩, hodd⟩
  · omega
  · omega
  · -- both distances are even, so the images and the capitals differ in parity
    rw [hstride] at ht
    rcases hstep with hstep | hstep
    · rw [hstep] at hn
      omega
    · omega

theorem apart_or_alternates {s t : LowerSpan} (hs : s ∈ all) (ht : t ∈ capitals) :
    s.liesApart t = true ∨ s.alternates t = true := by
  have hall : (all.all fun s => capitals.all fun t => s.liesApart t || s.alternates t) = true := by
    decide +kernel
  exact Bool.or_eq_true_iff.1 (List.all_eq_true.1 (List.all_eq_true.1 hall s hs) t ht)

/-- The table is about characters above ASCII. -/
theorem le_of_contains {s : LowerSpan} (hs : s ∈ all) {n : Nat} (hn : s.contains n = true) :
    128 ≤ n := by
  have hall : (all.all fun s => 128 ≤ s.first) = true := by decide
  have hfirst : 128 ≤ s.first := by simpa using List.all_eq_true.1 hall s hs
  exact Nat.le_trans hfirst (contains_iff.1 hn).1

theorem isValidChar_image {s : LowerSpan} (hs : s ∈ all) {n : Nat} (hn : s.contains n = true) :
    (s.image n).isValidChar := by
  have hall : (all.all fun s =>
      s.image s.last < 0xd800 || 0xdfff < s.target && s.image s.last < 0x110000) = true := by decide
  have hrange := List.all_eq_true.1 hall s hs
  obtain ⟨hfirst, hlast, -⟩ := contains_iff.1 hn
  simp only [Bool.or_eq_true, Bool.and_eq_true, decide_eq_true_eq] at hrange
  simp only [Nat.isValidChar, image] at hrange ⊢
  omega

end LowerSpan

def isCapital (c : Char) : Bool := LowerSpan.capitals.any (·.contains c.toNat)

/-- What is no capital: no capital of ASCII, no dotted I, and nothing that the table maps. -/
theorem isCapital_eq_false_iff {c : Char} :
    isCapital c = false ↔ ¬(65 ≤ c.toNat ∧ c.toNat ≤ 90) ∧ c.toNat ≠ 0x130 ∧
      ∀ s ∈ LowerSpan.all, s.contains c.toNat = false := by
  simp only [isCapital, LowerSpan.capitals, List.any_cons, Bool.or_eq_false_iff, List.any_eq_false,
    Bool.not_eq_true]
  refine and_congr ?_ (and_congr_left' ?_)
  · rw [Bool.eq_false_iff, ne_eq, LowerSpan.contains_iff]
    simp only
    omega
  · rw [Bool.eq_false_iff, ne_eq, LowerSpan.contains_iff]
    simp only
    omega

/-! ### What is no capital is kept -/

theorem toLower_of_not_isCapital {c : Char} (h : isCapital c = false) : c.toLower = c := by
  unfold Char.toLower
  split
  · next hupper =>
      have hge : 65 ≤ c.toNat := UInt32.le_iff_toNat_le.1 hupper.1
      have hle : c.toNat ≤ 90 := UInt32.le_iff_toNat_le.1 hupper.2
      exact absurd ⟨hge, hle⟩ (isCapital_eq_false_iff.1 h).1
  · rfl

theorem lowerCodePoint_of_not_isCapital {c : Char} (h : isCapital c = false) :
    lowerCodePoint c.toNat = c.toNat := by
  have hnone : LowerSpan.all.find? (·.contains c.toNat) = none := by
    refine List.find?_eq_none.2 ?_
    intro s hs
    simp [(isCapital_eq_false_iff.1 h).2.2 s hs]
  rw [lowerCodePoint, hnone]

theorem lowerBetween_of_not_isCapital {c : Char} (h : isCapital c = false) (before after : Text) :
    lowerBetween before c after = [c] := by
  have hsigma : c ≠ 'Σ' := by
    rintro rfl
    exact absurd h (by decide)
  have hdotted : c ≠ 'İ' := by
    rintro rfl
    exact absurd h (by decide)
  rw [lowerBetween, if_neg hsigma, if_neg hdotted, lowerChar, toLower_of_not_isCapital h,
    lowerCodePoint_of_not_isCapital h, Char.ofNat_toNat, ite_self]

theorem lowerFrom_eq_self {t : Text} (h : ∀ c ∈ t, isCapital c = false) (before : Text) :
    lowerFrom before t = t := by
  induction t generalizing before with
  | nil => rfl
  | cons c t ih =>
      rw [lowerFrom_cons, lowerBetween_of_not_isCapital (h c List.mem_cons_self),
        ih fun d hd => h d (List.mem_cons_of_mem c hd)]
      rfl

/-- A text without capitals is its own lower-case form. -/
theorem lower_eq_self {t : Text} (h : ∀ c ∈ t, isCapital c = false) : lower t = t :=
  lowerFrom_eq_self h []

/-! ### Lower case leaves no capital -/

theorem isCapital_toLower_of_ascii {c : Char} (h : c.toNat < 128) :
    isCapital c.toLower = false := by
  have hlow : c.toLower.toNat < 128 ∧ ¬(65 ≤ c.toLower.toNat ∧ c.toLower.toNat ≤ 90) :=
    forall_char_lt (P := fun c => c.toLower.toNat < 128 ∧
      ¬(65 ≤ c.toLower.toNat ∧ c.toLower.toNat ≤ 90)) (by decide) h
  refine isCapital_eq_false_iff.2 ⟨hlow.2, by omega, ?_⟩
  intro s hs
  rw [Bool.eq_false_iff]
  intro hcontains
  exact absurd hlow.1 (Nat.not_lt.2 (LowerSpan.le_of_contains hs hcontains))

theorem toNat_ofNat {n : Nat} (h : n.isValidChar) : (Char.ofNat n).toNat = n := by
  rw [Char.ofNat, dif_pos h]
  rfl

theorem isCapital_lowerCodePoint {c : Char} (hascii : 128 ≤ c.toNat) (hdotted : c ≠ 'İ') :
    isCapital (Char.ofNat (lowerCodePoint c.toNat)) = false := by
  unfold lowerCodePoint
  split
  · next s hs =>
      have hmem := List.mem_of_find?_eq_some hs
      have hn : s.contains c.toNat = true := by simpa using List.find?_some hs
      rw [isCapital, List.any_eq_false, toNat_ofNat (LowerSpan.isValidChar_image hmem hn)]
      intro t ht
      simp [LowerSpan.contains_image_eq_false (LowerSpan.apart_or_alternates hmem ht) hn]
  · next hnone =>
      rw [Char.ofNat_toNat, isCapital_eq_false_iff]
      refine ⟨by omega, fun heq => hdotted (Char.toNat_inj.1 heq), ?_⟩
      intro s hs
      simpa using List.find?_eq_none.1 hnone s hs

theorem isCapital_of_mem_lowerBetween {before after : Text} {c d : Char}
    (h : d ∈ lowerBetween before c after) : isCapital d = false := by
  unfold lowerBetween at h
  split at h
  · have hsigma : d = 'ς' ∨ d = 'σ' := by
      split at h
      · exact .inl (List.mem_singleton.1 h)
      · exact .inr (List.mem_singleton.1 h)
    rcases hsigma with rfl | rfl <;> decide
  · split at h
    · rcases List.mem_pair.1 h with rfl | rfl <;> decide
    · next hdotted =>
        rw [List.mem_singleton.1 h, lowerChar]
        split
        · next hascii => exact isCapital_toLower_of_ascii hascii
        · next hascii => exact isCapital_lowerCodePoint (Nat.le_of_not_lt hascii) hdotted

theorem isCapital_of_mem_lowerFrom {before t : Text} {c : Char} (h : c ∈ lowerFrom before t) :
    isCapital c = false := by
  induction t generalizing before with
  | nil => cases h
  | cons d t ih =>
      rw [lowerFrom_cons] at h
      rcases List.mem_append.1 h with h | h
      · exact isCapital_of_mem_lowerBetween h
      · exact ih h

/-- There are no capitals in lower case. -/
theorem isCapital_of_mem_lower {t : Text} {c : Char} (h : c ∈ lower t) : isCapital c = false :=
  isCapital_of_mem_lowerFrom h

end PacRules.Text
