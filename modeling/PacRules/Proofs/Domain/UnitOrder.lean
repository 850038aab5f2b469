import PacRules.Proofs.Domain.Order
import PacRules.Text.Units

/-!
# The order of code units

A script compares texts by their code units, but the lists in which it searches ascend by
characters. The two orders are not one: a surrogate is less than the last characters of the basic
plane, so these characters and those beyond the basic plane stand the other way round by their
units. All other characters stand as they do by their code points. Two texts are told apart by
their first different characters, whichever of the orders is taken.
-/

namespace PacRules.Domain

open PacRules.Text

/-- Whether of two characters the first is one of the last of the basic plane, behind the
surrogates, and the second lies beyond it. -/
def charsInvert (c d : Char) : Bool :=
  0xe000 ≤ c.toNat && c.toNat < 0x10000 && 0x10000 ≤ d.toNat

/-- Whether one text comes before another by characters but behind it by units. -/
def inverts : Text → Text → Bool
  | c :: s, d :: t => if c = d then inverts s t else charsInvert c d
  | _, _ => false

variable {s t : Text}

/-- The units of a lesser character come first, whatever stands behind them, unless the two
characters stand the other way round by units. -/
theorem unitsOf_append_lt_iff {c d : Char} (h : c.toNat < d.toNat) (r u : List Nat) :
    unitsOf c ++ r < unitsOf d ++ u ↔ charsInvert c d = false := by
  have hc := toNat_range c
  have hd := toNat_range d
  by_cases hbasic : d.toNat < 0x10000
  · have hbasic' : c.toNat < 0x10000 := Nat.lt_trans h hbasic
    have hinvert : charsInvert c d = false := by simp [charsInvert, hbasic]
    simp [unitsOf, hbasic, hbasic', hinvert, List.cons_lt_cons_iff, h]
  · by_cases hbasic' : c.toNat < 0x10000
    · -- the one unit of the first against a high surrogate
      have hinvert : charsInvert c d = false ↔ c.toNat < 0xe000 := by
        simp [charsInvert, hbasic', Nat.le_of_not_lt hbasic]
      simp only [unitsOf, hbasic, hbasic', hinvert, if_true, if_false, List.cons_append,
        List.nil_append, List.cons_lt_cons_iff]
      omega
    · have hinvert : charsInvert c d = false := by simp [charsInvert, hbasic']
      -- the surrogates are the digits of what exceeds the basic plane
      have hdigits : (c.toNat - 0x10000) / 0x400 < (d.toNat - 0x10000) / 0x400 ∨
          (c.toNat - 0x10000) / 0x400 = (d.toNat - 0x10000) / 0x400 ∧
            (c.toNat - 0x10000) % 0x400 < (d.toNat - 0x10000) % 0x400 := by omega
      rcases hdigits with hhigh | ⟨hhigh, hlow⟩
      · simp [unitsOf, hbasic, hbasic', hinvert, List.cons_lt_cons_iff, hhigh]
      · simp [unitsOf, hbasic, hbasic', hinvert, List.cons_lt_cons_iff, hhigh, hlow]

/-- Texts that come in order by characters do so by units, unless they are inverted. -/
theorem units_lt_iff (h : precedes s t = true) : units s < units t ↔ inverts s t = false := by
  induction s generalizing t with
  | nil =>
      cases t with
      | nil => simp [precedes] at h
      | cons d t =>
          obtain ⟨unit, rest, hunits⟩ := List.exists_cons_of_ne_nil (unitsOf_ne_nil d)
          simp [units_cons, hunits, inverts]
  | cons c s ih =>
      cases t with
      | nil => simp [precedes] at h
      | cons d t =>
          simp only [precedes, Bool.or_eq_true, Bool.and_eq_true, decide_eq_true_eq] at h
          rw [units_cons, units_cons, inverts]
          rcases h with hlt | ⟨rfl, hrest⟩
          · have hne : c ≠ d := by
              rintro rfl
              exact Nat.lt_irrefl _ hlt
            rw [if_neg hne, unitsOf_append_lt_iff hlt]
          · rw [if_pos rfl, append_lt_append_iff, ih hrest]

/-- Inverted texts come in order by characters. -/
theorem precedes_of_inverts (h : inverts s t = true) : precedes s t = true := by
  fun_induction inverts s t with
  | case1 s d t ih =>
      simp only [precedes, ih h, Bool.and_true, decide_true, Bool.or_true]
  | case2 c s d t hne =>
      simp only [charsInvert, Bool.and_eq_true, decide_eq_true_eq] at h
      have hlt : c.toNat < d.toNat := by omega
      simp [precedes, hlt]
  | case3 => cases h

/-- No text is inverted with one that lies in the basic plane. -/
theorem inverts_of_basic (h : ∀ c ∈ t, c.toNat < 0x10000) : inverts s t = false := by
  fun_induction inverts s t with
  | case1 s d t ih => exact ih fun c hc => h c (List.mem_cons_of_mem d hc)
  | case2 c s d t hne =>
      have hd := h d List.mem_cons_self
      simp [charsInvert, hd]
  | case3 => rfl

/-- Members of an ascending list stand in it in their order. -/
theorem Ascending.rel_of_precedes {r : Text → Text → Prop} {ds : List Text} (h : Ascending ds)
    (hr : ds.Pairwise r) (hs : s ∈ ds) (ht : t ∈ ds) (hprecedes : precedes s t = true) : r s t := by
  obtain ⟨i, hi, rfl⟩ := List.mem_iff_getElem.1 hs
  obtain ⟨j, hj, rfl⟩ := List.mem_iff_getElem.1 ht
  rcases Nat.lt_trichotomy i j with hlt | rfl | hgt
  · exact List.pairwise_iff_getElem.1 hr i j hi hj hlt
  · rw [not_precedes_self] at hprecedes
    cases hprecedes
  · have hback := List.pairwise_iff_getElem.1 h j i hj hi hgt
    have hself := precedes_trans hprecedes hback
    rw [not_precedes_self] at hself
    cases hself

/-- An ascending list ascends by units too exactly if no two of its members are inverted. -/
theorem Ascending.pairwise_units_iff {ds : List Text} (h : Ascending ds) :
    (ds.map units).Pairwise (· < ·) ↔ ∀ s ∈ ds, ∀ t ∈ ds, inverts s t = false := by
  rw [List.pairwise_map]
  constructor
  · intro hunits s hs t ht
    by_contra hne
    have hinverts : inverts s t = true := by simpa using hne
    have hprecedes := precedes_of_inverts hinverts
    have hlt : units s < units t := h.rel_of_precedes hunits hs ht hprecedes
    rw [units_lt_iff hprecedes, hinverts] at hlt
    cases hlt
  · intro hnone
    refine List.Pairwise.imp_of_mem ?_ h
    intro s t hs ht hprecedes
    exact (units_lt_iff hprecedes).2 (hnone s hs t ht)

end PacRules.Domain
