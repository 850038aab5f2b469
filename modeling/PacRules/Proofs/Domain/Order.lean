import Mathlib.Data.List.Sort
import PacRules.Domain.Routed
import PacRules.Proofs.Text.Utf8

/-!
# The order of domains

Texts are sorted by their characters, and what is promised of the sorted lists is the order of
their UTF-8 octets. The two orders are one: the first octets of two characters already differ
the way the characters do, or the characters have equally many octets, and then their octets
are the digits of their code points in base 64, the highest first.
-/

namespace PacRules.Domain

open PacRules.Text

theorem toNat_lt_bound (c : Char) : c.toNat < 0x110000 := by
  have hvalid := isValidChar_toNat c
  omega

/-- The octets of a lesser character come first, whatever stands behind them. -/
theorem utf8EncodeChar_append_lt {c d : Char} (h : c.toNat < d.toNat) (s t : List UInt8) :
    String.utf8EncodeChar c ++ s < String.utf8EncodeChar d ++ t := by
  have hbound : d.val.toNat < 0x110000 := toNat_lt_bound d
  change c.val.toNat < d.val.toNat at h
  -- One case for each pair of lengths; a longer encoding never belongs to the lesser character.
  fun_cases String.utf8EncodeChar c <;> fun_cases String.utf8EncodeChar d <;>
    simp (disch := omega) only [List.cons_append, List.nil_append, List.cons_lt_cons_iff,
      UInt8.lt_iff_toNat_lt, ← UInt8.toNat_inj, UInt8.toNat_ofNat', Nat.not_le,
      Nat.mod_eq_of_lt] at *
  all_goals omega

theorem append_lt_append_iff {α : Type} [LT α] [Std.Irrefl fun a b : α => a < b]
    (front s t : List α) : front ++ s < front ++ t ↔ s < t := by
  induction front with
  | nil => rfl
  | cons a front ih => simp [ih]

/-- The order by which domains are sorted is the order of their octets. -/
theorem precedes_iff_utf8_lt (s t : Text) : precedes s t = true ↔ utf8 s < utf8 t := by
  induction s generalizing t with
  | nil =>
      cases t with
      | nil => simp [precedes]
      | cons b t =>
          have hne : utf8 (b :: t) ≠ [] := by
            rw [utf8_cons]
            simp [String.utf8EncodeChar_ne_nil]
          obtain ⟨octet, octets, hoctets⟩ := List.exists_cons_of_ne_nil hne
          simp [precedes, hoctets]
  | cons a s ih =>
      cases t with
      | nil => simp [precedes]
      | cons b t =>
          simp only [precedes, utf8_cons, Bool.or_eq_true, Bool.and_eq_true, decide_eq_true_eq]
          rcases Nat.lt_trichotomy a.toNat b.toNat with h | h | h
          · simp [h, utf8EncodeChar_append_lt h]
          · obtain rfl := Char.toNat_inj.1 h
            simp [append_lt_append_iff, ih]
          · have hback := utf8EncodeChar_append_lt h (utf8 t) (utf8 s)
            have hne : a ≠ b := by
              rintro rfl
              exact Nat.lt_irrefl _ h
            simp [Nat.lt_asymm h, hne, List.lt_asymm hback]

/-- A list of texts in strictly ascending order. -/
def Ascending (ds : List Text) : Prop := ds.Pairwise fun s t => precedes s t = true

instance : Std.Irrefl fun s t : Text => precedes s t = true :=
  ⟨fun s => by simp [not_precedes_self]⟩

instance : Std.Antisymm fun s t : Text => precedes s t = true :=
  ⟨fun s t h h' => absurd (precedes_trans h h') (by simp [not_precedes_self])⟩

theorem Ascending.octets {ds : List Text} (h : Ascending ds) :
    (ds.map utf8).Pairwise (· < ·) := by
  refine List.pairwise_map.2 (h.imp ?_)
  intro s t hst
  exact (precedes_iff_utf8_lt s t).1 hst

theorem Ascending.nodup {ds : List Text} (h : Ascending ds) : ds.Nodup := by
  refine h.imp ?_
  rintro s t hst rfl
  rw [not_precedes_self] at hst
  cases hst

/-- An ascending list is determined by its members. -/
theorem Ascending.eq_of_mem_iff {ds es : List Text} (hds : Ascending ds) (hes : Ascending es)
    (h : ∀ d, d ∈ ds ↔ d ∈ es) : ds = es :=
  List.Pairwise.eq_of_mem_iff hds hes h

end PacRules.Domain
