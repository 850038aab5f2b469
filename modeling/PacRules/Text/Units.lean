import PacRules.Text.Basic

/-!
# UTF-16 code units

The code units by which a browser's scripting language counts, compares and builds texts. A
character of the basic plane is one unit; any other is a high and a low surrogate. No text
shares its units with another one, so two texts are the same there exactly when they are the
same here; but the order of the units is not the order of the code points, since the
surrogates stand below the last characters of the basic plane.
-/

namespace PacRules.Text

def unitsOf (c : Char) : List Nat :=
  if c.toNat < 0x10000 then [c.toNat]
  else [0xd800 + (c.toNat - 0x10000) / 0x400, 0xdc00 + (c.toNat - 0x10000) % 0x400]

def units (t : Text) : List Nat := t.flatMap unitsOf

@[simp] theorem units_nil : units [] = [] := rfl

theorem units_cons (c : Char) (t : Text) : units (c :: t) = unitsOf c ++ units t := rfl

theorem unitsOf_ne_nil (c : Char) : unitsOf c ≠ [] := by
  unfold unitsOf
  split <;> simp

/-- The code points that are characters leave out the surrogates and end with the last plane. -/
theorem toNat_range (c : Char) :
    c.toNat < 0xd800 ∨ 0xdfff < c.toNat ∧ c.toNat < 0x110000 := c.valid

/-- The first character can be told from the units, and so can where its units end. -/
theorem unitsOf_append_inj {c d : Char} {r s : List Nat}
    (h : unitsOf c ++ r = unitsOf d ++ s) : c = d ∧ r = s := by
  have hc := toNat_range c
  have hd := toNat_range d
  unfold unitsOf at h
  split at h <;> split at h <;>
    simp only [List.cons_append, List.nil_append, List.cons.injEq] at h
  · exact ⟨Char.toNat_inj.1 h.1, h.2⟩
  · omega
  · omega
  · exact ⟨Char.toNat_inj.1 (by omega), h.2.2⟩

theorem units_injective {s t : Text} (h : units s = units t) : s = t := by
  induction s generalizing t with
  | nil =>
    cases t with
    | nil => rfl
    | cons d t => simp [units_cons, unitsOf_ne_nil] at h
  | cons c s ih =>
    cases t with
    | nil => simp [units_cons, unitsOf_ne_nil] at h
    | cons d t =>
      rw [units_cons, units_cons] at h
      obtain ⟨rfl, hst⟩ := unitsOf_append_inj h
      rw [ih hst]

end PacRules.Text
