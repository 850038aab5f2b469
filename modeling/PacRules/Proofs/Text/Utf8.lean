import PacRules.Text.Utf8

/-!
# Texts read back from their octets

The octets of a character are read as this character, whatever stands behind them, so a text is
read back from its octets and no two texts have the same ones. A first octet tells how many follow
and what the second may be; the bounds that it sets leave room for every character and only keep
out the overlong forms and the surrogates.
-/

namespace PacRules.Text

/-! ### The first octet -/

theorem ofOctet?_two {b : UInt8} {n : Nat} (hb : b.toNat = n + 0xc0) (hleast : 2 ≤ n)
    (hmost : n < 32) : Lead.ofOctet? b = some ⟨1, 0x80, 0xbf, n⟩ := by
  unfold Lead.ofOctet?
  grind

/-- The second of three octets is bounded so as to keep out the overlong forms behind the first
lead and the surrogates behind another. -/
theorem ofOctet?_three {b : UInt8} {n : Nat} (hb : b.toNat = n + 0xe0) (hn : n < 16) :
    Lead.ofOctet? b =
      some ⟨2, if n = 0 then 0xa0 else 0x80, if n = 0xd then 0x9f else 0xbf, n⟩ := by
  unfold Lead.ofOctet?
  grind

theorem ofOctet?_four {b : UInt8} {n : Nat} (hb : b.toNat = n + 0xf0) (hn : n < 5) :
    Lead.ofOctet? b =
      some ⟨3, if n = 0 then 0x90 else 0x80, if n = 4 then 0x8f else 0xbf, n⟩ := by
  have hcases : n = 0 ∨ n = 1 ∨ n = 2 ∨ n = 3 ∨ n = 4 := by omega
  rcases hcases with rfl | rfl | rfl | rfl | rfl <;> simp [Lead.ofOctet?, hb]

/-! ### Steps of the reader -/

namespace Utf8State

variable {b : UInt8} {left least most value : Nat}

theorem read_ascii (hb : b.toNat < 0x80) : read {} b = ([.char (Char.ofNat b.toNat)], {}) := by
  simp [read, start, hb]

theorem read_lead (hb : 0x80 ≤ b.toNat)
    (hlead : Lead.ofOctet? b = some ⟨left, least, most, value⟩) :
    read {} b = ([], ⟨left, least, most, value⟩) := by
  simp [read, start, Nat.not_lt.2 hb, hlead]

theorem read_more (hleast : least ≤ b.toNat) (hmost : b.toNat ≤ most) :
    read ⟨left + 2, least, most, value⟩ b =
      ([], ⟨left + 1, 0x80, 0xbf, value * 64 + (b.toNat - 0x80)⟩) := by
  simp [read, hleast, hmost]

theorem read_last (hleast : least ≤ b.toNat) (hmost : b.toNat ≤ most) :
    read ⟨1, least, most, value⟩ b =
      ([.char (Char.ofNat (value * 64 + (b.toNat - 0x80)))], {}) := by
  simp [read, hleast, hmost]

end Utf8State

/-! ### Characters -/

theorem toNat_ofNat_of_lt {n : Nat} (h : n < 256) : (UInt8.ofNat n).toNat = n := by
  rw [UInt8.toNat_ofNat', Nat.mod_eq_of_lt h]

theorem isValidChar_toNat (c : Char) :
    c.toNat < 0xd800 ∨ 0xdfff < c.toNat ∧ c.toNat < 0x110000 := c.valid

/-- The octets of a character are read as the character. -/
theorem utf8ItemsFrom_append (c : Char) (bs : List UInt8) :
    utf8ItemsFrom [] {} (String.utf8EncodeChar c ++ bs) = .char c :: utf8ItemsFrom [] {} bs := by
  have hvalid := isValidChar_toNat c
  have hchar : ∀ n, n = c.toNat → Char.ofNat n = c := by
    rintro n rfl
    exact Char.ofNat_toNat c
  change c.val.toNat < _ ∨ _ < c.val.toNat ∧ c.val.toNat < _ at hvalid
  -- one case for each length; the value is put together from the shares of the octets
  fun_cases String.utf8EncodeChar c with
  | case1 v h =>
      have hb := toNat_ofNat_of_lt (n := v) (by omega)
      rw [List.singleton_append, utf8ItemsFrom_cons, Utf8State.read_ascii (by omega), hb,
        hchar v rfl]
      rfl
  | case2 v h h' =>
      have hfirst := toNat_ofNat_of_lt (n := v / 64 % 32 + 192) (by omega)
      have hsecond := toNat_ofNat_of_lt (n := v % 64 + 128) (by omega)
      have hlead := ofOctet?_two hfirst (by omega) (by omega)
      rw [List.cons_append, List.singleton_append, utf8ItemsFrom_cons,
        Utf8State.read_lead (by omega) hlead, utf8ItemsFrom_cons,
        Utf8State.read_last (by omega) (by omega), hsecond, hchar _ (by change _ = v; omega)]
      rfl
  | case3 v h h' h'' =>
      have hfirst := toNat_ofNat_of_lt (n := v / 4096 % 16 + 224) (by omega)
      have hsecond := toNat_ofNat_of_lt (n := v / 64 % 64 + 128) (by omega)
      have hthird := toNat_ofNat_of_lt (n := v % 64 + 128) (by omega)
      have hlead := ofOctet?_three hfirst (by omega)
      have hleast : (if v / 4096 % 16 = 0 then 0xa0 else 0x80) ≤
          (UInt8.ofNat (v / 64 % 64 + 128)).toNat := by
        split <;> omega
      have hmost : (UInt8.ofNat (v / 64 % 64 + 128)).toNat ≤
          if v / 4096 % 16 = 0xd then 0x9f else 0xbf := by
        split <;> omega
      have hvalue : (v / 4096 % 16 * 64 + (v / 64 % 64 + 128 - 0x80)) * 64 +
          (v % 64 + 128 - 0x80) = v := by omega
      rw [List.cons_append, List.cons_append, List.singleton_append, utf8ItemsFrom_cons,
        Utf8State.read_lead (by omega) hlead, utf8ItemsFrom_cons,
        Utf8State.read_more hleast hmost, utf8ItemsFrom_cons,
        Utf8State.read_last (by omega) (by omega), hsecond, hthird, hchar _ hvalue]
      rfl
  | case4 v h h' h'' =>
      have hfirst := toNat_ofNat_of_lt (n := v / 262144 % 8 + 240) (by omega)
      have hsecond := toNat_ofNat_of_lt (n := v / 4096 % 64 + 128) (by omega)
      have hthird := toNat_ofNat_of_lt (n := v / 64 % 64 + 128) (by omega)
      have hfourth := toNat_ofNat_of_lt (n := v % 64 + 128) (by omega)
      have hlead := ofOctet?_four hfirst (by omega)
      have hleast : (if v / 262144 % 8 = 0 then 0x90 else 0x80) ≤
          (UInt8.ofNat (v / 4096 % 64 + 128)).toNat := by
        split <;> omega
      have hmost : (UInt8.ofNat (v / 4096 % 64 + 128)).toNat ≤
          if v / 262144 % 8 = 4 then 0x8f else 0xbf := by
        split <;> omega
      have hvalue : ((v / 262144 % 8 * 64 + (v / 4096 % 64 + 128 - 0x80)) * 64 +
          (v / 64 % 64 + 128 - 0x80)) * 64 + (v % 64 + 128 - 0x80) = v := by omega
      rw [List.cons_append, List.cons_append, List.cons_append, List.singleton_append,
        utf8ItemsFrom_cons, Utf8State.read_lead (by omega) hlead, utf8ItemsFrom_cons,
        Utf8State.read_more hleast hmost, utf8ItemsFrom_cons,
        Utf8State.read_more (by omega) (by omega), utf8ItemsFrom_cons,
        Utf8State.read_last (by omega) (by omega), hsecond, hthird, hfourth, hchar _ hvalue]
      rfl

/-! ### Texts -/

theorem ofUtf8Lossy_append (c : Char) (bs : List UInt8) :
    ofUtf8Lossy (String.utf8EncodeChar c ++ bs) = c :: ofUtf8Lossy bs := by
  rw [ofUtf8Lossy, utf8Items, utf8ItemsFrom_append]
  rfl

/-- A text is read back from its octets. -/
theorem ofUtf8Lossy_utf8 (t : Text) : ofUtf8Lossy (utf8 t) = t := by
  induction t with
  | nil => rfl
  | cons c t ih => rw [utf8_cons, ofUtf8Lossy_append, ih]

theorem ofUtf8?_append (c : Char) (bs : List UInt8) :
    ofUtf8? (String.utf8EncodeChar c ++ bs) = (ofUtf8? bs).map (c :: ·) := by
  rw [ofUtf8?, utf8Items, utf8ItemsFrom_append, List.mapM_cons, Option.map_eq_bind]
  rfl

/-- The octets of a text are well formed. -/
theorem ofUtf8?_utf8 (t : Text) : ofUtf8? (utf8 t) = some t := by
  induction t with
  | nil => rfl
  | cons c t ih => rw [utf8_cons, ofUtf8?_append, ih, Option.map_some]

theorem utf8_inj {s t : Text} : utf8 s = utf8 t ↔ s = t := by
  constructor
  · intro h
    rw [← ofUtf8Lossy_utf8 s, h, ofUtf8Lossy_utf8]
  · exact congrArg utf8

end PacRules.Text
