import PacRules.Proofs.Text.CodePoints
import PacRules.Text.LowerCase

/-!
# ASCII case and lower case

The lower-case form of a text does not tell the case of its ASCII letters. They are lower-cased
one by one, and to the sigma at the end of a word, the only character that looks at its
neighbours, a letter is cased in either case.
-/

namespace PacRules.Text

/-- Characters beyond ASCII have no ASCII case. -/
theorem toLower_of_not_ascii {c : Char} (h : 128 ≤ c.toNat) : c.toLower = c := by
  unfold Char.toLower
  split
  · next hupper =>
      have hle : c.toNat ≤ 'Z'.toNat := UInt32.le_iff_toNat_le.1 hupper.2
      exact absurd (Nat.le_trans h hle) (by decide)
  · rfl

/-- A property that does not tell the case of an ASCII letter: it is enough to look at ASCII. -/
theorem forall_toLower {P : Char → Char → Prop} (hrefl : ∀ c, P c c)
    (hascii : ∀ n < 128, P (Char.ofNat n).toLower (Char.ofNat n)) (c : Char) : P c.toLower c := by
  by_cases h : c.toNat < 128
  · exact forall_char_lt (P := fun c => P c.toLower c) hascii h
  · rw [toLower_of_not_ascii (Nat.le_of_not_lt h)]
    exact hrefl c

theorem isCased_toLower (c : Char) : isCased c.toLower = isCased c :=
  forall_toLower (P := fun d c => isCased d = isCased c) (fun _ => rfl) (by decide) c

theorem isCaseIgnorable_toLower (c : Char) : isCaseIgnorable c.toLower = isCaseIgnorable c :=
  forall_toLower (P := fun d c => isCaseIgnorable d = isCaseIgnorable c) (fun _ => rfl)
    (by decide) c

theorem lowerChar_toLower (c : Char) : lowerChar c.toLower = lowerChar c :=
  forall_toLower (P := fun d c => lowerChar d = lowerChar c) (fun _ => rfl) (by decide) c

/-- No capital of ASCII has a lower-case form beyond it. -/
theorem toLower_eq_iff_of_not_ascii {d : Char} (h : 128 ≤ d.toNat) (c : Char) :
    c.toLower = d ↔ c = d := by
  constructor
  · rintro rfl
    by_cases hc : c.toNat < 128
    · have hlow : c.toLower.toNat < 128 :=
        forall_toLower (P := fun d c => c.toNat < 128 → d.toNat < 128) (fun _ hc => hc)
          (by decide) c hc
      exact absurd h (Nat.not_le.2 hlow)
    · rw [toLower_of_not_ascii (Nat.le_of_not_lt hc)]
  · rintro rfl
    exact toLower_of_not_ascii h

theorem meetsCased_map_toLower (t : Text) : meetsCased (t.map Char.toLower) = meetsCased t := by
  induction t with
  | nil => rfl
  | cons c t ih =>
      simp only [meetsCased, List.map_cons, List.dropWhile_cons, isCaseIgnorable_toLower] at ih ⊢
      cases isCaseIgnorable c with
      | true => simpa using ih
      | false => simp [isCased_toLower]

theorem lowerBetween_toLower (before : Text) (c : Char) (after : Text) :
    lowerBetween (before.map Char.toLower) c.toLower (after.map Char.toLower) =
      lowerBetween before c after := by
  have hsigma := toLower_eq_iff_of_not_ascii (d := 'Σ') (by decide) c
  have hdotted := toLower_eq_iff_of_not_ascii (d := 'İ') (by decide) c
  simp only [lowerBetween, hsigma, hdotted, meetsCased_map_toLower, lowerChar_toLower]

theorem lowerFrom_map_toLower (before t : Text) :
    lowerFrom (before.map Char.toLower) (t.map Char.toLower) = lowerFrom before t := by
  induction t generalizing before with
  | nil => rfl
  | cons c t ih =>
      have hrest := ih (c :: before)
      rw [List.map_cons] at hrest
      rw [List.map_cons, lowerFrom_cons, lowerFrom_cons, lowerBetween_toLower, hrest]

/-- The case of ASCII letters does not show in the lower-case form. -/
theorem lower_map_toLower (t : Text) : lower (t.map Char.toLower) = lower t :=
  lowerFrom_map_toLower [] t

end PacRules.Text
