import PacRules.Text.Digits

/-!
# Numbers in JSON

A number in JSON is read as a double-precision number and has to be finite. Its digits are
gathered in a word of 64 bits for as long as they fit. Digits behind those only count: each
one in front of the point as a power of ten, and none behind the point. The word is rounded,
the power of ten is rounded, and the number is too great if the product rounds to infinity.
-/

namespace PacRules.Json

open PacRules.Text

/-- A number: its digits in front of and behind the point, and its exponent. -/
structure Number where
  whole : Text
  fraction : Text := []
  exponent : Int := 0

/-- A word of digits, to be multiplied by a power of ten. -/
structure Scaled where
  word : Nat := 0
  exponent : Int := 0

def wordBound : Nat := Nat.pow 2 64

def withDigit (word : Nat) (c : Char) : Nat := word * 10 + (digitValue? c).getD 0

/-- The digits in front of the point behind a word of them. From the first one that does not fit
on, each makes the number ten times as great and is otherwise lost. -/
def Scaled.ofWhole (word : Nat) : Text → Scaled
  | [] => { word }
  | c :: t =>
    if withDigit word c < wordBound then Scaled.ofWhole (withDigit word c) t
    else { word, exponent := t.length + 1 }

/-- A number with the digits behind its point, up to the first one that does not fit. -/
def Scaled.withFraction (n : Scaled) : Text → Scaled
  | [] => n
  | c :: t =>
    if withDigit n.word c < wordBound then
      Scaled.withFraction { word := withDigit n.word c, exponent := n.exponent - 1 } t
    else n

def Number.scaled (n : Number) : Scaled :=
  let digits := (Scaled.ofWhole 0 n.whole).withFraction n.fraction
  { digits with exponent := digits.exponent + n.exponent }

/-- How many bits of a number a double-precision number keeps. -/
def precision : Nat := 53

/-- The multiple of `unit` that is next to a number. Of two that are equally near it is the even
multiple. -/
def nearestMultiple (unit n : Nat) : Nat :=
  let below := n / unit
  let rest := n % unit
  if unit < 2 * rest || (unit = 2 * rest && below % 2 = 1) then (below + 1) * unit
  else below * unit

/-- A number rounded to the precision of a double-precision number. -/
def rounded (n : Nat) : Nat := nearestMultiple (Nat.pow 2 (n.log2 + 1 - precision)) n

/-- The greatest finite double-precision number is below this bound, and a number that is not
rounds to infinity. -/
def numberBound : Nat := Nat.pow 2 1024 - Nat.pow 2 970

/-- The greatest power of ten among the double-precision numbers. -/
def greatestPower : Nat := 308

/-- Whether a number is too great for a double-precision number. One that has to be divided by a
power of ten never is. -/
def Number.isTooGreat (n : Number) : Bool :=
  let { word, exponent } := n.scaled
  word ≠ 0 && 0 ≤ exponent &&
    (greatestPower < exponent || numberBound ≤ rounded word * rounded (Nat.pow 10 exponent.toNat))

end PacRules.Json
