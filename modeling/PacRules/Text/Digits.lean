import PacRules.Text.Basic

/-!
# Digits

Numbers written with the ASCII digits, in a base of at most sixteen: the value of a digit,
the value of a text of digits, and the shortest text of a number. A reader that accepts
letters accepts them in either case; a number is always written with lower-case letters.
-/

namespace PacRules.Text

def digitValue? (c : Char) : Option Nat :=
  if '0' ≤ c && c ≤ '9' then some (c.toNat - '0'.toNat)
  else if 'a' ≤ c && c ≤ 'f' then some (c.toNat - 'a'.toNat + 10)
  else if 'A' ≤ c && c ≤ 'F' then some (c.toNat - 'A'.toNat + 10)
  else none

def isDigitOf (base : Nat) (c : Char) : Bool := (digitValue? c).any (· < base)

def ofDigits (base : Nat) (t : Text) : Nat :=
  t.foldl (fun n c => n * base + (digitValue? c).getD 0) 0

@[simp] theorem ofDigits_nil (base : Nat) : ofDigits base [] = 0 := rfl

/-- The digits of a number in a base from two to sixteen, without leading zeros. -/
def toDigits (base n : Nat) : Text := Nat.toDigits base n

end PacRules.Text
