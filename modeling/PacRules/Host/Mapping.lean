import PacRules.Host.Mapping.Table

/-!
# The mapping of host names

What the compatibility processing of host names makes of each character. An ASCII character
is taken to lower case; of the others, one is kept, dropped, replaced or refused as the
tables say.
-/

namespace PacRules.Host

open PacRules.Text

/-- Code points that are replaced by others at a constant distance. -/
structure Shift where
  first : Nat
  last : Nat
  stride : Nat
  target : Nat

namespace Shift

def ofRow? : List Nat → Option Shift
  | [n, target] => some ⟨n, n, 1, target⟩
  | [first, last, stride, target] => some ⟨first, last, stride, target⟩
  | _ => none

def contains (s : Shift) (n : Nat) : Bool :=
  s.first ≤ n && n ≤ s.last && (n - s.first) % s.stride = 0

def image (s : Shift) (n : Nat) : Nat := s.target + (n - s.first)

end Shift

def keptSpans : List Span := Span.ofTable keptTable

def droppedSpans : List Span := Span.ofTable droppedTable

def shifts : List Shift := (tableRows shiftedTable).filterMap Shift.ofRow?

/-- The rows of `expandedTable`, a code point in front of its replacement. -/
def expansions : List (List Nat) := tableRows expandedTable

def isKept (c : Char) : Bool :=
  if c.toNat < 128 then c.toLower = c else inSpans keptSpans c

/-- What becomes of a character, `none` if it is refused. -/
def mapped? (c : Char) : Option Text :=
  if c.toNat < 128 then some [c.toLower]
  else if inSpans keptSpans c then some [c]
  else match shifts.find? (·.contains c.toNat) with
    | some s => some [Char.ofNat (s.image c.toNat)]
    | none =>
      match expansions.find? (·.head? = some c.toNat) with
      | some row => some (row.tail.map Char.ofNat)
      | none => if inSpans droppedSpans c then some [] else none

end PacRules.Host
