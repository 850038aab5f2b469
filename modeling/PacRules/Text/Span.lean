import PacRules.Text.Digits

/-!
# Spans of code points

A property of characters is given as a list of spans of code points. The longer lists are
kept as texts of rows: a row holds hexadecimal numbers, parted by any mark that is not a
digit, and rows are parted by blanks. A row of one number is the span of that code point
alone, and a row of two is the span between them, both included.
-/

namespace PacRules.Text

/-- The rows of a table, each as the list of its numbers. -/
def tableRows (table : String) : List (List Nat) :=
  (fields (fun c => c = ' ' || c = '\n') table.toList).map fun row =>
    (fields (fun c => !isDigitOf 16 c) row).map (ofDigits 16)

/-- The code points from `first` to `last`, both included. -/
structure Span where
  first : Nat
  last : Nat

namespace Span

def contains (s : Span) (n : Nat) : Bool := s.first ≤ n && n ≤ s.last

theorem contains_iff (s : Span) (n : Nat) : s.contains n = true ↔ s.first ≤ n ∧ n ≤ s.last := by
  simp [contains]

def ofRow? : List Nat → Option Span
  | [] => none
  | [n] => some ⟨n, n⟩
  | first :: last :: _ => some ⟨first, last⟩

def ofTable (table : String) : List Span := (tableRows table).filterMap ofRow?

end Span

def inSpans (spans : List Span) (c : Char) : Bool := spans.any fun s => s.contains c.toNat

end PacRules.Text
