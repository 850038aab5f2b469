import PacRules.Text.Digits

/-!
# Nested lists as JSON

Lists of texts, nested to any depth, written as JSON. The compact layout has no blanks. The
indented layout puts every item on a line of its own, four spaces deeper than its list; an
empty list is a pair of brackets in both. In a text the quote, the backslash and the controls
below the space are escaped, and every other character stands for itself.
-/

namespace PacRules.Json

open PacRules.Text

/-- A text, or a list of such things. -/
inductive Nested where
  | text (t : Text)
  | list (items : List Nested)

def Nested.ofTexts (texts : List Text) : Nested := .list (texts.map .text)

def twoDigits (n : Nat) : Text := toDigits 16 (n / 16) ++ toDigits 16 (n % 16)

def escaped (c : Char) : Text :=
  match c with
  | '"' => ['\\', '"']
  | '\\' => ['\\', '\\']
  | '\x08' => ['\\', 'b']
  | '\x0c' => ['\\', 'f']
  | '\n' => ['\\', 'n']
  | '\r' => ['\\', 'r']
  | '\t' => ['\\', 't']
  | c => if c < ' ' then "\\u00".toList ++ twoDigits c.toNat else [c]

def quoted (t : Text) : Text := ['"'] ++ t.flatMap escaped ++ ['"']

/-- How lists are laid out. -/
inductive Layout where
  | compact
  | indented
  deriving DecidableEq

/-- What stands in front of an item, or of a closing bracket, that is so many lists deep. -/
def Layout.newLine : Layout → (depth : Nat) → Text
  | .compact, _ => []
  | .indented, depth => '\n' :: List.replicate (4 * depth) ' '

mutual

/-- The JSON text of a value that is `depth` lists deep. -/
def Nested.write (layout : Layout) (depth : Nat) : Nested → Text
  | .text t => quoted t
  | .list [] => ['[', ']']
  | .list (item :: items) =>
    ['['] ++ layout.newLine (depth + 1) ++ item.write layout (depth + 1) ++
      Nested.writeRest layout (depth + 1) items ++ layout.newLine depth ++ [']']

/-- The items behind the first of a list, each with the comma in front of it. -/
def Nested.writeRest (layout : Layout) (depth : Nat) : List Nested → Text
  | [] => []
  | item :: items =>
    [','] ++ layout.newLine depth ++ item.write layout depth ++
      Nested.writeRest layout depth items

end

end PacRules.Json
