import PacRules.Text.Basic

/-!
# Alternation

A rule may give several hosts at once, as labels, a dot, and the alternatives for what follows
in parentheses with pipes between them. The first such group of a rule is expanded: each
alternative takes its place behind the labels, in front of the rest of the rule, and what
stands before the labels is dropped.
-/

namespace PacRules.Domain

open PacRules.Text

def isLabelChar (c : Char) : Bool := c.isAlphanum || c = '-'

def isNameChar (c : Char) : Bool := isLabelChar c || c = '.'

/-- The labels, without the dot behind them, that stand in front of a group. -/
def groupLabels? (front : Text) : Option Text := do
  let labels ← List.isSuffixOf? ['.'] front
  if (List.splitOn '.' labels).all (!·.isEmpty) then some labels else none

/-- The alternatives of a group's content: two or more, none of them empty. -/
def alternatives? (content : Text) : Option (List Text) :=
  let names := List.splitOn '|' content
  if 2 ≤ names.length && names.all (!·.isEmpty) then some names else none

/-- The expansion of a text that begins with the labels of a group. -/
def expandHere? (t : Text) : Option (List Text) := do
  let labels ← groupLabels? (t.takeWhile isNameChar)
  let group ← List.isPrefixOf? ['('] (t.dropWhile isNameChar)
  let names ← alternatives? (group.takeWhile fun c => isNameChar c || c = '|')
  let rest ← List.isPrefixOf? [')'] (group.dropWhile fun c => isNameChar c || c = '|')
  some (names.map fun name => labels ++ '.' :: name ++ rest)

def expand? : Text → Option (List Text)
  | [] => none
  | c :: t =>
    match expandHere? (c :: t) with
    | some expansion => some expansion
    | none => expand? t

end PacRules.Domain
