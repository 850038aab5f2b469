import PacRules.Text.LowerCase.Table

/-!
# Lower case

The lower-case form of a text by the full Unicode rules. One character becomes one
character, with two exceptions: the capital dotted I becomes an i and a combining dot, and
the capital sigma becomes a final sigma at the end of a word. A word ends at a sigma that a
cased character precedes and none follows, characters that case ignores left aside on both
sides.
-/

namespace PacRules.Text

/-- The simple lower-case form of a code point above ASCII. -/
def lowerCodePoint (n : Nat) : Nat :=
  match LowerSpan.all.find? (·.contains n) with
  | some s => s.image n
  | none => n

/-- The lower-case form of a character outside any context. -/
def lowerChar (c : Char) : Char :=
  if c.toNat < 128 then c.toLower else Char.ofNat (lowerCodePoint c.toNat)

def isCased (c : Char) : Bool :=
  if c.toNat < 128 then c.isAlpha else inSpans casedSpans c

/-- Whether a character is left aside when a word's end is looked for. -/
def isCaseIgnorable (c : Char) : Bool :=
  if c.toNat < 128 then c = '\'' || c = '.' || c = ':' || c = '^' || c = '\x60'
  else inSpans caseIgnorableSpans c

/-- Whether a text begins, ignorable characters aside, with a cased one. -/
def meetsCased (t : Text) : Bool := ((t.dropWhile isCaseIgnorable).head?).any isCased

/-- The lower-case form of a character between `before`, which is given backwards, and
`after`. -/
def lowerBetween (before : Text) (c : Char) (after : Text) : Text :=
  if c = 'Σ' then if meetsCased before && !meetsCased after then ['ς'] else ['σ']
  else if c = 'İ' then ['i', '\u0307']
  else [lowerChar c]

/-- The lower-case form of a text that follows `before`, which is given backwards. -/
def lowerFrom (before : Text) : Text → Text
  | [] => []
  | c :: t => lowerBetween before c t ++ lowerFrom (c :: before) t

def lower (t : Text) : Text := lowerFrom [] t

@[simp] theorem lower_nil : lower [] = [] := rfl

theorem lowerFrom_cons (before : Text) (c : Char) (t : Text) :
    lowerFrom before (c :: t) = lowerBetween before c t ++ lowerFrom (c :: before) t := rfl

end PacRules.Text
