import PacRules.Host.Composition.Table

/-!
# Canonical composition

A text brought to composed normal form: every character is taken apart, the marks between two
starters are put in the order of their combining classes, and each character is then joined
to the last starter if the two compose and nothing between them stands in the way. The Korean
syllables are taken apart and composed by arithmetic.
-/

namespace PacRules.Host

open PacRules.Text

/-- A character that is composed of two others. -/
structure Composite where
  whole : Nat
  first : Nat
  second : Nat

def Composite.ofRow? : List Nat → Option Composite
  | [whole, first, second] => some ⟨whole, first, second⟩
  | _ => none

def composites : List Composite := (tableRows compositionTable).filterMap Composite.ofRow?

/-- A span of characters of one combining class. -/
structure ClassSpan where
  span : Span
  value : Nat

def ClassSpan.ofRow? : List Nat → Option ClassSpan
  | [first, last, value] => some ⟨⟨first, last⟩, value⟩
  | _ => none

def classSpans : List ClassSpan := (tableRows combiningClassTable).filterMap ClassSpan.ofRow?

/-- The combining class of a character, zero for a starter. -/
def combiningClass (c : Char) : Nat :=
  match classSpans.find? fun s => s.span.contains c.toNat with
  | some s => s.value
  | none => 0

def viramaClass : Nat := 9

namespace Hangul

def syllableBase : Nat := 0xac00
def leadBase : Nat := 0x1100
def vowelBase : Nat := 0x1161
def tailBase : Nat := 0x11a7
def leadCount : Nat := 19
def vowelCount : Nat := 21
/-- The number of trailing consonants, none at all included. -/
def tailCount : Nat := 28

def letters? (n : Nat) : Option (List Nat) :=
  let index := n - syllableBase
  if syllableBase ≤ n && index < leadCount * vowelCount * tailCount then
    let lead := leadBase + index / (vowelCount * tailCount)
    let vowel := vowelBase + index % (vowelCount * tailCount) / tailCount
    let tail := index % tailCount
    some (if tail = 0 then [lead, vowel] else [lead, vowel, tailBase + tail])
  else none

/-- The syllable of a leading consonant and a vowel, or of such a syllable and a trailing
consonant. -/
def compose? (a b : Nat) : Option Nat :=
  if leadBase ≤ a && a < leadBase + leadCount && vowelBase ≤ b && b < vowelBase + vowelCount then
    some (syllableBase + ((a - leadBase) * vowelCount + (b - vowelBase)) * tailCount)
  else if syllableBase ≤ a && a < syllableBase + leadCount * vowelCount * tailCount &&
      (a - syllableBase) % tailCount = 0 && tailBase < b && b < tailBase + tailCount then
    some (a + (b - tailBase))
  else none

end Hangul

/-- How often a composite can be taken apart: each time it gains a character, and none has more
than four. -/
def decompositionDepth : Nat := 3

def decompose : (depth n : Nat) → List Nat
  | 0, n => [n]
  | depth + 1, n =>
    match Hangul.letters? n with
    | some letters => letters
    | none =>
      match composites.find? (·.whole = n) with
      | some c => decompose depth c.first ++ [c.second]
      | none => [n]

/-- A character put into a text that is given backwards, behind no mark of a higher class. -/
def insertMark (c : Char) : Text → Text
  | [] => [c]
  | d :: before =>
    if combiningClass c ≠ 0 && combiningClass c < combiningClass d then d :: insertMark c before
    else c :: d :: before

/-- A text with the marks after each starter in the order of their classes. -/
def ordered (t : Text) : Text := (t.foldl (fun before c => insertMark c before) []).reverse

def compose? (a b : Char) : Option Char :=
  match Hangul.compose? a.toNat b.toNat with
  | some n => some (Char.ofNat n)
  | none =>
    (composites.find? fun c => c.first = a.toNat && c.second = b.toNat).map
      fun c => Char.ofNat c.whole

/-- A text in the course of composition: what is settled, backwards, the last starter, and the
marks after it, backwards. -/
structure Composing where
  settled : Text := []
  starter : Option Char := none
  marks : Text := []

namespace Composing

def flush (s : Composing) : Text := s.marks ++ s.starter.toList ++ s.settled

/-- The next character: joined to the starter, kept as a mark, or made the starter. -/
def push (s : Composing) (c : Char) : Composing :=
  let blocked := (s.marks.head?).any fun mark => combiningClass c ≤ combiningClass mark
  match s.starter.bind fun starter => if blocked then none else compose? starter c with
  | some whole => { s with starter := some whole }
  | none =>
    if combiningClass c = 0 then { settled := s.flush, starter := some c }
    else { s with marks := c :: s.marks }

end Composing

def composed (t : Text) : Text :=
  let apart := (t.flatMap fun c => decompose decompositionDepth c.toNat).map Char.ofNat
  ((ordered apart).foldl Composing.push {}).flush.reverse

end PacRules.Host
