import PacRules.Text.Basic

/-!
# Punycode

The encoding of a label of any characters by letters, digits and hyphens. The ASCII
characters come first, then a hyphen if there are any, then one number for each of the
others: how far its place, code point after code point and position after position, lies
behind the last one. A number is written in base 36 with the least digit first, and a digit
below its threshold ends it. The thresholds follow a bias that adapts to the numbers seen.
-/

namespace PacRules.Host.Punycode

open PacRules

def initialCodePoint : Nat := 128

def initialBias : Nat := 72

def bound : Nat := Nat.pow 2 32

/-- The threshold of the digit at position `k`, where positions count in steps of 36 from 36. -/
def threshold (bias k : Nat) : Nat :=
  if k ≤ bias then 1 else if bias + 26 ≤ k then 26 else k - bias

theorem threshold_pos (bias k : Nat) : 0 < threshold bias k := by
  unfold threshold
  split
  · omega
  · split <;> omega

/-- The bias for a scaled difference, `k` being what its reductions have added. -/
def reducedBias (k delta : Nat) : Nat :=
  if h : 455 < delta then
    have : delta / 35 < delta := Nat.div_lt_self (by omega) (by omega)
    reducedBias (k + 36) (delta / 35)
  else k + 36 * delta / (delta + 38)
termination_by delta

/-- The bias after a number `delta` that brought the label to `size` characters. -/
def adapted (delta size : Nat) (first : Bool) : Nat :=
  let halved := if first then delta / 700 else delta / 2
  reducedBias 0 (halved + halved / size)

/-- The digit of a value below 36: the letters and then the figures. -/
def digit (n : Nat) : Char :=
  if n < 26 then Char.ofNat ('a'.toNat + n) else Char.ofNat ('0'.toNat + (n - 26))

def digitValue? (c : Char) : Option Nat :=
  if 'a' ≤ c && c ≤ 'z' then some (c.toNat - 'a'.toNat)
  else if 'A' ≤ c && c ≤ 'Z' then some (c.toNat - 'A'.toNat)
  else if '0' ≤ c && c ≤ '9' then some (c.toNat - '0'.toNat + 26)
  else none

def digits (bias k n : Nat) : Text :=
  if h : n < threshold bias k then [digit n]
  else
    have : (n - threshold bias k) / (36 - threshold bias k) < n :=
      Nat.lt_of_le_of_lt (Nat.div_le_self _ _) (by have := threshold_pos bias k; omega)
    digit (threshold bias k + (n - threshold bias k) % (36 - threshold bias k)) ::
      digits bias (k + 36) ((n - threshold bias k) / (36 - threshold bias k))
termination_by n

/-- A label in the course of encoding: what is written, the number in progress, the bias, how
many characters are handled, and whether the first number is still to come. -/
structure Encoder where
  written : Text
  delta : Nat := 0
  bias : Nat := initialBias
  handled : Nat
  first : Bool := true

namespace Encoder

/-- One character of the label, on the pass for the code point `n`. -/
def visit (n : Nat) (e : Encoder) (c : Char) : Encoder :=
  if c.toNat < n then { e with delta := e.delta + 1 }
  else if c.toNat = n then
    { written := e.written ++ digits e.bias 36 e.delta
      bias := adapted e.delta (e.handled + 1) e.first
      handled := e.handled + 1
      first := false }
  else e

/-- The passes for the code points of a list in ascending order, all below `from` being handled. -/
def passes (label : Text) : (start : Nat) → List Nat → Encoder → Encoder
  | _, [], e => e
  | start, n :: rest, e =>
    let e := label.foldl (visit n) { e with delta := e.delta + (n - start) * (e.handled + 1) }
    passes label (n + 1) rest { e with delta := e.delta + 1 }

end Encoder

/-- The code points above ASCII of a label, in ascending order and each once. -/
def highCodePoints (label : Text) : List Nat :=
  (((label.map Char.toNat).filter (initialCodePoint ≤ ·)).mergeSort (· ≤ ·)).eraseDups

def encode (label : Text) : Text :=
  let basic := label.filter (·.toNat < initialCodePoint)
  let front := if basic.isEmpty then [] else basic ++ ['-']
  (Encoder.passes label initialCodePoint (highCodePoints label)
    { written := front, handled := basic.length }).written

/-- A label in the course of decoding: the characters so far, the code point and index that the
last number led to, the index at which the number in progress began, its weight, its
position and the bias. -/
structure Decoder where
  label : Text
  codePoint : Nat := initialCodePoint
  index : Nat := 0
  start : Nat := 0
  weight : Nat := 1
  position : Nat := 36
  bias : Nat := initialBias

namespace Decoder

/-- The end of a number: the character that it leads to is put in its place. -/
def finish? (d : Decoder) (index : Nat) : Option Decoder :=
  let size := d.label.length + 1
  let n := d.codePoint + index / size
  if n.isValidChar then
    let place := index % size
    some
      { label := d.label.take place ++ Char.ofNat n :: d.label.drop place
        codePoint := n
        index := place + 1
        start := place + 1
        bias := adapted (index - d.start) size (d.start = 0) }
  else none

def read? (d : Decoder) (c : Char) : Option Decoder := do
  let value ← digitValue? c
  let index := d.index + value * d.weight
  let t := threshold d.bias d.position
  if bound ≤ index then none
  else if value < t then d.finish? index
  else if bound ≤ d.weight * (36 - t) then none
  else some { d with index, weight := d.weight * (36 - t), position := d.position + 36 }

end Decoder

/-- The ASCII characters and the digits of an encoded label, which the last hyphen parts unless
it comes first. -/
def parts (encoded : Text) : Text × Text :=
  let tail := (encoded.reverse.takeWhile (· ≠ '-')).reverse
  let front := encoded.take (encoded.length - tail.length - 1)
  if front.isEmpty then ([], encoded) else (front, tail)

/-- The label of an encoding, if the digits end with a number. -/
def decode? (encoded : Text) : Option Text := do
  let (basic, tail) := parts encoded
  let d ← tail.foldlM Decoder.read? { label := basic }
  if d.weight = 1 then some d.label else none

end PacRules.Host.Punycode
