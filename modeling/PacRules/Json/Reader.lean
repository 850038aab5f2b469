import PacRules.Json.Number
import PacRules.Text.Utf8

/-!
# Reading JSON

The pieces of a JSON text: blanks, words, numbers and texts. A reader takes what it reads off
the front of a text and gives what is left. A fault is of one of three kinds: the text is not
JSON, it ends too early, or it is JSON of another shape than is wanted; the first fault in
reading order is the one that is told.

A value that nobody wants is skipped: it is held to the grammar, but the size of its numbers
and the pairing of its surrogate escapes are not looked at, and it may be nested to any depth.
-/

namespace PacRules.Json

open PacRules.Text

/-- The kinds of faults. -/
inductive ReadError where
  /-- not JSON -/
  | syntaxFault
  /-- the text ends too early -/
  | endOfText
  /-- JSON of another shape -/
  | shape
  deriving DecidableEq

abbrev Reader (α : Type) := Text → Except ReadError (α × Text)

/-- A text without the blanks at its front, of which JSON has four. -/
def skipBlanks (t : Text) : Text :=
  t.dropWhile fun c => c = ' ' || c = '\n' || c = '\t' || c = '\r'

/-- A word, of which the first character has been read. -/
def readWord (word : Text) : Reader Unit := fun t =>
  match word, t with
  | [], t => .ok ((), t)
  | _ :: _, [] => .error .endOfText
  | a :: word, b :: t => if a = b then readWord word t else .error .syntaxFault

/-- The character of a hexadecimal escape, four digits behind the letter. The text ends too early
if fewer than four octets are left of it. -/
def readHex : Reader Nat := fun t =>
  let digits := t.take 4
  if utf8Size digits < 4 then .error .endOfText
  else if digits.all (isDigitOf 16) then .ok (ofDigits 16 digits, t.drop 4)
  else .error .syntaxFault

/-- Whether a number is the first half of a surrogate pair. -/
def isHighSurrogate (n : Nat) : Bool := 0xd800 ≤ n && n ≤ 0xdbff

/-- Whether a number is the second half of a surrogate pair. -/
def isLowSurrogate (n : Nat) : Bool := 0xdc00 ≤ n && n ≤ 0xdfff

/-- What a letter behind a backslash stands for, the hexadecimal escape apart. -/
def escapeOf? : Char → Option Char
  | '"' => some '"'
  | '\\' => some '\\'
  | '/' => some '/'
  | 'b' => some '\x08'
  | 'f' => some '\x0c'
  | 'n' => some '\n'
  | 'r' => some '\r'
  | 't' => some '\t'
  | _ => none

/-- The second half of a surrogate pair, with its backslash and letter. -/
def readLowHalf (high : Nat) : Reader Char
  | [] => .error .endOfText
  | '\\' :: [] => .error .endOfText
  | '\\' :: 'u' :: t => do
    let (low, t) ← readHex t
    if isLowSurrogate low then
      .ok (Char.ofNat (0x10000 + (high - 0xd800) * 0x400 + (low - 0xdc00)), t)
    else .error .syntaxFault
  | _ => .error .syntaxFault

def readEscape : Reader Char
  | [] => .error .endOfText
  | 'u' :: t => do
    let (n, t) ← readHex t
    if isHighSurrogate n then readLowHalf n t
    else if isLowSurrogate n then .error .syntaxFault
    else .ok (Char.ofNat n, t)
  | c :: t =>
    match escapeOf? c with
    | some d => .ok (d, t)
    | none => .error .syntaxFault

def skipEscape : Reader Unit
  | [] => .error .endOfText
  | 'u' :: t => do
    let (_, t) ← readHex t
    return ((), t)
  | c :: t => if (escapeOf? c).isSome then .ok ((), t) else .error .syntaxFault

/-- A text, of which the opening quote and the characters `backwards` have been read. The number
bounds the steps that are left. -/
def readTextFrom : (steps : Nat) → (backwards : Text) → Reader Text
  | 0, _, _ => .error .endOfText
  | _ + 1, _, [] => .error .endOfText
  | steps + 1, backwards, c :: t =>
    if c = '"' then .ok (backwards.reverse, t)
    else if c = '\\' then do
      let (d, t) ← readEscape t
      readTextFrom steps (d :: backwards) t
    else if c < ' ' then .error .syntaxFault
    else readTextFrom steps (c :: backwards) t

def readText : Reader Text := fun t => readTextFrom (t.length + 1) [] t

/-- A text that nobody wants, of which the opening quote has been read. -/
def skipTextFrom : (steps : Nat) → Reader Unit
  | 0, _ => .error .endOfText
  | _ + 1, [] => .error .endOfText
  | steps + 1, c :: t =>
    if c = '"' then .ok ((), t)
    else if c = '\\' then do
      let (_, t) ← skipEscape t
      skipTextFrom steps t
    else if c < ' ' then .error .syntaxFault
    else skipTextFrom steps t

/-- A text that nobody wants, of which the opening quote has been read. -/
def skipText : Reader Unit := fun t => skipTextFrom (t.length + 1) t

def digitsAt (t : Text) : Text := t.takeWhile Char.isDigit

/-- What stands behind the digits at the front of a text. -/
def afterDigits (t : Text) : Text := t.dropWhile Char.isDigit

/-- The digits of a number in front of its point. A zero is followed by no other digit. The fault
`early` is told where the text ends. -/
def readWhole (early : ReadError) : Reader Text := fun t =>
  match digitsAt t with
  | [] => match t with
    | [] => .error early
    | _ => .error .syntaxFault
  | '0' :: _ :: _ => .error .syntaxFault
  | digits => .ok (digits, afterDigits t)

def readFraction (early : ReadError) : Reader Text := fun t =>
  match digitsAt t with
  | [] => match t with
    | [] => .error early
    | _ => .error .syntaxFault
  | digits => .ok (digits, afterDigits t)

def readExponent (early : ReadError) : Reader Int := fun t =>
  let (sign, t) : Int × Text := match t with
    | '+' :: t => (1, t)
    | '-' :: t => (-1, t)
    | t => (1, t)
  (readFraction early t).map fun (digits, t) => (sign * ofDigits 10 digits, t)

def readUnsigned (early : ReadError) : Reader Number := fun t => do
  let (whole, t) ← readWhole early t
  let (fraction, t) ← match t with
    | '.' :: t => readFraction early t
    | t => .ok ([], t)
  let (exponent, t) ← match t with
    | 'e' :: t => readExponent early t
    | 'E' :: t => readExponent early t
    | t => .ok (0, t)
  return ({ whole, fraction, exponent }, t)

/-- A number without its sign, which has to be in range. -/
def readNumber : Reader Unit := fun t => do
  let (n, t) ← readUnsigned .endOfText t
  if n.isTooGreat then throw .syntaxFault
  return ((), t)

/-- A number without its sign that nobody wants. A text that ends in it is not told apart. -/
def skipNumber : Reader Unit := fun t => do
  let (_, t) ← readUnsigned .syntaxFault t
  return ((), t)

/-- Lists and objects that are open while a value is skipped. -/
inductive Frame where
  | list
  | object
  deriving DecidableEq

def Frame.close : Frame → Char
  | .list => ']'
  | .object => '\x7d'

def skipName : Reader Unit := fun t =>
  match skipBlanks t with
  | [] => .error .endOfText
  | '"' :: t => do
    let (_, t) ← skipText t
    match skipBlanks t with
    | [] => .error .endOfText
    | ':' :: t => return ((), t)
    | _ => .error .syntaxFault
  | _ => .error .syntaxFault

/-- The closing brackets behind a value, up to the place of the next value. Where everything is
closed no frame is left. `comma` tells whether a comma may stand here. -/
def skipClosing : (frames : List Frame) → (comma : Bool) → Reader (List Frame)
  | [], _, t => .ok ([], t)
  | frame :: frames, comma, t =>
    match skipBlanks t with
    | [] => .error .endOfText
    | c :: rest =>
      if c = frame.close then skipClosing frames true rest
      else if comma && c ≠ ',' then .error .syntaxFault
      else
        let rest := if comma then rest else c :: rest
        match frame with
        | .list => .ok (frame :: frames, rest)
        | .object => do
          let (_, rest) ← skipName rest
          return (frame :: frames, rest)

/-- A value that is no list and no object, or the bracket that opens one. -/
def skipOne : Reader (Option Frame) := fun t =>
  match skipBlanks t with
  | [] => .error .endOfText
  | 'n' :: t => (readWord "ull".toList t).map fun (_, t) => (none, t)
  | 't' :: t => (readWord "rue".toList t).map fun (_, t) => (none, t)
  | 'f' :: t => (readWord "alse".toList t).map fun (_, t) => (none, t)
  | '-' :: t => (skipNumber t).map fun (_, t) => (none, t)
  | '"' :: t => (skipText t).map fun (_, t) => (none, t)
  | '[' :: t => .ok (some .list, t)
  | '\x7b' :: t => .ok (some .object, t)
  | c :: t =>
    if c.isDigit then (skipNumber (c :: t)).map fun (_, t) => (none, t) else .error .syntaxFault

/-- A value that nobody wants, inside the open frames. The number bounds the steps. -/
def skipValueFrom : (steps : Nat) → (frames : List Frame) → Reader Unit
  | 0, _, _ => .error .endOfText
  | steps + 1, frames, t => do
    let (opened, t) ← skipOne t
    let (frames, t) ← match opened with
      | some frame => skipClosing (frame :: frames) false t
      | none => skipClosing frames true t
    if frames.isEmpty then return ((), t) else skipValueFrom steps frames t

def skipValue : Reader Unit := fun t => skipValueFrom (t.length + 1) [] t

end PacRules.Json
