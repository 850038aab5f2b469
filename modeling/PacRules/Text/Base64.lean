import PacRules.Text.Digits
import PacRules.Text.Utf8

/-!
# Base64

Octets in the standard alphabet with padding. Three octets make four symbols; one or two
octets that are left over make two or three, and equals signs fill the group. Reading accepts
only what writing produces: symbols throughout, full padding, and no bit set that belongs to
no octet. What is wrong with a text that is not accepted is told by its first fault, the
groups before the last being examined first.
-/

namespace PacRules.Text.Base64

def alphabet : Text := "ABCDEFGHIJKLMNOPQRSTUVWXYZabcdefghijklmnopqrstuvwxyz0123456789+/".toList

def symbol (n : Nat) : Char := alphabet.getD n '='

def value? (b : UInt8) : Option Nat :=
  let n := b.toNat
  if 65 ≤ n && n ≤ 90 then some (n - 65)
  else if 97 ≤ n && n ≤ 122 then some (n - 71)
  else if 48 ≤ n && n ≤ 57 then some (n + 4)
  else if n = 43 then some 62
  else if n = 47 then some 63
  else none

/-- A symbol is one octet, and that octet has the symbol's value. -/
theorem value?_symbol {n : Nat} (h : n < 64) :
    (String.utf8EncodeChar (symbol n)).map value? = [some n] := by
  have hall : ∀ n < 64, (String.utf8EncodeChar (symbol n)).map value? = [some n] := by
    decide +kernel
  exact hall n h

def padding : UInt8 := 61

/-- The symbols of octets, behind those that are written already, which are given backwards. -/
def encodeFrom (written : Text) : List UInt8 → Text
  | a :: b :: c :: rest =>
    let n := a.toNat * 65536 + b.toNat * 256 + c.toNat
    encodeFrom (symbol (n % 64) :: symbol (n / 64 % 64) :: symbol (n / 4096 % 64) ::
      symbol (n / 262144) :: written) rest
  | [a, b] =>
    let n := a.toNat * 1024 + b.toNat * 4
    ('=' :: symbol (n % 64) :: symbol (n / 64 % 64) :: symbol (n / 4096) :: written).reverse
  | [a] =>
    let n := a.toNat * 16
    ('=' :: '=' :: symbol (n % 64) :: symbol (n / 64) :: written).reverse
  | [] => written.reverse

def encode (bytes : List UInt8) : Text := encodeFrom [] bytes

theorem encodeFrom_append (written earlier : Text) (bytes : List UInt8) :
    encodeFrom (written ++ earlier) bytes = earlier.reverse ++ encodeFrom written bytes := by
  fun_induction encodeFrom written bytes with
  | case1 written a b c rest n ih =>
    rw [encodeFrom, ← ih]
    rfl
  | case2 written a b n => simp [encodeFrom, n]
  | case3 written a n => simp [encodeFrom, n]
  | case4 => simp [encodeFrom]

@[simp] theorem encode_nil : encode [] = [] := rfl

/-- Three octets make four symbols in front of those of the rest. -/
theorem encode_cons_cons_cons (a b c : UInt8) (rest : List UInt8) :
    encode (a :: b :: c :: rest) =
      let n := a.toNat * 65536 + b.toNat * 256 + c.toNat
      [symbol (n / 262144), symbol (n / 4096 % 64), symbol (n / 64 % 64), symbol (n % 64)] ++
        encode rest := by
  rw [encode, encodeFrom]
  exact encodeFrom_append [] _ rest

/-- Why a text is not Base64. Offsets count octets from the beginning of the text. -/
inductive DecodeError where
  | invalidSymbol (b : UInt8) (offset : Nat)
  | invalidLength (length : Nat)
  | invalidLastSymbol (b : UInt8) (offset : Nat)
  | invalidPadding
  deriving DecidableEq

def DecodeError.message : DecodeError → Text
  | .invalidSymbol b offset =>
    "Invalid symbol ".toList ++ toDigits 10 b.toNat ++ ", offset ".toList ++
      toDigits 10 offset ++ ['.']
  | .invalidLength length => "Invalid input length: ".toList ++ toDigits 10 length
  | .invalidLastSymbol b offset =>
    "Invalid last symbol ".toList ++ toDigits 10 b.toNat ++ ", offset ".toList ++
      toDigits 10 offset ++ ['.']
  | .invalidPadding => "Invalid padding".toList

/-- The values of octets that all have to be symbols, behind those found so far, which are given
backwards. -/
def valuesFrom (found : List Nat) (offset : Nat) : List UInt8 → Except DecodeError (List Nat)
  | [] => .ok found.reverse
  | b :: bs =>
    match value? b with
    | some n => valuesFrom (n :: found) (offset + 1) bs
    | none => .error (.invalidSymbol b offset)

/-- The values in the last group, which begins at `start`, and the number of equals signs behind
them, given what has been read of it. -/
def lastGroupFrom (start : Nat) (values : List Nat) (pads : Nat) :
    List UInt8 → Except DecodeError (List Nat × Nat)
  | [] => .ok (values, pads)
  | b :: bs =>
    if b = padding then
      if values.length + pads < 2 then .error (.invalidSymbol b (start + values.length + pads))
      else lastGroupFrom start values (pads + 1) bs
    else if 0 < pads then .error (.invalidSymbol padding (start + values.length))
    else match value? b with
      | some n => lastGroupFrom start (values ++ [n]) 0 bs
      | none => .error (.invalidSymbol b (start + values.length))

/-- The octets that groups of four values make, behind those found so far, which are given
backwards. Two or three values that are left over make one or two octets. -/
def octetsFrom (found : List UInt8) : List Nat → List UInt8
  | a :: b :: c :: d :: rest =>
    let n := a * 262144 + b * 4096 + c * 64 + d
    octetsFrom (UInt8.ofNat n :: UInt8.ofNat (n / 256) :: UInt8.ofNat (n / 65536) :: found) rest
  | [a, b, c] =>
    let n := a * 1024 + b * 16 + c / 4
    (UInt8.ofNat n :: UInt8.ofNat (n / 256) :: found).reverse
  | [a, b] => (UInt8.ofNat (a * 4 + b / 16) :: found).reverse
  | _ => found.reverse

theorem octetsFrom_append (found earlier : List UInt8) (values : List Nat) :
    octetsFrom (found ++ earlier) values = earlier.reverse ++ octetsFrom found values := by
  fun_induction octetsFrom found values with
  | case1 found a b c d rest n ih =>
    rw [octetsFrom, ← ih]
    rfl
  | case2 found a b c n => simp [octetsFrom, n]
  | case3 found a b => simp [octetsFrom]
  | case4 found values h1 h2 h3 =>
    rw [octetsFrom, List.reverse_append]
    · exact h1
    · exact h2
    · exact h3

/-- Whether the last of two or three left-over values has a bit that belongs to no octet. -/
def hasUnusedBits : List Nat → Bool
  | [_, b] => b % 16 ≠ 0
  | [_, _, c] => c % 4 ≠ 0
  | _ => false

def decode (bytes : List UInt8) : Except DecodeError (List UInt8) := do
  match bytes.getLast? with
  | none => return []
  | some final =>
    let size := bytes.length
    if size % 4 = 1 && final ≠ padding && (value? final).isNone then
      throw (.invalidSymbol final (size - 1))
    let start := (size - 1) / 4 * 4
    let body ← valuesFrom [] 0 (bytes.take start)
    let (values, pads) ← lastGroupFrom start [] 0 (bytes.drop start)
    if values.length < 2 then throw (.invalidLength size)
    if values.length + pads ≠ 4 then throw .invalidPadding
    if hasUnusedBits values then
      let last := start + values.length - 1
      throw (.invalidLastSymbol (bytes.getD last 0) last)
    return octetsFrom [] (body ++ values)

end PacRules.Text.Base64
