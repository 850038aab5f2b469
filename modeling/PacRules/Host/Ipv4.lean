import PacRules.Text.Digits

/-!
# IPv4 addresses in host names

A host name whose last label is a number is an IPv4 address or nothing. The numbers are
decimal, octal after a leading zero or hexadecimal after `0x`; there may be fewer than four,
and then the last one fills the octets that are missing. One final dot is allowed.
-/

namespace PacRules.Host.Ipv4

open PacRules.Text

/-- The number that a label writes, in the base that its beginning tells. A bare `0x` is zero. -/
def number? (label : Text) : Option Nat :=
  let (base, digits) : Nat × Text :=
    match label with
    | '0' :: 'x' :: digits => (16, digits)
    | '0' :: 'X' :: digits => (16, digits)
    | '0' :: d :: digits => (8, d :: digits)
    | digits => (10, digits)
  if label.isEmpty then none
  else if digits.all (isDigitOf base) then some (ofDigits base digits)
  else none

def parts (name : Text) : List Text :=
  let labels := List.splitOn '.' name
  if labels.getLast? = some [] then labels.dropLast else labels

/-- Whether the last label of a name, a final dot aside, is a number: decimal digits, or what
`number?` reads. -/
def endsInNumber (name : Text) : Bool :=
  match (parts name).getLast? with
  | some last => !last.isEmpty && (last.all (isDigitOf 10) || (number? last).isSome)
  | none => false

/-- The 32-bit value of an address: every number but the last is an octet, and the last fills
the octets that are left. -/
def value? (name : Text) : Option Nat := do
  let numbers ← (parts name).mapM number?
  let last ← numbers.getLast?
  let octets := numbers.dropLast
  let left := Nat.pow 256 (4 - octets.length)
  if octets.length ≤ 3 && octets.all (· ≤ 255) && last < left then
    some (octets.foldl (fun n octet => n * 256 + octet) 0 * left + last)
  else none

/-- The four octets of an address with dots between them. -/
def write (value : Nat) : Text :=
  List.intercalate ['.']
    ([16777216, 65536, 256, 1].map fun unit => toDigits 10 (value / unit % 256))

end PacRules.Host.Ipv4
