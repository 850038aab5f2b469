import PacRules.Text.Digits

/-!
# IPv6 addresses

The text of an address is eight groups of at most four hexadecimal digits with colons between
them, where one double colon may stand for one or more groups of zero and the last two groups
may be given as four decimal octets with dots. An address is written with its first longest
run of two or more zero groups as a double colon.
-/

namespace PacRules.Host.Ipv6

open PacRules.Text

def octet? (t : Text) : Option Nat :=
  if t.isEmpty || !t.all (isDigitOf 10) || (t.length > 1 && t.head? = some '0') then none
  else some (ofDigits 10 t) |>.filter (· ≤ 255)

def dottedGroups? (t : Text) : Option (List Nat) := do
  match ← (List.splitOn '.' t).mapM octet? with
  | [a, b, c, d] => some [a * 256 + b, c * 256 + d]
  | _ => none

def group? (t : Text) : Option Nat :=
  if !t.isEmpty && t.length ≤ 4 && t.all (isDigitOf 16) then some (ofDigits 16 t) else none

/-- The groups of pieces between colons. The last piece may be four octets if it ends the
address. -/
def groups? (endsAddress : Bool) : List Text → Option (List Nat)
  | [] => some []
  | [last] =>
    if endsAddress && last.any (· = '.') then dottedGroups? last else (group? last).map ([·])
  | piece :: pieces => do return (← group? piece) :: (← groups? endsAddress pieces)

/-- The groups on one side of the double colon, or of an address without one. -/
def side? (endsAddress : Bool) (t : Text) : Option (List Nat) :=
  if t.isEmpty then some [] else groups? endsAddress (List.splitOn ':' t)

def parse? (t : Text) : Option (List Nat) := do
  match cut? [':', ':'] t with
  | none => (← side? true t) |> fun groups => if groups.length = 8 then some groups else none
  | some (left, right) =>
    let left ← side? false left
    let right ← side? true right
    if left.length + right.length ≤ 7 then
      some (left ++ List.replicate (8 - left.length - right.length) 0 ++ right)
    else none

def zeroRun (groups : List Nat) : Nat := (groups.takeWhile (· = 0)).length

/-- Where the first longest run of zeros begins, and its length. -/
def longestZeroRun : List Nat → Nat × Nat
  | [] => (0, 0)
  | g :: groups =>
    let (start, length) := longestZeroRun groups
    let here := zeroRun (g :: groups)
    if length ≤ here then (0, here) else (start + 1, length)

def writeGroups (groups : List Nat) : Text := List.intercalate [':'] (groups.map (toDigits 16))

def write (groups : List Nat) : Text :=
  let (start, length) := longestZeroRun groups
  if length < 2 then writeGroups groups
  else writeGroups (groups.take start) ++ [':', ':'] ++ writeGroups (groups.drop (start + length))

end PacRules.Host.Ipv6
