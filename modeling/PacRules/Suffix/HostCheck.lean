import PacRules.Text.Alphanumeric
import PacRules.Text.LowerCase
import PacRules.Text.Quoted
import PacRules.Text.Utf8

/-!
# Hosts for a suffix lookup

A host is looked up in lower case and without trailing dots. It has to be a list of labels
with dots between them, none of them empty, made of letters, numbers, hyphens and
underscores, and neither the whole nor a label may be too long. The labels are examined from
the left, each for being empty, then for its length, then for its characters.
-/

namespace PacRules.Suffix

open PacRules.Text

def hostLimit : Nat := 253

def labelLimit : Nat := 63

/-- Why a host cannot be looked up. The host is given as it was examined. -/
inductive HostError where
  | empty
  | tooLong (size : Nat)
  | emptyLabel (host : Text)
  | labelTooLong (host : Text)
  | badCharacter (host : Text) (c : Char)
  deriving DecidableEq

def HostError.message : HostError → Text
  | .empty => "empty host".toList
  | .tooLong size => "host too long: ".toList ++ toDigits 10 size ++ " bytes".toList
  | .emptyLabel host => "empty label in host '".toList ++ host ++ ['\'']
  | .labelTooLong host => "label too long in host '".toList ++ host ++ ['\'']
  | .badCharacter host c =>
    "invalid character ".toList ++ quoted c ++ " in host '".toList ++ host ++ ['\'']

def isLabelChar (c : Char) : Bool := isAlphanumeric c || c = '-' || c = '_'

def labelError? (host label : Text) : Option HostError :=
  if label.isEmpty then some (.emptyLabel host)
  else if labelLimit < utf8Size label then some (.labelTooLong host)
  else (label.find? fun c => !isLabelChar c).map (.badCharacter host)

/-- A host as it is examined: in lower case, without trailing dots. -/
def examined (host : Text) : Text := lower (trimEnd (· = '.') host)

def checkedHost (host : Text) : Except HostError Text :=
  let host := examined host
  if host.isEmpty then .error .empty
  else if hostLimit < utf8Size host then .error (.tooLong (utf8Size host))
  else match (List.splitOn '.' host).findSome? (labelError? host) with
    | some e => .error e
    | none => .ok host

end PacRules.Suffix
