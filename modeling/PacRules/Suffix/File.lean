import PacRules.Files.Basic
import PacRules.Suffix.Rules

/-!
# Suffix rules from a file

A file of public suffixes has to be readable text and to hold at least one rule.
-/

namespace PacRules.Suffix

open PacRules.Text PacRules.Files

/-- Why a file gives no suffix rules. -/
inductive SuffixFileError where
  | unreadable (e : FileError)
  | noRules
  deriving DecidableEq

def SuffixFileError.message : SuffixFileError → Text
  | .unreadable e => "Failed to read suffix list: ".toList ++ e.message
  | .noRules => "Suffix list contains no rules".toList

def SuffixRules.ofFile (octets : Except FileError (List UInt8)) :
    Except SuffixFileError SuffixRules :=
  match textOf octets with
  | .error e => .error (.unreadable e)
  | .ok t =>
    let rules := SuffixRules.ofText t
    if rules.isEmpty then .error .noRules else .ok rules

end PacRules.Suffix
