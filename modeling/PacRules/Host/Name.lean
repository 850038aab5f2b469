import PacRules.Host.Bidi
import PacRules.Host.Joining
import PacRules.Host.Mapping
import PacRules.Host.Mark
import PacRules.Host.Punycode

/-!
# Host names in ASCII

The ASCII form of a host name. The name is mapped and composed, each encoded label is decoded
to see what it stands for, every label is held to the rules for labels, and the labels with
other characters are written in their encoding. A name of ASCII labels none of which is
encoded is only taken to lower case. Either way the result holds none of the characters that
have a meaning in a URL. Empty labels are let through, and so are hyphens anywhere.
-/

namespace PacRules.Host

open PacRules.Text

def isAscii (c : Char) : Bool := c.toNat < 128

def isForbidden (c : Char) : Bool :=
  c ≤ ' ' || c = '\x7f' || "%#/:<>?@[\\]^|".toList.contains c

def encodedPrefix : Text := ['x', 'n', '-', '-']

def longestDecoded : Nat := 1000

/-- The longest text after `encodedPrefix` that is decoded. -/
def longestEncoded : Nat := 2000

/-- The label that an encoded one stands for: one that has other characters than ASCII and that
mapping and composing would leave alone. -/
def decodedLabel? (encoded : Text) : Option Text :=
  if longestEncoded < encoded.length || !encoded.all isAscii then none
  else (Punycode.decode? encoded).filter fun label =>
    !label.all isAscii && label.all isKept && composed label = label

def plainLabel? (label : Text) : Option Text :=
  match List.isPrefixOf? encodedPrefix label with
  | some encoded => decodedLabel? encoded
  | none => some label

/-- The rules that a label keeps: it begins with no mark, is not overlong, and its joiners and,
in a name that is `bidirectional`, its directions are as they may be. -/
def labelAllowed (bidirectional : Bool) (label : Text) : Bool :=
  !(label.head?).any isMark && joinersAllowed label &&
    (label.all isAscii || label.length ≤ longestDecoded) &&
    (!bidirectional || bidiAllowed label)

def asciiLabel (label : Text) : Text :=
  if label.all isAscii then label else encodedPrefix ++ Punycode.encode label

/-- The ASCII form of a name that has been mapped and composed. -/
def asciiOfComposed? (name : Text) : Option Text := do
  let labels := List.splitOn '.' name
  let plain ← labels.mapM plainLabel?
  if plain.all (labelAllowed (plain.any hasRightToLeft)) then
    some (List.intercalate ['.'] (labels.map asciiLabel))
  else none

def isPlainAscii (name : Text) : Bool :=
  name.all isAscii &&
    (List.splitOn '.' name).all fun label => !List.isPrefixOf encodedPrefix (label.map Char.toLower)

/-- The ASCII form of a name before the forbidden characters are looked for. -/
def uncheckedAscii? (name : Text) : Option Text :=
  if isPlainAscii name then some (name.map Char.toLower)
  else do
    let mapped ← name.mapM mapped?
    asciiOfComposed? (composed mapped.flatten)

def asciiName? (name : Text) : Option Text :=
  (uncheckedAscii? name).filter fun ascii => !ascii.any isForbidden

end PacRules.Host
