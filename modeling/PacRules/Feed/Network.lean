import PacRules.Host.Ipv4

/-!
# The network

What a run asks of the network: the body that a web address answers, and whether the name of a
host has an address. Where there is no network every download fails, and no name has an address
but those of this computer and those that are addresses themselves. A name that could be a host's
is then one that nobody has told of, and any other is known to be none.
-/

namespace PacRules.Feed

open PacRules.Text PacRules.Host

/-- Why a name has no address. -/
inductive LookupFault where
  /-- no host has this name -/
  | unknown
  /-- there was nobody to ask -/
  | unanswered
  deriving DecidableEq

def LookupFault.message : LookupFault → Text
  | .unknown => "Name or service not known".toList
  | .unanswered => "Temporary failure in name resolution".toList

/-- What can be asked of a network. -/
structure Network (m : Type → Type) where
  /-- the body that an address answers, through a proxy if one is given -/
  download : (url : Text) → (proxy : Option Text) → m (Option Text)
  /-- why a host's name has no address, if it has none -/
  lookUp : (name : Text) → m (Option LookupFault)

/-- The names that need not be asked for: the one by which a computer knows itself, and the star,
which stands for any address. -/
def ownNames : List Text := ["localhost".toList, ['*']]

/-- Whether a name is an address of four octets. Here a bare `0x` is no number, and no dot ends
the address. -/
def isDottedNumber (name : Text) : Bool :=
  Ipv4.endsInNumber name && !List.isSuffixOf ['.'] name && (Ipv4.value? name).isSome &&
    !(List.splitOn '.' name).any fun part => part.map Char.toLower = ['0', 'x']

def longestLabel : Nat := 63

/-- The most characters of a host's name, a final dot aside. -/
def longestHostName : Nat := 253

/-- Whether a name could be a host's: labels of letters, digits, hyphens and underscores, of which
none is empty and the first does not begin with a hyphen. A dot may end the name. -/
def isHostName (name : Text) : Bool :=
  let name := (List.isSuffixOf? ['.'] name).getD name
  name.isEmpty ||
    (name.length ≤ longestHostName && name.head? ≠ some '-' &&
      (List.splitOn '.' name).all fun label =>
        !label.isEmpty && label.length ≤ longestLabel &&
          label.all fun c => c.isAlphanum || c = '-' || c = '_')

/-- Why a name has no address where there is no network. -/
def localFault? (name : Text) : Option LookupFault :=
  if ownNames.contains (name.map Char.toLower) || isDottedNumber name then none
  else some (if isHostName name then .unanswered else .unknown)

def Network.offline {m : Type → Type} [Monad m] : Network m where
  download _ _ := return none
  lookUp name := return localFault? name

end PacRules.Feed
