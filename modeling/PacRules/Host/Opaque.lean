import PacRules.Host.Url

/-!
# The host of an address of another scheme

An address whose scheme is none of the web's names its host as it is: nothing is mapped, and
what is not printable ASCII is percent-encoded. Only a slash, a question mark or a number sign
ends the authority, so a backslash is a character of the host. Such an address may have no
host, unless it has a user or a number.
-/

namespace PacRules.Host

open PacRules.Text

/-- The characters that a host taken as it is does not hold. -/
def isReserved (c : Char) : Bool := "\x00\t\n\r #/:<>?@[\\]^|".toList.contains c

/-- A host that is taken as it is, or an address in brackets. -/
def writtenOpaque (host : Text) : Except UrlError Text :=
  match host with
  | '[' :: bracketed => writtenIpv6 bracketed
  | _ => if host.any isReserved then .error .badCharacter else .ok (percentEncoded host)

/-- Whether a character ends an authority that is taken as it is. -/
def endsOpaqueAuthority (c : Char) : Bool := c = '/' || c = '?' || c = '#'

/-- Whether what stands in front of the last at sign names a user or a password. -/
def namesUser (user : Text) : Bool := user ≠ [] && user ≠ [':']

/-- The host of an authority and its number, given what stands in front of the last at sign. -/
def opaqueHost? (user hostAndNumber : Text) : Except UrlError (Option Text) := do
  let (host, behind) := splitAtColon false hostAndNumber
  let written ← writtenOpaque host
  if host.isEmpty && !behind.isEmpty then throw .emptyHost
  if !numberAllowed (behind.takeWhile (· ≠ '\\')) then throw .badNumber
  if host.isEmpty then
    if namesUser user then throw .emptyHost
    return none
  return some written

/-- The host of an address of another scheme, given what follows the two slashes behind it. -/
def hostAfterSlashes? (address : Text) : Except UrlError (Option Text) :=
  let address := withoutLayout address
  let authority := address.takeWhile fun c => !endsOpaqueAuthority c
  let hostAndNumber := afterUser authority
  let user := authority.take (authority.length - hostAndNumber.length - 1)
  if authority = ['@'] && authority.length < address.length then .error .emptyHost
  else opaqueHost? user hostAndNumber

end PacRules.Host
