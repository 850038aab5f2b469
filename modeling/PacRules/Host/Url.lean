import PacRules.Host.Ipv4
import PacRules.Host.Ipv6
import PacRules.Host.Name
import PacRules.Text.Percent

/-!
# The host of a web address

The host that a web address names, in the form in which a browser would write it. Tabs and
line ends are left out of an address, trailing blanks and controls are cut off, slashes and
backslashes count alike and may be any number after the scheme, and what stands before the
last at sign is no part of the host. The path, the query and the fragment can hold anything.
-/

namespace PacRules.Host

open PacRules.Text

/-- Why an address has no host. -/
inductive UrlError where
  | emptyHost
  | badName
  | badCharacter
  | badNumber
  | badIpv4
  | badIpv6
  deriving DecidableEq

def UrlError.message : UrlError → String
  | .emptyHost => "empty host"
  | .badName => "invalid international domain name"
  | .badCharacter => "invalid domain character"
  | .badNumber => "invalid port number"
  | .badIpv4 => "invalid IPv4 address"
  | .badIpv6 => "invalid IPv6 address"

/-- What stands behind an opening bracket, as an address with both brackets in its one written
form. -/
def writtenIpv6 (bracketed : Text) : Except UrlError Text :=
  match List.isSuffixOf? [']'] bracketed with
  | none => .error .badIpv6
  | some inner =>
    match Ipv6.parse? inner with
    | none => .error .badIpv6
    | some groups => .ok (['['] ++ Ipv6.write groups ++ [']'])

/-- A host name or address as it stands in an address, in its one written form. -/
def writtenHost (host : Text) : Except UrlError Text :=
  match host with
  | [] => .error .emptyHost
  | '[' :: bracketed => writtenIpv6 bracketed
  | _ =>
    match asciiName? (percentDecoded host) with
    | none => .error .badName
    | some [] => .error .emptyHost
    | some name =>
      if Ipv4.endsInNumber name then
        match Ipv4.value? name with
        | some value => .ok (Ipv4.write value)
        | none => .error .badIpv4
      else .ok name

/-- The host of an authority and what follows it from the first colon outside brackets on. -/
def splitAtColon (inside : Bool) : Text → Text × Text
  | [] => ([], [])
  | c :: t =>
    if c = ':' && !inside then ([], c :: t)
    else
      let (host, behind) := splitAtColon (c = '[' || (inside && c ≠ ']')) t
      (c :: host, behind)

/-- Whether a text, if it is not empty, is a colon and a number of sixteen bits; the number may be
missing. -/
def numberAllowed : Text → Bool
  | [] => true
  | _ :: digits => digits.all (isDigitOf 10) && ofDigits 10 digits ≤ 65535

def afterUser (authority : Text) : Text := (authority.reverse.takeWhile (· ≠ '@')).reverse

def hostOfAuthority (authority : Text) : Except UrlError Text := do
  let (host, behind) := splitAtColon false (afterUser authority)
  let written ← writtenHost host
  if numberAllowed behind then .ok written else .error .badNumber

def endsAuthority (c : Char) : Bool := c = '/' || c = '\\' || c = '?' || c = '#'

/-- An address without the blanks and controls at its end, and without tabs and line ends. -/
def withoutLayout (address : Text) : Text :=
  (trimEnd (· ≤ ' ') address).filter fun c => c ≠ '\t' && c ≠ '\n' && c ≠ '\r'

/-- The host of a web address, given what follows the colon of its scheme. -/
def hostAfterScheme (address : Text) : Except UrlError Text :=
  let rest := trimStart (fun c => c = '/' || c = '\\') (withoutLayout address)
  hostOfAuthority (rest.takeWhile fun c => !endsAuthority c)

end PacRules.Host
