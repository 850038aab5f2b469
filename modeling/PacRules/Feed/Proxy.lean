import PacRules.Feed.Network
import PacRules.Host.Opaque

/-!
# The proxy for a download

Before a feed is downloaded through a proxy the proxy's address has to be one. A proxy of the
web is named by a web address, whose host is later sent in a request and has to be fit for it. The
host of any other proxy is looked up at once.
-/

namespace PacRules.Feed

open PacRules.Text PacRules.Host

/-- What can be wrong with a proxy. -/
inductive ProxyFault where
  /-- it is no address -/
  | badAddress (e : UrlError)
  /-- its host cannot stand in a request -/
  | badCharacter
  /-- its host has no address -/
  | noAddress (e : LookupFault)
  deriving DecidableEq

def ProxyFault.message : ProxyFault → Text
  | .badAddress e => "builder error: ".toList ++ e.message.toList
  | .badCharacter => "invalid uri character".toList
  | .noAddress e => "failed to lookup address information: ".toList ++ e.message

/-- Whether a character that a host may hold cannot stand in a request. -/
def isRefusedInRequest (c : Char) : Bool := "\"`\x7b\x7d".toList.contains c

def lookupScheme : Text := "socks5".toList

/-- The name that has to be looked up for a proxy to be used. There is none for a proxy of the
web, for an address in brackets, and where the address has no host, which is then read as a web
address whose host is the scheme. -/
def nameOfProxy? (proxy : Text) : Except ProxyFault (Option Text) :=
  match cut? [':'] proxy with
  | none => .ok none
  | some (scheme, address) =>
    if scheme = lookupScheme then
      match hostAfterSlashes? (address.drop 2) with
      | .error e => .error (.badAddress e)
      | .ok host => .ok (host.filter fun host => host.head? ≠ some '[')
    else
      match hostAfterScheme address with
      | .error e => .error (.badAddress e)
      | .ok host => if host.any isRefusedInRequest then .error .badCharacter else .ok none

def proxyFault? {m : Type → Type} [Monad m] (network : Network m) (proxy : Text) :
    m (Option ProxyFault) :=
  match nameOfProxy? proxy with
  | .error fault => return some fault
  | .ok none => return none
  | .ok (some name) => do return (← network.lookUp name).map .noAddress

end PacRules.Feed
