import PacRules.Feed.Decode
import PacRules.Feed.Proxy
import PacRules.Files.Basic
import PacRules.Settings.Basic

/-!
# Fetching a feed

A feed is downloaded where an address is given. If that fails, or there is no address, it is
read from the local copy. A download replaces the local copy if that is wanted; that it cannot
be written is no failure. The proxy for the download has to be without fault before anything is
tried.
-/

namespace PacRules.Feed

open PacRules.Text PacRules.Files PacRules.Settings

/-- Where a feed came from. -/
inductive Source where
  | online (url : Text)
  | localCopy (path : Text)
  deriving DecidableEq

def Source.label : Source → Text
  | .online url => "online[".toList ++ url ++ [']']
  | .localCopy path => "local[".toList ++ path ++ [']']

/-- A feed that is still encoded. -/
structure Fetched where
  content : Text
  source : Source

/-- Why there is no feed. -/
inductive FetchError where
  | badProxy (fault : ProxyFault)
  | unavailable (url : Text)
  deriving DecidableEq

def FetchError.message : FetchError → Text
  | .badProxy fault => "Failed to set up HTTP client: builder error: ".toList ++ fault.message
  | .unavailable url =>
    "gfwlist unavailable: online fetch from '".toList ++ url ++
      "' failed and no local copy could be read".toList

/-- The local copy with a new content, where one is kept. -/
def refresh {m : Type → Type} [Monad m] (files : FileAccess m) (path content : Text) : m Unit := do
  match ← files.makeParents path with
  | .error _ => return
  | .ok () =>
    let _ ← files.write path (utf8 content)
    return

/-- The content of the local copy, if there is one that can be read. -/
def readLocal? {m : Type → Type} [Monad m] (files : FileAccess m) (path : Text) :
    m (Option Text) := do
  return (textOf (← files.read path)).toOption

/-- The content of a download, if there is an address and the download succeeds. -/
def downloaded? {m : Type → Type} [Monad m] (network : Network m) (settings : Settings)
    (url : Text) : m (Option Text) :=
  if url.isEmpty then return none else network.download url settings.feedProxy

/-- What is wrong with the proxy for a download, if there is a download and a proxy for it. -/
def downloadFault? {m : Type → Type} [Monad m] (network : Network m) (settings : Settings)
    (url : Text) : m (Option ProxyFault) :=
  match settings.feedProxy with
  | none => return none
  | some proxy => if url.isEmpty then return none else proxyFault? network proxy

def fetch {m : Type → Type} [Monad m] (files : FileAccess m) (network : Network m)
    (settings : Settings) : m (Except FetchError Fetched) := do
  let url := trimBlanks settings.feedUrl
  match ← downloadFault? network settings url with
  | some fault => return .error (.badProxy fault)
  | none =>
    match ← downloaded? network settings url with
    | some content =>
      match settings.localCopy with
      | some path => if settings.refreshLocalCopy then refresh files path content
      | none => pure ()
      return .ok { content, source := .online url }
    | none =>
      match settings.localCopy with
      | none => return .error (.unavailable url)
      | some path =>
        match ← readLocal? files path with
        | some content => return .ok { content, source := .localCopy path }
        | none => return .error (.unavailable url)

end PacRules.Feed
