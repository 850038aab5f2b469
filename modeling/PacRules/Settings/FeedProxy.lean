import PacRules.Text.Blank
import PacRules.Text.DecimalDigit

/-!
# The proxy for fetching

The proxy through which a feed is fetched is given by a keyword, blanks, and an address of the
form `host:number` or `user:password@host:number`. The keyword decides the scheme of the proxy's
address, in which the other parts are put together again. Letters count in either case, and so
do the two characters above ASCII that fold to an S and a K; a keyword with one of these is
recognised, but has no scheme.
-/

namespace PacRules.Settings

open PacRules.Text

/-- Why a proxy is refused. -/
inductive ProxyError where
  | invalid (raw : Text)
  | unsupported (raw : Text)
  deriving DecidableEq

def ProxyError.message : ProxyError → Text
  | .invalid raw =>
    "Invalid gfwlist proxy '".toList ++ raw ++
      "', expected \"PROXY|SOCKS5 [user:pwd@]host:port\"".toList
  | .unsupported raw =>
    "SOCKS4 is not supported for fetching gfwlist: '".toList ++ raw ++ ['\'']

def keywords : List Text := ["PROXY", "SOCKS", "SOCKS4", "SOCKS5"].map String.toList

/-- The capital that a character folds to when keywords are recognised. -/
def folded (c : Char) : Char :=
  if c = 'ſ' then 'S' else if c = '\u212a' then 'K' else c.toUpper

def scheme? (keyword : Text) : Option Text :=
  let capitals := keyword.map Char.toUpper
  if capitals = "PROXY".toList then some "http".toList
  else if capitals = "SOCKS5".toList then some "socks5".toList
  else none

/-- What a proxy's address says besides its number. -/
structure Server where
  /-- the user and the password, if both are given -/
  login : Option (Text × Text)
  host : Text

def Server.text (server : Server) : Text :=
  match server.login with
  | some (user, password) => user ++ ':' :: (password ++ '@' :: server.host)
  | none => server.host

def isPlainHost (t : Text) : Bool := !t.isEmpty && !t.any (· = ':')

/-- The user, the password and the host of a text that consists of them, the first colon and the
next at sign being what parts them. -/
def userAndHost? (t : Text) : Option (Text × Text × Text) :=
  match cut? [':'] t with
  | none => none
  | some (user, rest) =>
    match cut? ['@'] rest with
    | none => none
    | some (password, host) =>
      if !user.isEmpty && !user.any (· = '@') && !password.isEmpty && isPlainHost host then
        some (user, password, host)
      else none

def server? (t : Text) : Option Server :=
  match userAndHost? t with
  | some (user, password, host) => some { login := some (user, password), host }
  | none => if isPlainHost t then some { login := none, host := t } else none

/-- The server and the number of an address: the last colon parts the number, in the decimal digits
of any script, from what stands in front of it. -/
def serverAndNumber? (t : Text) : Option (Server × Text) :=
  let number := (t.reverse.takeWhile (· ≠ ':')).reverse
  let front := t.take (t.length - number.length - 1)
  if number.length < t.length && !number.isEmpty && number.all isDecimalDigit && !t.any isBlank then
    (server? front).map (·, number)
  else none

/-- The address of a proxy, put together from the parts that are told in `raw`. -/
def proxyAddress (raw : Text) : Except ProxyError Text :=
  let raw := trimBlanks raw
  let keyword := raw.takeWhile fun c => !isBlank c
  let address := (raw.dropWhile fun c => !isBlank c).dropWhile isBlank
  if keywords.contains (keyword.map folded) then
    match serverAndNumber? address with
    | none => .error (.invalid raw)
    | some (server, number) =>
      match scheme? keyword with
      | some scheme => .ok (scheme ++ "://".toList ++ (server.text ++ ':' :: number))
      | none => .error (.unsupported raw)
  else .error (.invalid raw)

end PacRules.Settings
