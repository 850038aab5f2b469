import PacRules.Suffix.HostCheck
import PacRules.Text.Blank

/-!
# Public suffixes

Rules that say which names are public suffixes, names under which anybody can register. The
registrable domain of a host is its public suffix with one more label. A plain rule makes a
suffix public, a rule with an asterisk makes every name right below a suffix public, and a
rule with an exclamation mark excepts a name from that, so that the name is registrable
itself. Of the rules that match a host the longest decides, and without any the last label
is the public suffix. Where no rules are loaded at all, a short list of common suffixes of
two labels stands in for them.
-/

namespace PacRules.Suffix

open PacRules.Text

/-- Anything that finds the registrable domain of a host. -/
abbrev Resolver := Text → Except HostError (Option Text)

/-- The resolver that checks a host and then asks for its registrable domain. -/
def Resolver.checking (registrable? : Text → Option Text) : Resolver := fun host =>
  (checkedHost host).map registrable?

/-- Rules by kind. A wildcard rule is kept without its asterisk and dot, an exception without its
mark. -/
structure SuffixRules where
  exact : List Text := []
  wildcard : List Text := []
  exception : List Text := []

namespace SuffixRules

def isEmpty (rules : SuffixRules) : Bool :=
  rules.exact.isEmpty && rules.wildcard.isEmpty && rules.exception.isEmpty

def insert (rules : SuffixRules) (rule : Text) : SuffixRules :=
  match List.isPrefixOf? ['!'] rule with
  | some name => { rules with exception := name :: rules.exception }
  | none =>
    match List.isPrefixOf? ['*', '.'] rule with
    | some name => { rules with wildcard := name :: rules.wildcard }
    | none => { rules with exact := rule :: rules.exact }

/-- The rule on a line: its first word in lower case, unless the line is blank or a comment. -/
def ruleOfLine? (line : Text) : Option Text :=
  let line := trimBlanks line
  if List.isPrefixOf ['/', '/'] line then none else (firstWord? line).map lower

def ofText (t : Text) : SuffixRules :=
  ((fields (· = '\n') t).filterMap ruleOfLine?).foldl insert {}

/-- The answer of the first of the suffixes, longest first, that a rule matches: the registrable
domain, or nothing for a host that is a public suffix itself. `before` is the label in front
of the suffix. Where no suffix is matched there is no answer. -/
def scan (rules : SuffixRules) (before : Option Text) : List Text → Option (Option Text)
  | [] => none
  | label :: rest =>
    let suffix := List.intercalate ['.'] (label :: rest)
    if rules.exception.contains suffix then some (some suffix)
    else if rules.exact.contains suffix ||
        (!rest.isEmpty && rules.wildcard.contains (List.intercalate ['.'] rest)) then
      some (before.map fun label => label ++ '.' :: suffix)
    else scan rules (some label) rest

def lastLabels (n : Nat) (labels : List Text) : Text :=
  List.intercalate ['.'] (labels.drop (labels.length - n))

def commonPairs : List Text :=
  ["co.uk", "co.jp", "co.nz", "co.za", "co.in", "co.kr", "com.au", "com.br", "com.cn", "com.mx",
   "com.tw", "com.hk", "net.au", "net.nz", "net.cn", "org.uk", "org.au", "org.cn", "gov.uk",
   "gov.au", "ac.uk", "ac.jp", "ne.jp", "or.jp"].map String.toList

def fallback? (labels : List Text) : Option Text :=
  if commonPairs.contains (lastLabels 2 labels) then
    if labels.length = 2 then none else some (lastLabels 3 labels)
  else some (lastLabels 2 labels)

/-- The registrable domain of a host that has been checked. A single label has none. -/
def registrable? (rules : SuffixRules) (host : Text) : Option Text :=
  let labels := List.splitOn '.' host
  if labels.length ≤ 1 then none
  else if rules.isEmpty then fallback? labels
  else (rules.scan none labels).getD (some (lastLabels 2 labels))

def lookup (rules : SuffixRules) : Resolver := .checking rules.registrable?

theorem lookup_of_checkedHost (rules : SuffixRules) {host checked : Text}
    (h : checkedHost host = .ok checked) :
    rules.lookup host = .ok (rules.registrable? checked) := by
  rw [lookup, Resolver.checking, h]
  rfl

end SuffixRules

end PacRules.Suffix
