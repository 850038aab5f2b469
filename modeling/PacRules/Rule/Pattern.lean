import PacRules.Rule.Glob
import PacRules.Rule.Line

/-!
# Patterns

A rule line as a pattern for whole addresses. What stands between two slashes is a regular
expression already. Otherwise a caret makes the rule a regular expression in which every
caret is a separator; two pipes at the front tie it to the beginning of a host's labels; a
pipe at either edge ties that edge to the end of the address; and what has none of these is
a glob that may match anywhere. The forms are tried in this order, so a rule with a caret
keeps its pipes as plain characters.
-/

namespace PacRules.Rule

open PacRules.Text

/-- How a pattern is matched. -/
inductive Form where
  /-- as a glob -/
  | wildcard
  /-- as a regular expression -/
  | regexp
  deriving DecidableEq

/-- A rule after its line has been read. -/
structure Pattern where
  route : Route
  form : Form
  text : Text
  deriving DecidableEq

/-- The regular expression for a separator: the end of the address, or a character that stands
in no host, path segment or query value. -/
def separator : Text := "(?:[^\\w\\-.%\\u0080-\\uFFFF]|$)".toList

/-- The regular expression for what may stand before the labels that two pipes tie a rule to. -/
def domainAnchor : Text := "^[\\w\\-]+:/+(?!/)(?:[^/]+\\.)?".toList

/-- What stands between two slashes. A lone slash opens and closes nothing. -/
def regexpLiteral? (body : Text) : Option Text :=
  match body with
  | '/' :: rest =>
    match rest.getLast? with
    | none => some []
    | some last => if last = '/' then some rest.dropLast else none
  | _ => none

def escapedPipe : Text := ['\\', '|']

/-- A rule as a regular expression, with the escaped pipes at its edges turned into anchors, the
front first. -/
def tieEdges (source : Text) : Text :=
  let (start, body) := match List.isPrefixOf? escapedPipe source with
    | some rest => (['^'], rest)
    | none => ([], source)
  match List.isSuffixOf? escapedPipe body with
  | some inner => start ++ inner ++ ['$']
  | none => start ++ body

/-- The form and text of a rule without its exception mark. -/
def patternOfBody (body : Text) : Form × Text :=
  match regexpLiteral? body with
  | some source => (.regexp, source)
  | none =>
    if body.any (· = '^') then
      (.regexp, replace ['\\', '^'] separator (Glob.regexp body))
    else match List.isPrefixOf? ['|', '|'] body with
      | some rest => (.regexp, domainAnchor ++ Glob.regexp rest)
      | none =>
        if body.head? = some '|' || body.getLast? = some '|' then
          (.regexp, tieEdges (Glob.regexp body))
        else (.wildcard, ['*'] ++ trim (· = '*') body ++ ['*'])

/-- The pattern of a rule line, unless the line is ignored. -/
def Pattern.ofLine? (line : Text) : Option Pattern :=
  let rule := trimmed line
  if holdsNoRule rule then none
  else
    let (route, body) := routed rule
    let (form, text) := patternOfBody body
    some { route, form, text }

end PacRules.Rule
