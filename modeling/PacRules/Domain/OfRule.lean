import PacRules.Domain.Alternation
import PacRules.Domain.HostPart
import PacRules.Rule.Pattern
import PacRules.Suffix.Rules

/-!
# The domains that a rule targets

A rule line reduced to registrable domains. A rule names one, or one for each alternative of
its first group, or none that can be found. A rule in the form of a regular expression is
read without its escaped slashes and dots, and if it has no group, from the first run of
small letters and figures that a dot follows to the end of that line. An address of four
numbers has no domain, whatever a resolver says.
-/

namespace PacRules.Domain

open PacRules.Text PacRules.Rule PacRules.Suffix

/-- Whether a host is four runs of ASCII digits with dots between them. -/
def isDottedQuad (host : Text) : Bool :=
  let parts := List.splitOn '.' host
  parts.length = 4 && parts.all fun part => !part.isEmpty && part.all Char.isDigit

/-- The registrable domain of a host, if it has a dot and does not end in one. -/
def ofHost? (resolve : Resolver) (host : Text) : Option Text :=
  if isDottedQuad host then none
  else match resolve host with
    | .ok (some domain) =>
      if domain.any (· = '.') && domain.getLast? ≠ some '.' then some domain else none
    | _ => none

def encodesSlash (rule : Text) : Bool :=
  contains ['%', '2', 'F'] rule || contains ['%', '2', 'f'] rule

/-- A stripped rule with its percent encoding resolved if a slash is among what is encoded. -/
def decodedRule (rule : Text) : Text := if encodesSlash rule then percentDecoded rule else rule

def ofRule? (resolve : Resolver) (rule : Text) : Option Text :=
  (hostPart? (decodedRule (stripped rule))).bind (ofHost? resolve)

/-- The domains of the alternatives that have one, in their order. -/
def ofEach (resolve : Resolver) (rules : List Text) : List Text := rules.filterMap (ofRule? resolve)

def ofPlain (resolve : Resolver) (rule : Text) : List Text :=
  match expand? rule with
  | some expansion => ofEach resolve expansion
  | none => (ofRule? resolve rule).toList

/-- The characters of the run that begins a host in a regular expression. -/
def isRunChar (c : Char) : Bool := c.isLower || c.isDigit

/-- What begins with the first run of letters and figures that a dot follows, up to a line feed. -/
def hostInRegexp? : Text → Option Text
  | [] => none
  | c :: t =>
    match run? isRunChar (c :: t) with
    | some (_, '.' :: _) => some ((c :: t).takeWhile (· ≠ '\n'))
    | _ => hostInRegexp? t

/-- A regular expression without its escaped slashes and dots. -/
def unescaped (source : Text) : Text := replace ['\\', '.'] ['.'] (replace ['\\', '/'] ['/'] source)

/-- The domains of a rule in the form of a regular expression. -/
def ofRegexp (resolve : Resolver) (rule : Text) : List Text :=
  let source := unescaped ((regexpLiteral? rule).getD rule)
  match expand? source with
  | some expansion => ofEach resolve expansion
  | none => ((hostInRegexp? source).bind (ofRule? resolve)).toList

/-- What may stand between the mark of an exception and its host. -/
def isExceptionPadding (c : Char) : Bool := c = '@' || c = '|' || c = '.'

/-- The route of a rule line and the domains that it targets, unless the line is ignored. -/
def ofLine? (resolve : Resolver) (line : Text) : Option (Route × List Text) :=
  let rule := trimmed line
  if holdsNoRule rule then none
  else match List.isPrefixOf? exceptionMark rule with
    | some body => some (.direct, ofPlain resolve (trimStart isExceptionPadding body))
    | none =>
      if rule.head? = some '/' || contains ['.', '*'] rule then
        some (.proxy, ofRegexp resolve rule)
      else some (.proxy, ofPlain resolve (trimStart (· = '|') rule))

end PacRules.Domain
