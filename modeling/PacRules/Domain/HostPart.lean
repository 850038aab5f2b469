import PacRules.Domain.Decoration
import PacRules.Host.Url

/-!
# The host part of a rule

Where the host of a stripped rule is found. A rule that begins with the scheme of a web
address is read as one. In a rule with a slash, what stands before the slash is the host as it
is, if it has a parenthesis or if an asterisk stands before a slash somewhere; otherwise the
rule is read as a web address without its scheme. A rule without a slash is a host if it has a
dot.
-/

namespace PacRules.Domain

open PacRules.Text PacRules.Host

def afterScheme? (rule : Text) : Option Text :=
  (List.isPrefixOf? "http:".toList rule).or (List.isPrefixOf? "https:".toList rule)

def hostPart? (rule : Text) : Option Text :=
  match afterScheme? rule with
  | some address => (hostAfterScheme address).toOption
  | none =>
    match cut? ['/'] rule with
    | some (front, _) =>
      if front.any (· = '(') || contains ['*', '/'] rule then some front
      else (hostAfterScheme (['/', '/'] ++ rule)).toOption
    | none => if rule.any (· = '.') then some rule else none

end PacRules.Domain
