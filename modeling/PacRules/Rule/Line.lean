import PacRules.Text.Blank

/-!
# Rule lines

What every reader of rules does first: a line is taken without the blanks and quotes around
it, and a line that is then empty or begins with an exclamation mark is no rule. Two at
signs at the front of a rule make it an exception, which sends what it matches directly.
-/

namespace PacRules.Rule

open PacRules.Text

def isPadding (c : Char) : Bool := isBlank c || c = '\'' || c = '"'

def trimmed (line : Text) : Text := trim isPadding line

/-- Whether a line without padding is blank or a comment. -/
def holdsNoRule : Text → Bool
  | [] => true
  | c :: _ => c = '!'

@[simp] theorem holdsNoRule_nil : holdsNoRule [] = true := rfl

theorem holdsNoRule_cons (c : Char) (t : Text) : holdsNoRule (c :: t) = decide (c = '!') := rfl

/-- Where a request that a rule matches is sent. -/
inductive Route where
  /-- past the proxy -/
  | direct
  /-- through the proxy -/
  | proxy
  deriving DecidableEq

def exceptionMark : Text := ['@', '@']

/-- The route of a rule and the rule without the mark of an exception. -/
def routed (rule : Text) : Route × Text :=
  match List.isPrefixOf? exceptionMark rule with
  | some body => (.direct, body)
  | none => (.proxy, rule)

end PacRules.Rule
