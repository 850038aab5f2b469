import PacRules.Proofs.Text.Front
import PacRules.Rule.Line

/-!
# Lines with padding and marks

What a reader is left with once a line has been trimmed and the mark of an exception taken off.
The padding of a line may be of any length and kind, so more of it makes no difference, and a line
that has none is kept. The route of a line depends on its first two characters alone.
-/

namespace PacRules.Rule

open PacRules.Text

variable {line rule : Text}

theorem trimmed_eq_self (hfirst : ∀ c, line.head? = some c → isPadding c = false)
    (hlast : ∀ c, line.getLast? = some c → isPadding c = false) : trimmed line = line := by
  rw [trimmed, trim, trimStart_eq_self hfirst, trimEnd_eq_self hlast]

/-- More padding around a line is trimmed with the padding that it has. -/
theorem trimmed_append {front back : Text} (hfront : ∀ c ∈ front, isPadding c = true)
    (hback : ∀ c ∈ back, isPadding c = true) (line : Text) :
    trimmed (front ++ (line ++ back)) = trimmed line :=
  trim_append hfront hback line

/-- No padding stands in front of an exception. -/
theorem trimmed_exceptionMark_append {body : Text} (hne : body ≠ [])
    (hlast : ∀ c, body.getLast? = some c → isPadding c = false) :
    trimmed (exceptionMark ++ body) = exceptionMark ++ body := by
  refine trimmed_eq_self ?_ ?_
  · intro c hc
    obtain rfl : '@' = c := Option.some.inj hc
    rfl
  · intro c hc
    rw [List.getLast?_append_of_ne_nil _ hne] at hc
    exact hlast c hc

theorem holdsNoRule_eq_false (hne : rule ≠ []) (h : rule.head? ≠ some '!') :
    holdsNoRule rule = false := by
  cases rule with
  | nil => exact absurd rfl hne
  | cons c rule => simpa [holdsNoRule_cons] using h

/-- A rule that does not begin with an at sign is no exception. -/
theorem isPrefixOf?_exceptionMark_eq_none (h : rule.head? ≠ some '@') :
    List.isPrefixOf? exceptionMark rule = none :=
  isPrefixOf?_cons_of_head?_ne h ['@']

theorem routed_exceptionMark_append (body : Text) :
    routed (exceptionMark ++ body) = (.direct, body) := by
  rw [routed, isPrefixOf?_append]

theorem routed_of_head?_ne (h : rule.head? ≠ some '@') : routed rule = (.proxy, rule) := by
  rw [routed, isPrefixOf?_exceptionMark_eq_none h]

/-- The route of a line, unless it is ignored. -/
def routeOfLine? (line : Text) : Option Route :=
  if holdsNoRule (trimmed line) then none else some (routed (trimmed line)).1

end PacRules.Rule
