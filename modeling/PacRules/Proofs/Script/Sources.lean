import Mathlib.Data.List.Basic
import PacRules.Proofs.Rule.Partition
import PacRules.Proofs.Text.Lines
import PacRules.Script.Rules

/-!
# What a script takes from its sources

Both readers of rules begin alike: a line that is blank or a comment once its padding is gone is
no rule. So a script depends on the other lines alone. Line ends are a case of this, since of the
lines of a text only empty ones can be lost by the choice of their ends.
-/

namespace PacRules.Domain

open PacRules.Rule

/-- A line is passed over exactly if it is blank or a comment. -/
theorem ofLine?_eq_none_iff (resolve : Suffix.Resolver) (line : Text) :
    ofLine? resolve line = none ↔ holdsNoRule (trimmed line) = true := by
  rw [ofLine?]
  cases holdsNoRule (trimmed line) with
  | true => simp
  | false =>
      simp only [Bool.false_eq_true, if_false, iff_false]
      split
      · simp
      · split <;> simp

end PacRules.Domain

namespace PacRules.Script

open PacRules.Text PacRules.Rule PacRules.Domain PacRules.Suffix

/-- Whether a line is neither blank nor a comment. -/
def holdsRule (line : Text) : Bool := !holdsNoRule (trimmed line)

theorem filterMap_filter_holdsRule (source : List Text) :
    (source.filter holdsRule).filterMap Pattern.ofLine? = source.filterMap Pattern.ofLine? := by
  rw [List.filterMap_filter]
  refine List.filterMap_congr ?_
  intro line _
  cases hrule : holdsNoRule (trimmed line) with
  | true => simp [holdsRule, hrule, (Pattern.ofLine?_eq_none_iff line).2 hrule]
  | false => simp [holdsRule, hrule]

theorem foldl_read_filter_holdsRule (resolve : Resolver) (r : DomainReading)
    (source : List Text) :
    (source.filter holdsRule).foldl (DomainReading.read resolve) r =
      source.foldl (DomainReading.read resolve) r := by
  rw [List.foldl_filter]
  refine List.foldl_ext _ _ r ?_
  intro r line _
  cases hrule : holdsNoRule (trimmed line) with
  | true =>
      have hnone := (Domain.ofLine?_eq_none_iff resolve line).2 hrule
      simp [holdsRule, hrule, DomainReading.read, hnone]
  | false => simp [holdsRule, hrule]

namespace ScriptRules

/-- Blank lines and comments make no difference to a script, whatever its mode. -/
theorem ofLines_filter (mode : Mode) (resolve : Resolver) (user list : List Text) :
    ofLines mode resolve (user.filter holdsRule) (list.filter holdsRule) =
      ofLines mode resolve user list := by
  cases mode with
  | standard =>
      have htable : ∀ source : List Text,
          RuleTable.ofLines (source.filter holdsRule) = RuleTable.ofLines source := fun source =>
        RuleTable.ofLines_eq_of_patterns (filterMap_filter_holdsRule source)
      rw [ofLines, ofLines, htable, htable]
  | precise =>
      rw [ofLines, ofLines, RoutedDomains.ofLines, RoutedDomains.ofLines, DomainReading.ofLines,
        DomainReading.ofLines, foldl_read_filter_holdsRule, foldl_read_filter_holdsRule]

/-- Sources with the same rules, line by line, make the same script. -/
theorem ofLines_eq_of_filter_eq {user user' list list' : List Text}
    (huser : user.filter holdsRule = user'.filter holdsRule)
    (hlist : list.filter holdsRule = list'.filter holdsRule) (mode : Mode) (resolve : Resolver) :
    ofLines mode resolve user list = ofLines mode resolve user' list' := by
  rw [← ofLines_filter, huser, hlist, ofLines_filter]

/-- A line in which no reader finds a rule may be left out. -/
theorem ofLines_cons {line : Text} (hpattern : Pattern.ofLine? line = none) (mode : Mode)
    (resolve : Resolver) (user list : List Text) :
    ofLines mode resolve user (line :: list) = ofLines mode resolve user list := by
  have hrule := (Pattern.ofLine?_eq_none_iff line).1 hpattern
  refine ofLines_eq_of_filter_eq rfl ?_ mode resolve
  exact List.filter_cons_of_neg (by simp [holdsRule, hrule])

/-- The texts of two sources make the script that the sources themselves make, whatever end stands
behind each of their lines and whether or not one stands behind the last: no choice and no mixture
of line ends changes, joins, parts or loses a rule. -/
theorem ofLines_ended (mode : Mode) (resolve : Resolver) {user list : List (Text × LineEnd)}
    {lastOfUser lastOfList : Option Text}
    (huser : ∀ line ∈ unended user lastOfUser, IsUnbroken line)
    (hlist : ∀ line ∈ unended list lastOfList, IsUnbroken line) :
    ofLines mode resolve (lines (ended user lastOfUser)) (lines (ended list lastOfList)) =
      ofLines mode resolve (unended user lastOfUser) (unended list lastOfList) := by
  have hempty : holdsRule [] = false := rfl
  exact ofLines_eq_of_filter_eq (filter_lines_ended hempty huser) (filter_lines_ended hempty hlist)
    mode resolve

/-- Behind a carriage return the line feed of an empty line is lost, but no rule. -/
theorem ofLines_ended_mixed :
    (∀ line ∈ unended [("||a.com".toList, .carriageReturn), ([], .lineFeed),
      ("@@||b.org".toList, .paragraphSeparator)] (some "c.net".toList), IsUnbroken line) ∧
    (∀ line ∈ unended [("! none".toList, .pair)] none, IsUnbroken line) ∧
    lines "||a.com\r\n@@||b.org\u2029c.net".toList =
      ["||a.com".toList, "@@||b.org".toList, "c.net".toList] ∧
    ∀ mode, ofLines mode (SuffixRules.lookup {})
        (lines "||a.com\r\n@@||b.org\u2029c.net".toList) (lines "! none\r\n".toList) =
      ofLines mode (SuffixRules.lookup {})
        ["||a.com".toList, [], "@@||b.org".toList, "c.net".toList] ["! none".toList] := by
  have huser : ∀ line ∈ unended [("||a.com".toList, .carriageReturn), ([], .lineFeed),
      ("@@||b.org".toList, .paragraphSeparator)] (some "c.net".toList), IsUnbroken line := by
    decide
  have hlist : ∀ line ∈ unended [("! none".toList, .pair)] none, IsUnbroken line := by decide
  refine ⟨huser, hlist, by decide, ?_⟩
  intro mode
  exact ofLines_ended mode (SuffixRules.lookup {}) huser hlist

end ScriptRules

end PacRules.Script
