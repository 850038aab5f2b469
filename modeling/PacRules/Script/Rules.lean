import PacRules.Domain.Routed
import PacRules.Json.Nested
import PacRules.Rule.Table

/-!
# The rules of a script

The rules of the user and of a list, brought into the form that a script reads: a table for
each source, the user's first, or one pair of domain lists for both. A resolver has a say in
the second form only.
-/

namespace PacRules.Script

open PacRules.Text PacRules.Rule PacRules.Domain PacRules.Suffix PacRules.Json

/-- How rules are brought into a script. -/
inductive Mode where
  /-- as the patterns of each source -/
  | standard
  /-- as registrable domains -/
  | precise
  deriving DecidableEq

instance : Inhabited Mode := ⟨.standard⟩

/-- Rules in the form of either mode. -/
inductive ScriptRules where
  | standard (user list : RuleTable)
  | precise (routed : RoutedDomains)
  deriving DecidableEq

namespace ScriptRules

def mode : ScriptRules → Mode
  | standard _ _ => .standard
  | precise _ => .precise

def isEmpty : ScriptRules → Bool
  | standard user list => user.isEmpty && list.isEmpty
  | precise routed => routed.isEmpty

def ofLines (mode : Mode) (resolve : Resolver) (user list : List Text) : ScriptRules :=
  match mode with
  | .standard => standard (RuleTable.ofLines user) (RuleTable.ofLines list)
  | .precise => precise (RoutedDomains.ofLines resolve user list)

def nested : ScriptRules → Nested
  | standard user list =>
    .list ([user, list].map fun table => .list (table.lists.map Nested.ofTexts))
  | precise routed => .list (routed.lists.map Nested.ofTexts)

def layout (compress : Bool) : Layout := if compress then .compact else .indented

def json (compress : Bool) (rules : ScriptRules) : Text := rules.nested.write (layout compress) 0

end ScriptRules

end PacRules.Script
