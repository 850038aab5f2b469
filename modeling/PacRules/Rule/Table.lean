import PacRules.Rule.Pattern

/-!
# Rule tables

The patterns of a source in four lists, by route and form, each in the order of the lines.
Nothing is sorted out: a line given twice is there twice.
-/

namespace PacRules.Rule

open PacRules.Text

/-- Four lists of patterns. -/
structure RuleTable where
  directRegexp : List Text := []
  directWildcard : List Text := []
  proxyRegexp : List Text := []
  proxyWildcard : List Text := []
  deriving DecidableEq

namespace RuleTable

def list (table : RuleTable) : Route → Form → List Text
  | .direct, .regexp => table.directRegexp
  | .direct, .wildcard => table.directWildcard
  | .proxy, .regexp => table.proxyRegexp
  | .proxy, .wildcard => table.proxyWildcard

def push (table : RuleTable) (p : Pattern) : RuleTable :=
  match p.route, p.form with
  | .direct, .regexp => { table with directRegexp := table.directRegexp ++ [p.text] }
  | .direct, .wildcard => { table with directWildcard := table.directWildcard ++ [p.text] }
  | .proxy, .regexp => { table with proxyRegexp := table.proxyRegexp ++ [p.text] }
  | .proxy, .wildcard => { table with proxyWildcard := table.proxyWildcard ++ [p.text] }

/-- A pushed pattern comes last in its own list and leaves the others as they are. -/
theorem list_push (table : RuleTable) (p : Pattern) (route : Route) (form : Form) :
    (table.push p).list route form =
      table.list route form ++ if p.route = route ∧ p.form = form then [p.text] else [] := by
  rcases p with ⟨r, f, text⟩
  cases r <;> cases f <;> cases route <;> cases form <;> simp [push, list]

def size (table : RuleTable) : Nat :=
  table.directRegexp.length + table.directWildcard.length + table.proxyRegexp.length +
    table.proxyWildcard.length

theorem size_push (table : RuleTable) (p : Pattern) : (table.push p).size = table.size + 1 := by
  rcases p with ⟨r, f, text⟩
  cases r <;> cases f <;> simp [push, size] <;> omega

def isEmpty (table : RuleTable) : Bool := table.size = 0

/-- The four lists in the order in which a script reads them. -/
def lists (table : RuleTable) : List (List Text) :=
  [table.directRegexp, table.directWildcard, table.proxyRegexp, table.proxyWildcard]

end RuleTable

/-- A source in the course of reading: its table, and how many lines were read and ignored. -/
structure TableReading where
  table : RuleTable := {}
  lines : Nat := 0
  ignored : Nat := 0

namespace TableReading

def read (r : TableReading) (line : Text) : TableReading :=
  match Pattern.ofLine? line with
  | some p => { r with table := r.table.push p, lines := r.lines + 1 }
  | none => { r with lines := r.lines + 1, ignored := r.ignored + 1 }

def ofLines (lines : List Text) : TableReading := lines.foldl read {}

def patterns (r : TableReading) : Nat := r.table.size

end TableReading

def RuleTable.ofLines (lines : List Text) : RuleTable := (TableReading.ofLines lines).table

end PacRules.Rule
