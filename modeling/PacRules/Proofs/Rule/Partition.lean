import PacRules.Rule.Table

/-!
# How a source is parted

The patterns of a source are dealt out to four lists, one for each route and form. The invariant
`TableReading.Holds` says what a reading holds after the lines read so far: each list has the
patterns for its route and form in the order of their lines, and every line either gave a pattern
or was counted as ignored. Reading one more line keeps it, and so does reading a source.
-/

namespace PacRules.Rule

open PacRules.Text

/-- A line gives no pattern exactly if it is blank or a comment. -/
theorem Pattern.ofLine?_eq_none_iff (line : Text) :
    Pattern.ofLine? line = none ↔ holdsNoRule (trimmed line) = true := by
  rw [Pattern.ofLine?]
  split
  · next hnone => simp [hnone]
  · next hrule => simp [hrule]

/-- The texts of the patterns for a route and form, in their order. -/
def textsFor (route : Route) (form : Form) (patterns : List Pattern) : List Text :=
  (patterns.filter fun p => p.route = route ∧ p.form = form).map Pattern.text

theorem textsFor_append (route : Route) (form : Form) (patterns later : List Pattern) :
    textsFor route form (patterns ++ later) =
      textsFor route form patterns ++ textsFor route form later := by
  rw [textsFor, List.filter_append, List.map_append]
  rfl

theorem textsFor_singleton (route : Route) (form : Form) (p : Pattern) :
    textsFor route form [p] = if p.route = route ∧ p.form = form then [p.text] else [] := by
  by_cases hp : p.route = route ∧ p.form = form
  · simp [textsFor, hp]
  · simp [textsFor, hp]

/-- A table is determined by its lists. -/
theorem RuleTable.eq_of_list_eq {table table' : RuleTable}
    (h : ∀ route form, table.list route form = table'.list route form) : table = table' := by
  have hdirectRegexp := h .direct .regexp
  have hdirectWildcard := h .direct .wildcard
  have hproxyRegexp := h .proxy .regexp
  have hproxyWildcard := h .proxy .wildcard
  cases table
  cases table'
  simp only [list] at hdirectRegexp hdirectWildcard hproxyRegexp hproxyWildcard
  rw [hdirectRegexp, hdirectWildcard, hproxyRegexp, hproxyWildcard]

namespace TableReading

/-- What a reading holds once the given lines have been read. -/
structure Holds (lines : List Text) (r : TableReading) : Prop where
  list_eq : ∀ route form,
    r.table.list route form = textsFor route form (lines.filterMap Pattern.ofLine?)
  lines_eq : r.lines = lines.length
  ignored_eq : r.ignored = lines.countP fun line => holdsNoRule (trimmed line)
  lines_eq_add : r.lines = r.ignored + r.patterns

theorem holds_nil : Holds [] {} where
  list_eq route form := by cases route <;> cases form <;> rfl
  lines_eq := rfl
  ignored_eq := rfl
  lines_eq_add := rfl

variable {lines : List Text} {r : TableReading}

/-- One more line. -/
theorem Holds.read (h : Holds lines r) (line : Text) : Holds (lines ++ [line]) (r.read line) := by
  obtain ⟨hlist, hlines, hignored, hadd⟩ := h
  have hnone := Pattern.ofLine?_eq_none_iff line
  unfold TableReading.read
  cases hline : Pattern.ofLine? line with
  | none =>
      have hrule := hnone.1 hline
      refine ⟨?_, ?_, ?_, ?_⟩
      · intro route form
        simp [hlist, List.filterMap_append, hline]
      · simp [hlines]
      · simp [hignored, List.countP_append, hrule]
      · simp only [hadd, patterns]
        omega
  | some p =>
      have hrule : holdsNoRule (trimmed line) = false := by
        simpa [hline] using hnone
      refine ⟨?_, ?_, ?_, ?_⟩
      · intro route form
        rw [RuleTable.list_push, hlist, List.filterMap_append, textsFor_append,
          ← textsFor_singleton]
        simp [hline]
      · simp [hlines]
      · simp [hignored, List.countP_append, hrule]
      · simp only [hadd, patterns, RuleTable.size_push]
        omega

/-- A whole source. -/
theorem Holds.foldl_read (h : Holds lines r) (source : List Text) :
    Holds (lines ++ source) (source.foldl TableReading.read r) := by
  induction source generalizing lines r with
  | nil => simpa using h
  | cons line source ih =>
      have hstep := ih (h.read line)
      rwa [List.append_assoc, List.singleton_append] at hstep

theorem holds_ofLines (lines : List Text) : Holds lines (ofLines lines) :=
  holds_nil.foldl_read lines

end TableReading

/-- Lines with the same patterns give the same table. -/
theorem RuleTable.ofLines_eq_of_patterns {lines lines' : List Text}
    (h : lines.filterMap Pattern.ofLine? = lines'.filterMap Pattern.ofLine?) :
    RuleTable.ofLines lines = RuleTable.ofLines lines' := by
  refine eq_of_list_eq ?_
  intro route form
  rw [ofLines, ofLines, (TableReading.holds_ofLines lines).list_eq,
    (TableReading.holds_ofLines lines').list_eq, h]

/-- The table of a source has in each of its lists the texts of the patterns for this route and
form, in the order of their lines, one for each of these lines. The lists together are as long as
the source without its blank lines and comments, which the reading counts as ignored. The lists of
one source with another behind it are those of the first with those of the second behind them. -/
theorem RuleTable.ofLines_parted (lines : List Text) :
    (∀ route form, (RuleTable.ofLines lines).list route form =
      ((lines.filterMap Pattern.ofLine?).filter fun p =>
        p.route = route ∧ p.form = form).map Pattern.text) ∧
    (∀ line, Pattern.ofLine? line = none ↔ holdsNoRule (trimmed line) = true) ∧
    (RuleTable.ofLines lines).size =
      lines.length - lines.countP (fun line => holdsNoRule (trimmed line)) ∧
    (TableReading.ofLines lines).lines = lines.length ∧
    (TableReading.ofLines lines).ignored =
      lines.countP (fun line => holdsNoRule (trimmed line)) ∧
    (TableReading.ofLines lines).lines =
      (TableReading.ofLines lines).ignored + (TableReading.ofLines lines).patterns ∧
    ∀ later route form, (RuleTable.ofLines (lines ++ later)).list route form =
      (RuleTable.ofLines lines).list route form ++
        (RuleTable.ofLines later).list route form := by
  have h := TableReading.holds_ofLines lines
  refine ⟨h.list_eq, Pattern.ofLine?_eq_none_iff, ?_, h.lines_eq, h.ignored_eq, h.lines_eq_add, ?_⟩
  · have hadd := h.lines_eq_add
    rw [h.lines_eq, h.ignored_eq] at hadd
    rw [hadd, Nat.add_sub_cancel_left]
    rfl
  · intro later route form
    have hlater := TableReading.holds_ofLines later
    have hboth := TableReading.holds_ofLines (lines ++ later)
    rw [ofLines, ofLines, ofLines, hboth.list_eq, h.list_eq, hlater.list_eq,
      List.filterMap_append, textsFor_append]

end PacRules.Rule
