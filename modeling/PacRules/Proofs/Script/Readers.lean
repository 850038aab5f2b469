import PacRules.Proofs.Domain.Tally
import PacRules.Proofs.Rule.Line
import PacRules.Proofs.Script.Sources

/-!
# The two readers of a rule line

A rule line is read as a pattern for whole addresses, or for the domains that it targets. The two
readers part ways only behind the mark of an exception: both take the line without its padding,
pass over the same lines and send a rule on the same route. So the rules that are counted in one
reading of two sources are as many as the patterns in the tables of the other.
-/

namespace PacRules.Rule

open PacRules.Text

theorem Pattern.map_route_ofLine? (line : Text) :
    (Pattern.ofLine? line).map Pattern.route = routeOfLine? line := by
  rw [Pattern.ofLine?, routeOfLine?]
  split
  · rfl
  · rfl

end PacRules.Rule

namespace PacRules.Domain

open PacRules.Text PacRules.Rule PacRules.Suffix

theorem map_fst_ofLine? (resolve : Resolver) (line : Text) :
    (ofLine? resolve line).map Prod.fst = routeOfLine? line := by
  rw [ofLine?, routeOfLine?]
  split
  · rfl
  · cases hmark : List.isPrefixOf? exceptionMark (trimmed line) with
    | some body =>
        simp only [routed, hmark]
        rfl
    | none =>
        simp only [routed, hmark]
        split
        · rfl
        · rfl

end PacRules.Domain

namespace PacRules.Script

open PacRules.Text PacRules.Rule PacRules.Domain PacRules.Suffix

/-! ### How many rules there are -/

theorem patterns_ofLines (source : List Text) :
    (TableReading.ofLines source).patterns = source.countP holdsRule := by
  have hholds := TableReading.holds_ofLines source
  have hparted := List.length_eq_countP_add_countP (l := source)
    fun line => holdsNoRule (trimmed line)
  have hrules : source.countP holdsRule =
      source.countP fun line => ¬holdsNoRule (trimmed line) := by
    refine List.countP_congr ?_
    intro line _
    simp [holdsRule]
  have hadd := hholds.lines_eq_add
  rw [hholds.lines_eq, hholds.ignored_eq, hparted] at hadd
  rw [hrules]
  omega

theorem isSome_ofLine? (resolve : Resolver) (line : Text) :
    (Domain.ofLine? resolve line).isSome = holdsRule line := by
  have hnone := Domain.ofLine?_eq_none_iff resolve line
  cases hline : Domain.ofLine? resolve line with
  | none => simp [holdsRule, hnone.1 hline]
  | some named =>
      have hrule : holdsNoRule (trimmed line) = false := by
        simpa [hline] using hnone
      simp [holdsRule, hrule]

theorem rules_ofLines (resolve : Resolver) (user list : List Text) :
    (DomainReading.ofLines resolve user list).rules = (user ++ list).countP holdsRule := by
  rw [DomainReading.rules_ofLines]
  simp only [isSome_ofLine?]

/-- Both readers find the same rule in a line whatever padding stands around it. They pass over the
same lines and send a line on the same route. The rules that the reading for domains counts are as
many as the patterns of both sources, whether each has a table or they share one. -/
theorem readers_agree (resolve : Resolver) :
    (∀ front line back : Text, (∀ c ∈ front, isPadding c = true) →
      (∀ c ∈ back, isPadding c = true) →
      Pattern.ofLine? (front ++ (line ++ back)) = Pattern.ofLine? line ∧
        Domain.ofLine? resolve (front ++ (line ++ back)) = Domain.ofLine? resolve line) ∧
    (∀ line, Pattern.ofLine? line = none ↔ Domain.ofLine? resolve line = none) ∧
    (∀ line, (Pattern.ofLine? line).map Pattern.route =
      (Domain.ofLine? resolve line).map Prod.fst) ∧
    ∀ user list : List Text,
      (DomainReading.ofLines resolve user list).tally.rules =
        (TableReading.ofLines user).patterns + (TableReading.ofLines list).patterns ∧
      (DomainReading.ofLines resolve user list).tally.rules =
        (TableReading.ofLines (user ++ list)).patterns := by
  refine ⟨?_, ?_, ?_, ?_⟩
  · intro front line back hfront hback
    have htrimmed := trimmed_append hfront hback line
    constructor
    · rw [Pattern.ofLine?, Pattern.ofLine?, htrimmed]
    · rw [Domain.ofLine?, Domain.ofLine?, htrimmed]
  · intro line
    rw [Pattern.ofLine?_eq_none_iff, Domain.ofLine?_eq_none_iff]
  · intro line
    rw [Pattern.map_route_ofLine?, Domain.map_fst_ofLine?]
  · intro user list
    have hrules : (DomainReading.ofLines resolve user list).tally.rules =
        (user ++ list).countP holdsRule := rules_ofLines resolve user list
    rw [hrules, patterns_ofLines, patterns_ofLines, patterns_ofLines, List.countP_append]
    exact ⟨rfl, rfl⟩

/-- Quotes and blanks of several kinds around an exception. -/
theorem readers_agree_quoted :
    (∀ c ∈ "\u3000'\t\"".toList, isPadding c = true) ∧ (∀ c ∈ "'\r ".toList, isPadding c = true) ∧
    Pattern.ofLine? "\u3000'\t\"@@||a.com'\r ".toList = Pattern.ofLine? "@@||a.com".toList ∧
    Domain.ofLine? (SuffixRules.lookup {}) "\u3000'\t\"@@||a.com'\r ".toList =
      Domain.ofLine? (SuffixRules.lookup {}) "@@||a.com".toList := by
  have hfront : ∀ c ∈ "\u3000'\t\"".toList, isPadding c = true := List.all_eq_true.1 rfl
  have hback : ∀ c ∈ "'\r ".toList, isPadding c = true := List.all_eq_true.1 rfl
  exact ⟨hfront, hback,
    (readers_agree (SuffixRules.lookup {})).1 _ "@@||a.com".toList _ hfront hback⟩

end PacRules.Script
