import PacRules.Proofs.Suffix.Lookup

/-!
# The common suffixes as rules

Where no rules are loaded, the last two labels of a host are compared with the common suffixes of
two labels, and no suffix is scanned. The answers are nevertheless those of rules: of the common
suffixes taken for plain rules. Such a rule can match in one place only, so it prevails wherever it
matches, and elsewhere the last label is the public suffix.
-/

namespace PacRules.Suffix

open PacRules.Text

namespace SuffixRules

/-- The common suffixes as plain rules. -/
def common : SuffixRules := { exact := commonPairs }

variable {rules : SuffixRules} {host : Text}

theorem isEmpty_common : common.isEmpty = false := rfl

theorem length_splitOn_of_mem_commonPairs {name : Text} (h : name ∈ commonPairs) :
    (List.splitOn '.' name).length = 2 := by
  have hall : (commonPairs.all fun name => (List.splitOn '.' name).length = 2) = true := by decide
  simpa using List.all_eq_true.1 hall name h

/-- Of the common suffixes only the one made of the last two labels can match. -/
theorem matches_common_iff {kind : RuleKind} {n : Nat} :
    Matches common (List.splitOn '.' host) kind n ↔
      kind = .exact ∧ n = 2 ∧ 2 ≤ (List.splitOn '.' host).length ∧
        lastLabels 2 (List.splitOn '.' host) ∈ commonPairs := by
  constructor
  · intro hmatch
    cases hmatch with
    | exact hpos hle hmem =>
        have hmem : lastLabels n (List.splitOn '.' host) ∈ commonPairs := hmem
        have hlength := length_splitOn_lastLabels hpos hle
        rw [length_splitOn_of_mem_commonPairs hmem] at hlength
        subst hlength
        exact ⟨rfl, rfl, hle, hmem⟩
    | wildcard _ _ hmem => cases hmem
    | exception _ _ hmem => cases hmem
  · rintro ⟨rfl, rfl, hle, hmem⟩
    exact .exact Nat.two_pos hle hmem

theorem prevails_common (htwo : 2 ≤ (List.splitOn '.' host).length)
    (hmem : lastLabels 2 (List.splitOn '.' host) ∈ commonPairs) :
    Prevails common (List.splitOn '.' host) .exact 2 := by
  refine ⟨matches_common_iff.2 ⟨rfl, rfl, htwo, hmem⟩, ?_⟩
  intro other size hother
  obtain ⟨rfl, rfl, -⟩ := matches_common_iff.1 hother
  exact .inr ⟨rfl, .inr (by simp)⟩

/-- The comparison of the last two labels gives what the prevailing common suffix says. -/
theorem registrable_fallback? (htwo : 2 ≤ (List.splitOn '.' host).length) :
    Registrable common (List.splitOn '.' host) (fallback? (List.splitOn '.' host)) := by
  unfold fallback?
  split
  · next hmem =>
      have hprevails := prevails_common htwo (List.contains_iff_mem.1 hmem)
      split
      · next hlength => exact .suffix htwo (by simp) (hlength ▸ hprevails)
      · next hlength => exact .below htwo (by simp) hprevails (by omega)
  · next hmem =>
      refine .unlisted htwo ?_
      intro kind n hmatch
      exact hmem (List.contains_iff_mem.2 (matches_common_iff.1 hmatch).2.2.2)

/-- Without rules a host has the registrable domain that the common suffixes give it. -/
theorem registrable?_of_isEmpty (h : rules.isEmpty = true) :
    rules.registrable? = common.registrable? := by
  funext host
  by_cases hone : (List.splitOn '.' host).length ≤ 1
  · simp [registrable?, hone]
  · have hfallback : rules.registrable? host = fallback? (List.splitOn '.' host) := by
      simp [registrable?, hone, h]
    rw [hfallback]
    exact (registrable_fallback? (Nat.lt_of_not_le hone)).unique
      (registrable?_registrable isEmpty_common host)

theorem lookup_of_isEmpty (h : rules.isEmpty = true) : rules.lookup = common.lookup := by
  rw [lookup, lookup, registrable?_of_isEmpty h]

/-! ### The common suffixes, listed -/

theorem mem_names_common (kind : RuleKind) (name : Text) :
    name ∈ common.names kind ↔ ∃ rule ∈ commonPairs, sorted rule = (kind, name) := by
  have hall : (commonPairs.all fun rule => sorted rule = (.exact, rule)) = true := by decide
  have hsorted : ∀ rule ∈ commonPairs, sorted rule = (.exact, rule) := by
    intro rule hrule
    simpa using List.all_eq_true.1 hall rule hrule
  constructor
  · intro hname
    cases kind with
    | exact => exact ⟨name, hname, hsorted name hname⟩
    | wildcard => cases hname
    | exception => cases hname
  · rintro ⟨rule, hrule, heq⟩
    obtain ⟨rfl, rfl⟩ := Prod.mk.inj ((hsorted rule hrule).symm.trans heq)
    exact hrule

/-- A text whose lines list the common suffixes, in any layout, is read as these rules. -/
theorem sameNames_ofText_common {t : Text}
    (h : (List.splitOn '\n' t).filterMap ruleOfLine? = commonPairs) :
    SameNames (ofText t) common := by
  intro kind name
  rw [mem_names_ofText, h, mem_names_common]

theorem filterMap_ruleOfLine?_commonPairs :
    commonPairs.filterMap ruleOfLine? = commonPairs := by
  decide

theorem lineFeed_not_mem_commonPairs : ∀ rule ∈ commonPairs, '\n' ∉ rule := by
  have hall : (commonPairs.all fun rule => !List.contains rule '\n') = true := by decide
  intro rule hrule
  simpa using List.all_eq_true.1 hall rule hrule

/-- Every host has one answer, be it a domain, none or an error, without rules and with the common
suffixes for rules, which are written one a line, with or without a last line feed. -/
theorem lookup_listed_commonPairs (host : Text) :
    (ofText (List.intercalate ['\n'] commonPairs)).lookup host = ({} : SuffixRules).lookup host ∧
      (ofText (List.intercalate ['\n'] commonPairs ++ ['\n'])).lookup host =
        ({} : SuffixRules).lookup host := by
  have hlines : List.splitOn '\n' (List.intercalate ['\n'] commonPairs) = commonPairs :=
    List.splitOn_intercalate '\n' lineFeed_not_mem_commonPairs (by decide)
  have hempty : ({} : SuffixRules).lookup = common.lookup := lookup_of_isEmpty rfl
  constructor
  · have hnames : SameNames (ofText (List.intercalate ['\n'] commonPairs)) common := by
      refine sameNames_ofText_common ?_
      rw [hlines, filterMap_ruleOfLine?_commonPairs]
    rw [hnames.lookup_eq, hempty]
  · have hnames : SameNames (ofText (List.intercalate ['\n'] commonPairs ++ ['\n'])) common := by
      refine sameNames_ofText_common ?_
      rw [List.splitOn_append_cons_self, hlines, List.filterMap_append,
        filterMap_ruleOfLine?_commonPairs]
      rfl
    rw [hnames.lookup_eq, hempty]

end SuffixRules

end PacRules.Suffix
