import PacRules.Suffix.Rules

/-!
# The prevailing rule

Which rule decides about a host, and what it says, without a word on how the rule is found. A
rule matches a host by the host's last labels: a plain rule by as many as it has, an exception
too, and a wildcard rule by one more than stand behind its asterisk. The matching rule with the
most labels prevails, and of two with equally many an exception.
-/

namespace PacRules.Suffix

open PacRules.Text

/-- The kinds of rules. -/
inductive RuleKind where
  | exact
  | wildcard
  | exception
  deriving DecidableEq

namespace SuffixRules

/-- `Matches rules labels kind n`: a rule of the kind that has `n` labels matches a host of the
given labels. -/
inductive Matches (rules : SuffixRules) (labels : List Text) : RuleKind → Nat → Prop where
  | exact {n : Nat} : 0 < n → n ≤ labels.length → lastLabels n labels ∈ rules.exact →
      Matches rules labels .exact n
  | wildcard {n : Nat} : 0 < n → n + 1 ≤ labels.length → lastLabels n labels ∈ rules.wildcard →
      Matches rules labels .wildcard (n + 1)
  | exception {n : Nat} : 0 < n → n ≤ labels.length → lastLabels n labels ∈ rules.exception →
      Matches rules labels .exception n

/-- `Prevails rules labels kind n`: of the rules that match, one of the kind with `n` labels
decides. -/
def Prevails (rules : SuffixRules) (labels : List Text) (kind : RuleKind) (n : Nat) : Prop :=
  Matches rules labels kind n ∧
    ∀ other size, Matches rules labels other size →
      size < n ∨ size = n ∧ (kind = .exception ∨ other ≠ .exception)

/-- `Registrable rules labels answer`: the registrable domain of a host of the given labels, or
that it has none. -/
inductive Registrable (rules : SuffixRules) (labels : List Text) : Option Text → Prop where
  /-- a single label has none -/
  | single : labels.length ≤ 1 → Registrable rules labels none
  /-- a name that is excepted is registrable itself -/
  | excepted {n : Nat} : 2 ≤ labels.length → Prevails rules labels .exception n →
      Registrable rules labels (some (lastLabels n labels))
  /-- a public suffix with one more label -/
  | below {kind : RuleKind} {n : Nat} : 2 ≤ labels.length → kind ≠ .exception →
      Prevails rules labels kind n → n < labels.length →
      Registrable rules labels (some (lastLabels (n + 1) labels))
  /-- a public suffix has none -/
  | suffix {kind : RuleKind} : 2 ≤ labels.length → kind ≠ .exception →
      Prevails rules labels kind labels.length → Registrable rules labels none
  /-- where no rule matches, the last label is the public suffix -/
  | unlisted : 2 ≤ labels.length → (∀ kind n, ¬Matches rules labels kind n) →
      Registrable rules labels (some (lastLabels 2 labels))

variable {rules : SuffixRules} {labels : List Text}

/-- A rule has a label, and no more labels than the host. -/
theorem Matches.size_range {kind : RuleKind} {n : Nat} (h : Matches rules labels kind n) :
    0 < n ∧ n ≤ labels.length := by
  cases h with
  | exact hn hle => exact ⟨hn, hle⟩
  | wildcard _ hle => exact ⟨Nat.succ_pos _, hle⟩
  | exception hn hle => exact ⟨hn, hle⟩

theorem Prevails.size_unique {kind other : RuleKind} {n size : Nat}
    (h : Prevails rules labels kind n) (h' : Prevails rules labels other size) : n = size := by
  have hle := h.2 other size h'.1
  have hge := h'.2 kind n h.1
  omega

/-- An exception does not prevail beside a rule of another kind. -/
theorem Prevails.exception_iff {kind other : RuleKind} {n size : Nat}
    (h : Prevails rules labels kind n) (h' : Prevails rules labels other size) :
    kind = .exception ↔ other = .exception := by
  have hsize := h.size_unique h'
  constructor
  · intro hk
    rcases h'.2 kind n h.1 with hlt | ⟨_, ho | hk'⟩
    · omega
    · exact ho
    · exact absurd hk hk'
  · intro ho
    rcases h.2 other size h'.1 with hlt | ⟨_, hk | ho'⟩
    · omega
    · exact hk
    · exact absurd ho ho'

end SuffixRules

end PacRules.Suffix
