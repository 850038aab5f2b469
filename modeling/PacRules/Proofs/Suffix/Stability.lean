import Mathlib.Data.List.Infix
import PacRules.Proofs.Suffix.CommonPairs
import PacRules.Proofs.Suffix.WellFormed

/-!
# Stability of the registrable domain

A host and the hosts above it, which are made of its last labels, have the same registrable domain
as long as they hold it. The rule that prevails for the host has no more labels than its domain, so
it matches these hosts too, and no rule matches them that does not match the host. A rule that is
no exception leaves the domain one more label than it has itself: so no host that holds the domain
is the public suffix of the rule.
-/

namespace PacRules.Suffix

open PacRules.Text

namespace SuffixRules

variable {rules : SuffixRules} {labels upper : List Text} {kind : RuleKind} {n : Nat}

/-! ### The rules that match a host above -/

theorem lastLabels_of_suffix (h : upper <:+ labels) (hle : n ≤ upper.length) :
    lastLabels n upper = lastLabels n labels := by
  obtain ⟨front, rfl⟩ := h
  have hlength : (front ++ upper).length - n = front.length + (upper.length - n) := by
    rw [List.length_append]
    omega
  rw [lastLabels, lastLabels, hlength, List.drop_length_add_append]

/-- The rules that match a host above are those for the host with no more labels than it has. -/
theorem matches_suffix_iff (h : upper <:+ labels) :
    Matches rules upper kind n ↔ Matches rules labels kind n ∧ n ≤ upper.length := by
  constructor
  · intro hmatch
    refine ⟨?_, hmatch.size_range.2⟩
    cases hmatch with
    | exact hpos hle hmem =>
        exact .exact hpos (hle.trans h.length_le) (lastLabels_of_suffix h hle ▸ hmem)
    | wildcard hpos hle hmem =>
        exact .wildcard hpos (hle.trans h.length_le)
          (lastLabels_of_suffix h (Nat.le_of_succ_le hle) ▸ hmem)
    | exception hpos hle hmem =>
        exact .exception hpos (hle.trans h.length_le) (lastLabels_of_suffix h hle ▸ hmem)
  · rintro ⟨hmatch, hle⟩
    cases hmatch with
    | exact hpos _ hmem => exact .exact hpos hle (lastLabels_of_suffix h hle ▸ hmem)
    | wildcard hpos _ hmem =>
        exact .wildcard hpos hle (lastLabels_of_suffix h (Nat.le_of_succ_le hle) ▸ hmem)
    | exception hpos _ hmem => exact .exception hpos hle (lastLabels_of_suffix h hle ▸ hmem)

theorem Prevails.of_suffix (hprevails : Prevails rules labels kind n) (h : upper <:+ labels)
    (hle : n ≤ upper.length) : Prevails rules upper kind n := by
  refine ⟨(matches_suffix_iff h).2 ⟨hprevails.1, hle⟩, ?_⟩
  intro other size hother
  exact hprevails.2 other size ((matches_suffix_iff h).1 hother).1

/-! ### The domain of a host above -/

variable {host domain : Text}

/-- A host above with at least the labels of the registrable domain has the same one. -/
theorem Registrable.of_suffix (hanswer : Registrable rules (List.splitOn '.' host) (some domain))
    (h : upper <:+ List.splitOn '.' host) (htwo : 2 ≤ (List.splitOn '.' domain).length)
    (hle : (List.splitOn '.' domain).length ≤ upper.length) :
    Registrable rules upper (some domain) := by
  have hupper := htwo.trans hle
  cases hanswer with
  | @excepted n _ hprevails =>
      obtain ⟨hpos, hn⟩ := hprevails.1.size_range
      rw [length_splitOn_lastLabels hpos hn] at hle
      rw [← lastLabels_of_suffix h hle]
      exact .excepted hupper (hprevails.of_suffix h hle)
  | @below kind n _ hkind hprevails hlt =>
      rw [length_splitOn_lastLabels (Nat.succ_pos n) hlt] at hle
      rw [← lastLabels_of_suffix h hle]
      exact .below hupper hkind (hprevails.of_suffix h (Nat.le_of_succ_le hle)) hle
  | unlisted htwo hnone =>
      rw [← lastLabels_of_suffix h hupper]
      refine .unlisted hupper ?_
      intro kind n hmatch
      exact hnone kind n ((matches_suffix_iff h).1 hmatch).1

/-- So it is for every set of rules, also for the common suffixes that stand in for none. -/
theorem registrable?_of_suffix {above : Text} (hanswer : rules.registrable? host = some domain)
    (hdot : '.' ∈ domain) (h : List.splitOn '.' above <:+ List.splitOn '.' host)
    (hdomain : List.splitOn '.' domain <:+ List.splitOn '.' above) :
    rules.registrable? above = some domain := by
  have htwo : 2 ≤ (List.splitOn '.' domain).length := two_le_length_splitOn hdot
  have hstable : ∀ rules' : SuffixRules, rules'.isEmpty = false →
      rules'.registrable? host = some domain → rules'.registrable? above = some domain := by
    intro rules' hrules hanswer
    have hhost := registrable?_registrable hrules host
    rw [hanswer] at hhost
    exact (registrable?_registrable hrules above).unique
      (hhost.of_suffix h htwo hdomain.length_le)
  cases hrules : rules.isEmpty with
  | false => exact hstable rules hrules hanswer
  | true =>
      rw [registrable?_of_isEmpty hrules] at hanswer ⊢
      exact hstable common isEmpty_common hanswer

end SuffixRules

/-! ### Checked hosts above -/

/-- Of a checked host the hosts above are checked as they are. -/
theorem checkedHost_of_suffix {host checked above : Text} (hchecked : checkedHost host = .ok checked)
    (h : List.splitOn '.' above <:+ List.splitOn '.' checked) : checkedHost above = .ok above := by
  obtain ⟨hexamined, hsize, herror⟩ := of_checkedHost_eq_ok hchecked
  have hlabel : ∀ label ∈ List.splitOn '.' above,
      label ≠ [] ∧ utf8Size label ≤ labelLimit ∧ ∀ c ∈ label, isLabelChar c = true :=
    fun label hmem => labelError?_eq_none_iff.1 (herror label (h.subset hmem))
  have hsuffix : above <:+ checked := by
    have hlast := intercalate_drop_suffix '.' (List.splitOn '.' checked)
      ((List.splitOn '.' checked).length - (List.splitOn '.' above).length)
    rwa [← List.suffix_iff_eq_drop.1 h, List.intercalate_splitOn,
      List.intercalate_splitOn] at hlast
  have hsame : examined above = above := by
    have hend : trimEnd (· = '.') above = above := by
      refine trimEnd_eq_self ?_
      intro c hc
      have hlast := getLast?_ne_of_splitOn fun label hmem => (hlabel label hmem).1
      simpa using ne_of_apply_ne some (hc ▸ hlast)
    rw [examined, hend]
    refine lower_eq_self ?_
    intro c hc
    have hmem := hsuffix.subset hc
    rw [hexamined, examined] at hmem
    exact isCapital_of_mem_lower hmem
  have hne : above ≠ [] := by
    rintro rfl
    exact (hlabel [] List.mem_cons_self).1 rfl
  have hfits : ¬hostLimit < utf8Size above :=
    Nat.not_lt.2 ((utf8Size_le_of_suffix hsuffix).trans hsize)
  have hnone : (List.splitOn '.' above).findSome? (labelError? above) = none :=
    List.findSome?_eq_none_iff.2 fun label hmem => labelError?_eq_none_iff.2 (hlabel label hmem)
  simp [checkedHost, hsame, hne, hfits, hnone]

namespace SuffixRules

variable {rules : SuffixRules} {host domain : Text}

theorem lookup_of_suffix {above : Text} (hanswer : rules.lookup host = .ok (some domain))
    (hdot : '.' ∈ domain) (habove : List.splitOn '.' above <:+ List.splitOn '.' (examined host))
    (hdomain : List.splitOn '.' domain <:+ List.splitOn '.' above) :
    rules.lookup above = .ok (some domain) := by
  obtain ⟨hchecked, hregistrable⟩ := of_lookup_eq_ok hanswer
  rw [lookup_of_checkedHost rules (checkedHost_of_suffix hchecked habove),
    registrable?_of_suffix hregistrable hdot habove hdomain]

/-- What has been found is found for itself. -/
theorem lookup_self (hanswer : rules.lookup host = .ok (some domain)) (hdot : '.' ∈ domain) :
    rules.lookup domain = .ok (some domain) := by
  obtain ⟨-, n, hlabels⟩ :=
    exists_splitOn_eq_drop (of_lookup_eq_ok hanswer).2 (List.ne_nil_of_mem hdot)
  exact lookup_of_suffix hanswer hdot (hlabels ▸ List.drop_suffix n _) (List.suffix_refl _)

/-- The hosts between a host and its registrable domain have the same registrable domain, whatever
the rules; so the registrable domain of a registrable domain is itself. Only a domain without a dot,
which an exception of one label gives, is left out. -/
theorem lookup_stable {rules : SuffixRules} {host domain : Text}
    (hanswer : rules.lookup host = .ok (some domain)) (hdot : '.' ∈ domain) :
    (∀ above, List.splitOn '.' above <:+ List.splitOn '.' (examined host) →
      List.splitOn '.' domain <:+ List.splitOn '.' above → rules.lookup above = .ok (some domain)) ∧
    rules.lookup domain = .ok (some domain) := by
  refine ⟨?_, lookup_self hanswer hdot⟩
  intro above habove hdomain
  exact lookup_of_suffix hanswer hdot habove hdomain

/-- A name right below a wildcard, asked for in capitals and with a dot behind it. -/
theorem lookup_stable_wildcard :
    (ofText "ck\n*.ck\n!www.ck".toList).lookup "x.A.Shop.foo.CK.".toList =
      .ok (some "shop.foo.ck".toList) ∧
    '.' ∈ "shop.foo.ck".toList ∧
    (ofText "ck\n*.ck\n!www.ck".toList).lookup "a.shop.foo.ck".toList =
      .ok (some "shop.foo.ck".toList) ∧
    (ofText "ck\n*.ck\n!www.ck".toList).lookup "shop.foo.ck".toList =
      .ok (some "shop.foo.ck".toList) := by
  have hanswer : (ofText "ck\n*.ck\n!www.ck".toList).lookup "x.A.Shop.foo.CK.".toList =
      .ok (some "shop.foo.ck".toList) := by decide
  have hdot : '.' ∈ "shop.foo.ck".toList := by decide
  have habove : List.splitOn '.' "a.shop.foo.ck".toList <:+
      List.splitOn '.' (examined "x.A.Shop.foo.CK.".toList) := ⟨["x".toList], by decide⟩
  have hdomain : List.splitOn '.' "shop.foo.ck".toList <:+
      List.splitOn '.' "a.shop.foo.ck".toList := ⟨["a".toList], by decide⟩
  obtain ⟨hstable, hidempotent⟩ := lookup_stable hanswer hdot
  exact ⟨hanswer, hdot, hstable _ habove hdomain, hidempotent⟩

end SuffixRules

end PacRules.Suffix
