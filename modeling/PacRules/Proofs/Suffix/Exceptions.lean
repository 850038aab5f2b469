import PacRules.Proofs.Suffix.Lookup

/-!
# Exceptions beside longer rules

An exception says that a name is registrable itself. It decides about the hosts below this name as
long as no rule with more labels matches, and then no other kind of rule does. But the rules are
compared by their labels first, so a plain or a wildcard rule for something below the name takes
the decision away from the exception.
-/

namespace PacRules.Suffix

open PacRules.Text

namespace SuffixRules

variable {rules : SuffixRules} {labels : List Text} {host checked : Text} {n : Nat}

/-- Of the exceptions that match, one with `n` labels is the longest. -/
def IsLongestException (rules : SuffixRules) (labels : List Text) (n : Nat) : Prop :=
  Matches rules labels .exception n ∧
    ∀ size, Matches rules labels .exception size → size ≤ n

/-- Where a rule matches there are rules. -/
theorem isEmpty_of_matches {kind : RuleKind} (h : Matches rules labels kind n) :
    rules.isEmpty = false := by
  have hname : ∃ name kind, name ∈ rules.names kind := by
    cases h with
    | exact _ _ hmem => exact ⟨_, .exact, hmem⟩
    | wildcard _ _ hmem => exact ⟨_, .wildcard, hmem⟩
    | exception _ _ hmem => exact ⟨_, .exception, hmem⟩
  obtain ⟨name, kind, hmem⟩ := hname
  rw [Bool.eq_false_iff]
  intro hempty
  exact isEmpty_iff.1 hempty kind name hmem

theorem lastLabels_inj {size : Nat} (hpos : 0 < n) (hle : n ≤ (List.splitOn '.' host).length)
    (hpos' : 0 < size) (hle' : size ≤ (List.splitOn '.' host).length)
    (h : lastLabels n (List.splitOn '.' host) = lastLabels size (List.splitOn '.' host)) :
    n = size := by
  rw [← length_splitOn_lastLabels hpos hle, h, length_splitOn_lastLabels hpos' hle']

/-- The name of an exception is the registrable domain only where no longer rule matches. -/
theorem Registrable.noLonger (hmatch : Matches rules (List.splitOn '.' host) .exception n)
    (h : Registrable rules (List.splitOn '.' host) (some (lastLabels n (List.splitOn '.' host)))) :
    NoLonger rules (List.splitOn '.' host) n := by
  obtain ⟨hpos, hle⟩ := hmatch.size_range
  intro kind size hother
  generalize hdomain : lastLabels n (List.splitOn '.' host) = domain at h
  cases h with
  | excepted _ hprevails =>
      obtain ⟨hpos', hle'⟩ := hprevails.1.size_range
      obtain rfl := lastLabels_inj hpos hle hpos' hle' hdomain
      have hcompared := hprevails.2 kind size hother
      omega
  | below _ _ hprevails hlt =>
      -- the domain would have a label more than its rule, and the exception as many as it
      have hsize := lastLabels_inj hpos hle (Nat.succ_pos _) hlt hdomain
      have hcompared := hprevails.2 .exception n hmatch
      omega
  | unlisted _ hnone => exact absurd hmatch (hnone _ _)

/-- The longest exception that matches a host gives the registrable domain exactly if no rule with
more labels matches. Otherwise the longer rule gives it, or the host is the public suffix of this
rule and has none. -/
theorem lookup_exception_iff (hhost : checkedHost host = .ok checked)
    (htwo : 2 ≤ (List.splitOn '.' checked).length)
    (hlongest : IsLongestException rules (List.splitOn '.' checked) n) :
    (rules.lookup host = .ok (some (lastLabels n (List.splitOn '.' checked))) ↔
      NoLonger rules (List.splitOn '.' checked) n) ∧
    ∀ kind size, n < size → Prevails rules (List.splitOn '.' checked) kind size →
      kind ≠ .exception ∧ rules.lookup host =
        .ok (if size < (List.splitOn '.' checked).length then
          some (lastLabels (size + 1) (List.splitOn '.' checked)) else none) := by
  obtain ⟨hmatch, hmost⟩ := hlongest
  have hanswer := registrable?_registrable (isEmpty_of_matches hmatch) checked
  rw [lookup_of_checkedHost rules hhost]
  refine ⟨⟨?_, ?_⟩, ?_⟩
  · intro h
    rw [Except.ok.inj h] at hanswer
    exact hanswer.noLonger hmatch
  · intro hlonger
    have hexcepted := Registrable.excepted htwo (hlonger.prevails_exception hmatch)
    rw [hanswer.unique hexcepted]
  · intro kind size hlt hprevails
    have hkind : kind ≠ .exception := by
      rintro rfl
      exact absurd (hmost size hprevails.1) (Nat.not_le.2 hlt)
    refine ⟨hkind, ?_⟩
    rw [hanswer.eq_verdict htwo hprevails, verdict_of_ne hkind]

/-- An exception below another one, with a wildcard rule of as many labels as the shorter. -/
theorem lookup_exception_iff_nested :
    checkedHost "a.Shop.www.ck.".toList = .ok "a.shop.www.ck".toList ∧
    2 ≤ (List.splitOn '.' "a.shop.www.ck".toList).length ∧
    IsLongestException (ofText "*.ck\n!www.ck\n!shop.www.ck".toList)
      (List.splitOn '.' "a.shop.www.ck".toList) 3 ∧
    (ofText "*.ck\n!www.ck\n!shop.www.ck".toList).lookup "a.Shop.www.ck.".toList =
      .ok (some "shop.www.ck".toList) := by
  have hhost : checkedHost "a.Shop.www.ck.".toList = .ok "a.shop.www.ck".toList := by decide
  have htwo : 2 ≤ (List.splitOn '.' "a.shop.www.ck".toList).length := by decide
  have hnone : ∀ kind, ¬Matches (ofText "*.ck\n!www.ck\n!shop.www.ck".toList)
      (List.splitOn '.' "a.shop.www.ck".toList) kind (3 + 1) := by
    intro kind hmatch
    cases hmatch with
    | exact _ _ hmem => exact absurd hmem (by decide)
    | wildcard _ _ hmem => exact absurd hmem (by decide)
    | exception _ _ hmem => exact absurd hmem (by decide)
  have hlonger : NoLonger (ofText "*.ck\n!www.ck\n!shop.www.ck".toList)
      (List.splitOn '.' "a.shop.www.ck".toList) 3 :=
    NoLonger.of_succ (fun _ _ hmatch => hmatch.size_range.2) hnone
  have hlongest : IsLongestException (ofText "*.ck\n!www.ck\n!shop.www.ck".toList)
      (List.splitOn '.' "a.shop.www.ck".toList) 3 :=
    ⟨.exception (by decide) (by decide) (by decide), hlonger .exception⟩
  exact ⟨hhost, htwo, hlongest, (lookup_exception_iff hhost htwo hlongest).1.2 hlonger⟩

/-- A wildcard rule for the names below an exception takes the decision away from it, and a plain
rule below it leaves a host without a domain. -/
theorem not_lookup_exception :
    (ofText "*.ck\n!www.ck\n*.www.ck".toList).lookup "a.b.www.ck".toList =
      .ok (some "a.b.www.ck".toList) ∧
    (ofText "*.ck\n!www.ck\nshop.www.ck".toList).lookup "shop.www.ck".toList = .ok none ∧
    ¬∀ (rules : SuffixRules) (host checked : Text) (n : Nat), checkedHost host = .ok checked →
      2 ≤ (List.splitOn '.' checked).length →
      IsLongestException rules (List.splitOn '.' checked) n →
      rules.lookup host = .ok (some (lastLabels n (List.splitOn '.' checked))) := by
  have hnone : (ofText "*.ck\n!www.ck\nshop.www.ck".toList).lookup "shop.www.ck".toList =
      .ok none := by decide
  refine ⟨by decide, hnone, ?_⟩
  intro hall
  have hlongest : IsLongestException (ofText "*.ck\n!www.ck\nshop.www.ck".toList)
      (List.splitOn '.' "shop.www.ck".toList) 2 := by
    refine ⟨.exception (by decide) (by decide) (by decide), ?_⟩
    intro size hmatch
    obtain ⟨-, hle⟩ := hmatch.size_range
    have hthree : size ≠ 3 := by
      rintro rfl
      cases hmatch with
      | exception _ _ hmem => exact absurd hmem (by decide)
    have hle : size ≤ 3 := hle
    omega
  have hexcepted := hall _ "shop.www.ck".toList "shop.www.ck".toList 2 (by decide) (by decide)
    hlongest
  rw [hnone] at hexcepted
  cases hexcepted

end SuffixRules

end PacRules.Suffix
