import Mathlib.Data.Set.Card
import PacRules.Proofs.Domain.Pooling

/-!
# What a reading has to tell

The tally of a reading of two sources leaves no line and no domain out of account. It counts the
lines that hold a rule and those of them that name no domain, the domains that are routed, and the
direct domains that gave way to the proxy. The last are the domains that rules of either route
name, so that together with the direct ones that are left they are all that direct rules name.
-/

namespace PacRules.Domain

open PacRules.Text PacRules.Rule PacRules.Suffix

/-- A list without repetitions is as long as the set of its members is large. -/
theorem encard_setOf_mem {ds : List Text} (h : ds.Nodup) : {d | d ∈ ds}.encard = ds.length := by
  rw [← List.coe_toFinset, Set.encard_coe_eq_coe_finsetCard, List.toFinset_card_of_nodup h]

/-- Whether a line holds a rule that names no domain. -/
def isUnresolved (resolve : Resolver) (line : Text) : Bool :=
  (ofLine? resolve line).any fun named => named.2.isEmpty

namespace DomainReading

variable {resolve : Resolver} {lines : List Text} {r : DomainReading}

/-! ### Lines -/

/-- What grows by one at each line of a class counts the lines of that class. -/
theorem foldl_read_countP (f : DomainReading → Nat) {p : Text → Bool}
    (hread : ∀ r line, f (r.read resolve line) = f r + if p line then 1 else 0)
    (r : DomainReading) (source : List Text) :
    f (source.foldl (read resolve) r) = f r + source.countP p := by
  induction source generalizing r with
  | nil => rfl
  | cons line source ih =>
      rw [List.foldl_cons, ih, hread, List.countP_cons]
      omega

theorem ofLines_countP (f : DomainReading → Nat) {p : Text → Bool}
    (hread : ∀ r line, f (r.read resolve line) = f r + if p line then 1 else 0)
    (hstart : f {} = 0) (user list : List Text) :
    f (ofLines resolve user list) = (user ++ list).countP p := by
  rw [ofLines, foldl_read_countP f hread, foldl_read_countP f hread, hstart, List.countP_append,
    Nat.zero_add]

theorem rules_read (resolve : Resolver) (r : DomainReading) (line : Text) :
    (r.read resolve line).rules = r.rules + if (ofLine? resolve line).isSome then 1 else 0 := by
  rw [read]
  cases ofLine? resolve line with
  | none => rfl
  | some named =>
      obtain ⟨route, domains⟩ := named
      cases route <;> rfl

theorem unresolved_read (resolve : Resolver) (r : DomainReading) (line : Text) :
    (r.read resolve line).unresolved =
      r.unresolved + if isUnresolved resolve line then 1 else 0 := by
  rw [read, isUnresolved]
  cases ofLine? resolve line with
  | none => rfl
  | some named =>
      obtain ⟨route, domains⟩ := named
      cases route <;> cases domains <;> rfl

theorem rules_ofLines (resolve : Resolver) (user list : List Text) :
    (ofLines resolve user list).rules =
      (user ++ list).countP fun line => (ofLine? resolve line).isSome :=
  ofLines_countP rules (rules_read resolve) rfl user list

theorem unresolved_ofLines (resolve : Resolver) (user list : List Text) :
    (ofLines resolve user list).unresolved = (user ++ list).countP (isUnresolved resolve) :=
  ofLines_countP unresolved (unresolved_read resolve) rfl user list

/-! ### Domains -/

/-- The direct domains are those that are left and those that gave way to the proxy. -/
theorem length_direct (r : DomainReading) :
    r.direct.length = r.routed.direct.length + (r.direct.filter r.proxy.contains).length := by
  rw [Nat.add_comm]
  exact List.length_eq_length_filter_add _

theorem Holds.encard_direct (h : Holds resolve lines r) :
    {d | Names resolve lines .direct d}.encard = r.direct.length := by
  rw [← encard_setOf_mem h.ascending_direct.nodup]
  simp only [h.mem_direct]

theorem Holds.encard_overridden (h : Holds resolve lines r) :
    {d | Names resolve lines .direct d ∧ Names resolve lines .proxy d}.encard =
      (r.direct.filter r.proxy.contains).length := by
  rw [← encard_setOf_mem (h.ascending_direct.nodup.filter _)]
  simp only [List.mem_filter, List.contains_iff_mem, h.mem_direct, h.mem_proxy]

end DomainReading

/-- What a tally has to tell of lines whose domains are routed in the given way. -/
structure DomainTally.Accounts (resolve : Resolver) (lines : List Text) (routed : RoutedDomains)
    (tally : DomainTally) : Prop where
  rules_eq : tally.rules = lines.countP fun line => (ofLine? resolve line).isSome
  unresolved_eq : tally.unresolved = lines.countP (isUnresolved resolve)
  direct_eq : tally.direct = routed.direct.length
  proxy_eq : tally.proxy = routed.proxy.length
  overridden_eq : (tally.overridden : ℕ∞) =
    {d | Names resolve lines .direct d ∧ Names resolve lines .proxy d}.encard
  direct_add_overridden : ((tally.direct + tally.overridden : ℕ) : ℕ∞) =
    {d | Names resolve lines .direct d}.encard

/-- The tally of two sources accounts for all of their lines and domains. How many domains are
overridden is told by a difference, and what is taken away there is never the greater number. -/
theorem accounts_tally (resolve : Resolver) (user list : List Text) :
    DomainTally.Accounts resolve (user ++ list) (RoutedDomains.ofLines resolve user list)
      (DomainReading.ofLines resolve user list).tally ∧
    (RoutedDomains.ofLines resolve user list).direct.length ≤
      (DomainReading.ofLines resolve user list).direct.length := by
  have hholds := DomainReading.holds_ofLines resolve user list
  have hlength := (DomainReading.ofLines resolve user list).length_direct
  have hoverridden : (DomainReading.ofLines resolve user list).tally.overridden =
      ((DomainReading.ofLines resolve user list).direct.filter
        (DomainReading.ofLines resolve user list).proxy.contains).length := by
    rw [DomainReading.tally, hlength, Nat.add_sub_cancel_left]
  refine ⟨⟨?_, ?_, rfl, rfl, ?_, ?_⟩, ?_⟩
  · exact DomainReading.rules_ofLines resolve user list
  · exact DomainReading.unresolved_ofLines resolve user list
  · rw [hoverridden, hholds.encard_overridden]
  · rw [hholds.encard_direct, hlength, hoverridden]
    rfl
  · rw [hlength]
    exact Nat.le_add_right _ _

/-- A direct domain that gives way to the proxy, a comment, and a line that names no domain. -/
example : (DomainReading.ofLines (SuffixRules.lookup {}) ["@@||a.com".toList]
    ["||b.a.com".toList, "! c".toList, "||com".toList]).tally = ⟨3, 1, 0, 1, 1⟩ := rfl

end PacRules.Domain
