import PacRules.Proofs.Domain.Order

/-!
# What the routed domains are

The two lists that a reading of rule lines ends in, told by the lines alone: a domain is proxied
if some line sends it through the proxy, and it is direct if some line sends it directly and no
line through the proxy. The invariant `DomainReading.Holds` says what the lists hold after the
lines read so far; reading one more line keeps it, and so does reading a source. The lists are
determined by their members, so only the set of lines matters.
-/

namespace PacRules.Domain

open PacRules.Text PacRules.Rule PacRules.Suffix

/-- Some of the lines sends the domain on the route. -/
def Names (resolve : Resolver) (lines : List Text) (route : Route) (domain : Text) : Prop :=
  ∃ line ∈ lines, ∃ domains, ofLine? resolve line = some (route, domains) ∧ domain ∈ domains

theorem not_names_nil (resolve : Resolver) (route : Route) (domain : Text) :
    ¬Names resolve [] route domain := by
  simp [Names]

theorem names_append_singleton (resolve : Resolver) (lines : List Text) (line : Text)
    (route : Route) (domain : Text) :
    Names resolve (lines ++ [line]) route domain ↔
      Names resolve lines route domain ∨
        ∃ domains, ofLine? resolve line = some (route, domains) ∧ domain ∈ domains := by
  simp only [Names, List.mem_append, List.mem_singleton, or_and_right, exists_or, exists_eq_left]

theorem names_congr {resolve : Resolver} {lines lines' : List Text}
    (h : ∀ line, line ∈ lines' ↔ line ∈ lines) (route : Route) (domain : Text) :
    Names resolve lines' route domain ↔ Names resolve lines route domain := by
  simp only [Names, h]

theorem mem_foldl_insert {d : Text} {domains ds : List Text} :
    d ∈ domains.foldl (fun ds d => insert d ds) ds ↔ d ∈ ds ∨ d ∈ domains := by
  induction domains generalizing ds with
  | nil => simp
  | cons e domains ih =>
      rw [List.foldl_cons, ih, mem_insert, List.mem_cons]
      simp only [or_assoc, or_comm, or_left_comm]

theorem Ascending.foldl_insert {ds : List Text} (h : Ascending ds) (domains : List Text) :
    Ascending (domains.foldl (fun ds d => insert d ds) ds) := by
  induction domains generalizing ds with
  | nil => exact h
  | cons d domains ih => exact ih (pairwise_insert h)

namespace DomainReading

/-- What a reading holds once the given lines have been read. -/
structure Holds (resolve : Resolver) (lines : List Text) (r : DomainReading) : Prop where
  mem_direct : ∀ d, d ∈ r.direct ↔ Names resolve lines .direct d
  mem_proxy : ∀ d, d ∈ r.proxy ↔ Names resolve lines .proxy d
  ascending_direct : Ascending r.direct
  ascending_proxy : Ascending r.proxy

variable {resolve : Resolver} {lines : List Text} {r : DomainReading}

theorem holds_nil (resolve : Resolver) : Holds resolve [] {} where
  mem_direct d := by simp [not_names_nil]
  mem_proxy d := by simp [not_names_nil]
  ascending_direct := List.Pairwise.nil
  ascending_proxy := List.Pairwise.nil

/-- One more line. -/
theorem Holds.read (h : Holds resolve lines r) (line : Text) :
    Holds resolve (lines ++ [line]) (r.read resolve line) := by
  obtain ⟨hdirect, hproxy, hascD, hascP⟩ := h
  unfold DomainReading.read
  cases hline : ofLine? resolve line with
  | none =>
      refine ⟨?_, ?_, hascD, hascP⟩
      · intro d
        simp [names_append_singleton, hline, hdirect]
      · intro d
        simp [names_append_singleton, hline, hproxy]
  | some named =>
      obtain ⟨route, domains⟩ := named
      cases route with
      | direct =>
          refine ⟨?_, ?_, hascD.foldl_insert domains, hascP⟩
          · intro d
            simp [names_append_singleton, hline, hdirect, mem_foldl_insert]
          · intro d
            simp [names_append_singleton, hline, hproxy]
      | proxy =>
          refine ⟨?_, ?_, hascD, hascP.foldl_insert domains⟩
          · intro d
            simp [names_append_singleton, hline, hdirect]
          · intro d
            simp [names_append_singleton, hline, hproxy, mem_foldl_insert]

/-- A whole source. -/
theorem Holds.foldl_read (h : Holds resolve lines r) (source : List Text) :
    Holds resolve (lines ++ source) (source.foldl (DomainReading.read resolve) r) := by
  induction source generalizing lines r with
  | nil => simpa using h
  | cons line source ih =>
      have hstep := ih (h.read line)
      rwa [List.append_assoc, List.singleton_append] at hstep

theorem holds_ofLines (resolve : Resolver) (user list : List Text) :
    Holds resolve (user ++ list) (ofLines resolve user list) := by
  have huser := (holds_nil resolve).foldl_read user
  rw [List.nil_append] at huser
  exact huser.foldl_read list

theorem Holds.mem_routed_direct (h : Holds resolve lines r) (d : Text) :
    d ∈ r.routed.direct ↔ Names resolve lines .direct d ∧ ¬Names resolve lines .proxy d := by
  simp [routed, h.mem_direct, h.mem_proxy]

theorem Holds.mem_routed_proxy (h : Holds resolve lines r) (d : Text) :
    d ∈ r.routed.proxy ↔ Names resolve lines .proxy d :=
  h.mem_proxy d

theorem Holds.ascending_routed_direct (h : Holds resolve lines r) : Ascending r.routed.direct :=
  h.ascending_direct.filter _

/-- Two readings that hold the same lines, in whatever order they were read, route alike. -/
theorem Holds.routed_eq {lines' : List Text} {r' : DomainReading} (h : Holds resolve lines r)
    (h' : Holds resolve lines' r') (hlines : ∀ line, line ∈ lines' ↔ line ∈ lines) :
    r'.routed = r.routed := by
  have hdirect : r'.routed.direct = r.routed.direct := by
    refine h'.ascending_routed_direct.eq_of_mem_iff h.ascending_routed_direct ?_
    intro d
    rw [h'.mem_routed_direct, h.mem_routed_direct, names_congr hlines, names_congr hlines]
  have hproxy : r'.routed.proxy = r.routed.proxy := by
    refine Ascending.eq_of_mem_iff h'.ascending_proxy h.ascending_proxy ?_
    intro d
    rw [h'.mem_routed_proxy, h.mem_routed_proxy, names_congr hlines]
  calc r'.routed = ⟨r'.routed.direct, r'.routed.proxy⟩ := rfl
    _ = ⟨r.routed.direct, r.routed.proxy⟩ := by rw [hdirect, hproxy]

end DomainReading

namespace RoutedDomains

/-- The list of the domains of a route. -/
def ofRoute (routed : RoutedDomains) : Route → List Text
  | .direct => routed.direct
  | .proxy => routed.proxy

/-- Two pairs of lists with the same list for either route are the same. -/
theorem eq_of_ofRoute_eq {routed routed' : RoutedDomains}
    (h : ∀ route, routed.ofRoute route = routed'.ofRoute route) : routed = routed' := by
  have hdirect : routed.direct = routed'.direct := h .direct
  have hproxy : routed.proxy = routed'.proxy := h .proxy
  cases routed
  cases routed'
  simp only at hdirect hproxy
  rw [hdirect, hproxy]

theorem ascending_ofRoute (resolve : Resolver) (user list : List Text) (route : Route) :
    Ascending ((ofLines resolve user list).ofRoute route) := by
  have hholds := DomainReading.holds_ofLines resolve user list
  cases route with
  | direct => exact hholds.ascending_routed_direct
  | proxy => exact hholds.ascending_proxy

theorem not_mem_proxy_of_mem_direct {resolve : Resolver} {user list : List Text}
    {domain : Text} (h : domain ∈ (ofLines resolve user list).direct) :
    domain ∉ (ofLines resolve user list).proxy := by
  have hholds := DomainReading.holds_ofLines resolve user list
  exact fun hproxy => ((hholds.mem_routed_direct domain).1 h).2
    ((hholds.mem_routed_proxy domain).1 hproxy)

end RoutedDomains

/-- The domains of two sources: the proxied ones are those that some line sends through the proxy,
the direct ones those that some line sends directly and none through the proxy, both in
ascending order of their octets and without a common member. Nothing but the set of lines
counts, neither their order nor the source that holds them. -/
theorem routed_iff_named (resolve : Resolver) (user list : List Text) :
    (∀ d, d ∈ (RoutedDomains.ofLines resolve user list).proxy ↔
      Names resolve (user ++ list) .proxy d) ∧
    (∀ d, d ∈ (RoutedDomains.ofLines resolve user list).direct ↔
      Names resolve (user ++ list) .direct d ∧ ¬Names resolve (user ++ list) .proxy d) ∧
    ((RoutedDomains.ofLines resolve user list).direct.map utf8).Pairwise (· < ·) ∧
    ((RoutedDomains.ofLines resolve user list).proxy.map utf8).Pairwise (· < ·) ∧
    (RoutedDomains.ofLines resolve user list).direct.Disjoint
      (RoutedDomains.ofLines resolve user list).proxy ∧
    ∀ user' list' : List Text, (∀ line, line ∈ user' ++ list' ↔ line ∈ user ++ list) →
      RoutedDomains.ofLines resolve user' list' = RoutedDomains.ofLines resolve user list := by
  have h := DomainReading.holds_ofLines resolve user list
  refine ⟨h.mem_routed_proxy, h.mem_routed_direct, h.ascending_routed_direct.octets,
    h.ascending_proxy.octets, ?_, ?_⟩
  · intro d hdirect hproxy
    exact ((h.mem_routed_direct d).1 hdirect).2 ((h.mem_routed_proxy d).1 hproxy)
  · intro user' list' hlines
    exact h.routed_eq (DomainReading.holds_ofLines resolve user' list') hlines

/-- Lines in another order, one of them in the other source and one of them twice. -/
theorem routed_iff_named_moved :
    (∀ line : Text, line ∈ ["@@||b.org".toList] ++ ["||c.a.com".toList, "@@||b.org".toList] ↔
      line ∈ ["||c.a.com".toList, "@@||b.org".toList] ++ []) ∧
    RoutedDomains.ofLines (SuffixRules.lookup {}) ["@@||b.org".toList]
        ["||c.a.com".toList, "@@||b.org".toList] =
      RoutedDomains.ofLines (SuffixRules.lookup {}) ["||c.a.com".toList, "@@||b.org".toList]
        [] := by
  have hlines : ∀ line : Text,
      line ∈ ["@@||b.org".toList] ++ ["||c.a.com".toList, "@@||b.org".toList] ↔
        line ∈ ["||c.a.com".toList, "@@||b.org".toList] ++ [] := by
    intro line
    simp only [List.mem_append, List.mem_cons, List.not_mem_nil, or_false]
    rw [or_comm, or_assoc, or_self]
  exact ⟨hlines, (routed_iff_named (SuffixRules.lookup {}) _ []).2.2.2.2.2 _ _ hlines⟩

end PacRules.Domain
