import PacRules.Proofs.Domain.Pooling
import PacRules.Proofs.Suffix.WellFormed

/-!
# The routed domains are well formed

A line is free text, and its hosts are found in several ways: it may be stripped, decoded, read as
an address, expanded or searched. But every domain that it names is what the resolver answers for
some host, and is kept only if it has a dot. So with the rules of a suffix listing, whatever
stands in it, every domain in either list is well formed.
-/

namespace PacRules.Domain

open PacRules.Text PacRules.Rule PacRules.Suffix

variable {resolve : Resolver} {domain : Text}

/-- What is kept of an answer has a dot, and does not end in one. -/
theorem ofHost?_eq_some_iff {host : Text} :
    ofHost? resolve host = some domain ↔
      isDottedQuad host = false ∧ resolve host = .ok (some domain) ∧ '.' ∈ domain ∧
        domain.getLast? ≠ some '.' := by
  unfold ofHost?
  cases isDottedQuad host with
  | true => simp
  | false =>
      cases hanswer : resolve host with
      | error e => simp
      | ok answer =>
          cases answer with
          | none => simp
          | some found =>
              simp only [Bool.false_eq_true, if_false, Option.ite_none_right_eq_some,
                Option.some.injEq, Except.ok.injEq, true_and]
              constructor
              · rintro ⟨hkept, rfl⟩
                simpa using hkept
              · rintro ⟨rfl, hkept⟩
                simpa using hkept

/-! ### Every way to a domain ends at a host -/

theorem exists_host_of_ofRule? {rule : Text} (h : ofRule? resolve rule = some domain) :
    ∃ host, ofHost? resolve host = some domain := by
  obtain ⟨host, -, hhost⟩ := Option.bind_eq_some_iff.1 h
  exact ⟨host, hhost⟩

theorem exists_host_of_mem_ofEach {rules : List Text} (h : domain ∈ ofEach resolve rules) :
    ∃ host, ofHost? resolve host = some domain := by
  obtain ⟨rule, -, hrule⟩ := List.mem_filterMap.1 h
  exact exists_host_of_ofRule? hrule

theorem exists_host_of_mem_ofPlain {rule : Text} (h : domain ∈ ofPlain resolve rule) :
    ∃ host, ofHost? resolve host = some domain := by
  unfold ofPlain at h
  split at h
  · exact exists_host_of_mem_ofEach h
  · exact exists_host_of_ofRule? (Option.mem_toList.1 h)

theorem exists_host_of_mem_ofRegexp {rule : Text} (h : domain ∈ ofRegexp resolve rule) :
    ∃ host, ofHost? resolve host = some domain := by
  simp only [ofRegexp] at h
  split at h
  · exact exists_host_of_mem_ofEach h
  · obtain ⟨run, -, hrun⟩ := Option.bind_eq_some_iff.1 (Option.mem_toList.1 h)
    exact exists_host_of_ofRule? hrun

/-- A domain of a line is the domain of some host. -/
theorem exists_host_of_ofLine? {line : Text} {route : Route} {domains : List Text}
    (h : ofLine? resolve line = some (route, domains)) (hdomain : domain ∈ domains) :
    ∃ host, ofHost? resolve host = some domain := by
  simp only [ofLine?] at h
  split at h
  · cases h
  · split at h
    · cases h
      exact exists_host_of_mem_ofPlain hdomain
    · split at h
      · cases h
        exact exists_host_of_mem_ofRegexp hdomain
      · cases h
        exact exists_host_of_mem_ofPlain hdomain

theorem Names.exists_host {lines : List Text} {route : Route}
    (h : Names resolve lines route domain) : ∃ host, ofHost? resolve host = some domain := by
  obtain ⟨line, -, domains, hline, hdomain⟩ := h
  exact exists_host_of_ofLine? hline hdomain

theorem exists_host_of_mem_ofLines {user list : List Text}
    (h : domain ∈ (RoutedDomains.ofLines resolve user list).direct ∨
      domain ∈ (RoutedDomains.ofLines resolve user list).proxy) :
    ∃ host, ofHost? resolve host = some domain := by
  have hholds := DomainReading.holds_ofLines resolve user list
  rcases h with hdirect | hproxy
  · exact ((hholds.mem_routed_direct domain).1 hdirect).1.exists_host
  · exact ((hholds.mem_routed_proxy domain).1 hproxy).exists_host

/-- Every domain that is routed by the rules of a listing is well formed, whatever the listing and
the lines. -/
theorem isWellFormed_of_mem_ofLines {t : Text} {user list : List Text}
    (h : domain ∈ (RoutedDomains.ofLines (SuffixRules.ofText t).lookup user list).direct ∨
      domain ∈ (RoutedDomains.ofLines (SuffixRules.ofText t).lookup user list).proxy) :
    IsWellFormed domain := by
  obtain ⟨host, hhost⟩ := exists_host_of_mem_ofLines h
  obtain ⟨-, hanswer, hdot, -⟩ := ofHost?_eq_some_iff.1 hhost
  exact SuffixRules.isWellFormed_of_lookup hanswer hdot

/-- An exception of a single label answers for each host below it, but is no domain. -/
theorem isWellFormed_of_mem_ofLines_excepted :
    RoutedDomains.ofLines (SuffixRules.ofText "!com\n*.ck\n!www.ck".toList).lookup
        ["@@||Shop.WWW.ck.".toList] ["||a.b.com".toList, "x_y.My-Site.ORG".toList] =
      { direct := ["www.ck".toList], proxy := ["my-site.org".toList] } ∧
    IsWellFormed "www.ck".toList ∧ IsWellFormed "my-site.org".toList := by
  have hrouted : RoutedDomains.ofLines (SuffixRules.ofText "!com\n*.ck\n!www.ck".toList).lookup
        ["@@||Shop.WWW.ck.".toList] ["||a.b.com".toList, "x_y.My-Site.ORG".toList] =
      { direct := ["www.ck".toList], proxy := ["my-site.org".toList] } := by decide
  have hdirect : "www.ck".toList ∈
      (RoutedDomains.ofLines (SuffixRules.ofText "!com\n*.ck\n!www.ck".toList).lookup
        ["@@||Shop.WWW.ck.".toList] ["||a.b.com".toList, "x_y.My-Site.ORG".toList]).direct := by
    rw [hrouted]
    exact List.mem_singleton_self _
  have hproxy : "my-site.org".toList ∈
      (RoutedDomains.ofLines (SuffixRules.ofText "!com\n*.ck\n!www.ck".toList).lookup
        ["@@||Shop.WWW.ck.".toList] ["||a.b.com".toList, "x_y.My-Site.ORG".toList]).proxy := by
    rw [hrouted]
    exact List.mem_singleton_self _
  exact ⟨hrouted, isWellFormed_of_mem_ofLines (.inl hdirect),
    isWellFormed_of_mem_ofLines (.inr hproxy)⟩

end PacRules.Domain
