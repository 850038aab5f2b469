import PacRules.Proofs.Domain.HostLine
import PacRules.Proofs.Domain.WellFormed
import PacRules.Proofs.Suffix.Stability
import PacRules.Proofs.Text.CodePoints

/-!
# Domains written as lines

The two lists of routed domains can be written as lines: a proxied domain as it is, and a direct one
behind the mark of an exception. There is nothing in a well-formed domain that a reader would trim,
expand, strip or decode, so such a line is looked up by its domain, and a domain that a lookup has
found is found again by itself. The lines therefore name what the lists hold, each on its route, and
are routed as these. Only a domain that looks like an address of four numbers is refused.
-/

namespace PacRules.Domain

open PacRules.Text PacRules.Host PacRules.Rule PacRules.Suffix

variable {domain host : Text}

/-! ### The characters of a domain -/

/-- The characters of a well-formed domain: those of its labels and the dot. -/
def isDomainChar (c : Char) : Bool := Suffix.isLabelChar c || c = '.'

theorem ne_of_isDomainChar {c mark : Char} (hc : isDomainChar c = true)
    (hmark : isDomainChar mark = false) : c ≠ mark := by
  rintro rfl
  simp [hc] at hmark

theorem isPadding_domainChar {c : Char} (h : isDomainChar c = true) : isPadding c = false := by
  have hquote : c ≠ '\'' := ne_of_isDomainChar h (by decide)
  have hquotes : c ≠ '"' := ne_of_isDomainChar h (by decide)
  have hblank : isBlank c = false := by
    simp only [isDomainChar, Suffix.isLabelChar, Bool.or_eq_true, decide_eq_true_eq] at h
    rcases h with ((h | rfl) | rfl) | rfl
    · exact isBlank_eq_false_of_isAlphanumeric h
    · rfl
    · rfl
    · rfl
  simp [isPadding, hblank, hquote, hquotes]

theorem isDomainChar_of_mem (h : IsWellFormed domain) {c : Char} (hc : c ∈ domain) :
    isDomainChar c = true := by
  rcases eq_or_mem_splitOn '.' hc with rfl | ⟨label, hlabel, hmem⟩
  · rfl
  · rcases h.label_chars label hlabel c hmem with hchar | rfl | rfl
    · simp [isDomainChar, Suffix.isLabelChar, hchar]
    · rfl
    · rfl

theorem not_mem_of_isWellFormed (h : IsWellFormed domain) (marks : List Char)
    (hmarks : (marks.all fun c => !isDomainChar c) = true) : ∀ c ∈ marks, c ∉ domain := by
  intro c hc hmem
  have hnot := List.all_eq_true.1 hmarks c hc
  simp [isDomainChar_of_mem h hmem] at hnot

theorem exists_cons_of_isWellFormed (h : IsWellFormed domain) :
    ∃ c t, domain = c :: t ∧ isDomainChar c = true ∧ c ≠ '.' := by
  cases domain with
  | nil => exact absurd rfl (h.label_ne_nil [] List.mem_cons_self)
  | cons c t =>
      refine ⟨c, t, rfl, isDomainChar_of_mem h List.mem_cons_self, ?_⟩
      rintro rfl
      refine h.label_ne_nil [] ?_ rfl
      rw [List.splitOn_cons_eq_if_modifyHead]
      exact List.mem_cons_self

theorem dot_mem_of_isWellFormed (h : IsWellFormed domain) : '.' ∈ domain := by
  by_contra hdot
  have htwo := h.two_le_labels
  simp [List.splitOn_eq_singleton hdot] at htwo

/-! ### The lines of a domain -/

theorem isBare_of_isWellFormed (h : IsWellFormed domain) : IsBare domain where
  star_not_mem := not_mem_of_isWellFormed h ['*'] (by decide) '*' (by simp)
  head_kept c hc := by
    obtain ⟨d, t, rfl, hd, hdot⟩ := exists_cons_of_isWellFormed h
    obtain rfl : d = c := Option.some.inj hc
    exact ⟨ne_of_isDomainChar hd (by decide), hdot⟩
  last_kept c hc := by
    have hchar := isDomainChar_of_mem h (List.mem_of_getLast? hc)
    exact ⟨ne_of_isDomainChar hchar (by decide), ne_of_isDomainChar hchar (by decide)⟩

/-- A well-formed domain is a rule that is looked up by itself. -/
theorem ofRule?_domain (h : IsWellFormed domain) (resolve : Resolver) :
    ofRule? resolve domain = ofHost? resolve domain := by
  have hhost : hostOfRule? domain = some domain :=
    hostOfRule?_of_isBare (isBare_of_isWellFormed h) (not_mem_of_isWellFormed h _ (by decide))
      (dot_mem_of_isWellFormed h) 0
  rw [ofRule?_eq_bind, hhost]
  rfl

/-- A line for a domain that is to be reached on a route. -/
def lineFor : Route → Text → Text
  | .direct, domain => exceptionMark ++ domain
  | .proxy, domain => domain

/-- A line for a domain names what the domain is looked up as, on the route it is for. -/
theorem ofLine?_lineFor (h : IsWellFormed domain) (resolve : Resolver) (route : Route) :
    ofLine? resolve (lineFor route domain) = some (route, (ofHost? resolve domain).toList) := by
  obtain ⟨c, t, hcons, hc, hdot⟩ := exists_cons_of_isWellFormed h
  have hat : c ≠ '@' := ne_of_isDomainChar hc (by decide)
  have hpipe : c ≠ '|' := ne_of_isDomainChar hc (by decide)
  cases route with
  | proxy =>
      have hstart : trimStart (· = '|') domain = domain := by
        rw [hcons]
        exact trimStart_of_not (by simpa using hpipe) t
      rw [lineFor, ofLine?_of_plain resolve (by simp [hcons])
        (fun d hd => isPadding_domainChar (isDomainChar_of_mem h hd))
        (not_mem_of_isWellFormed h _ (by decide)), hstart, ofRule?_domain h]
  | direct =>
      have htrimmed : trimmed (exceptionMark ++ domain) = exceptionMark ++ domain :=
        trimmed_exceptionMark_append (by simp [hcons]) fun d hd =>
          isPadding_domainChar (isDomainChar_of_mem h (List.mem_of_getLast? hd))
      have hstart : trimStart isExceptionPadding domain = domain := by
        rw [hcons]
        exact trimStart_of_not (by simp [isExceptionPadding, hat, hpipe, hdot]) t
      have hgroup : expand? domain = none :=
        expand?_eq_none_of_not_mem
          (not_mem_of_isWellFormed h ['('] (by decide) '(' (by simp))
      have hrule : holdsNoRule (exceptionMark ++ domain) = false := rfl
      simp only [lineFor, ofLine?, htrimmed, hrule, isPrefixOf?_append, hstart, ofPlain, hgroup,
        ofRule?_domain h]
      rfl

/-! ### The lines of all domains -/

namespace RoutedDomains

/-- Both lists as the lines of a source. -/
def asLines (routed : RoutedDomains) : List Text :=
  routed.direct.map (lineFor .direct) ++ routed.proxy.map (lineFor .proxy)

theorem mem_asLines_iff {routed : RoutedDomains} {line : Text} :
    line ∈ routed.asLines ↔ ∃ route, ∃ d ∈ routed.ofRoute route, lineFor route d = line := by
  rw [asLines, List.mem_append, List.mem_map, List.mem_map]
  constructor
  · rintro (hdirect | hproxy)
    · exact ⟨.direct, hdirect⟩
    · exact ⟨.proxy, hproxy⟩
  · rintro ⟨route, h⟩
    cases route with
    | direct => exact .inl h
    | proxy => exact .inr h

/-- If the line for each domain names just this domain, the lines name on either route the domains
of its list. -/
theorem names_asLines_iff {resolve : Resolver} {routed : RoutedDomains}
    (h : ∀ route, ∀ d ∈ routed.ofRoute route,
      ofLine? resolve (lineFor route d) = some (route, [d])) (route : Route) (domain : Text) :
    Names resolve routed.asLines route domain ↔ domain ∈ routed.ofRoute route := by
  constructor
  · rintro ⟨line, hline, domains, hread, hdomain⟩
    obtain ⟨route', d, hd, rfl⟩ := mem_asLines_iff.1 hline
    rw [h route' d hd] at hread
    cases hread
    rwa [List.mem_singleton.1 hdomain]
  · intro hdomain
    exact ⟨lineFor route domain, mem_asLines_iff.2 ⟨route, domain, hdomain, rfl⟩, [domain],
      h route domain hdomain, List.mem_singleton_self domain⟩

end RoutedDomains

/-- A domain that was found for some host is found for itself, unless it is a dotted quad. -/
theorem ofHost?_domain {rules : SuffixRules} (h : ofHost? rules.lookup host = some domain)
    (hquad : isDottedQuad domain = false) : ofHost? rules.lookup domain = some domain := by
  obtain ⟨-, hanswer, hdot, hlast⟩ := ofHost?_eq_some_iff.1 h
  exact ofHost?_eq_some_iff.2 ⟨hquad, SuffixRules.lookup_self hanswer hdot, hdot, hlast⟩

/-- The line for a domain that is routed names this domain. -/
theorem ofLine?_routed {rules : SuffixRules} {user list : List Text} {route : Route}
    (h : domain ∈ (RoutedDomains.ofLines rules.lookup user list).ofRoute route)
    (hquad : isDottedQuad domain = false) :
    ofLine? rules.lookup (lineFor route domain) = some (route, [domain]) := by
  have heither : domain ∈ (RoutedDomains.ofLines rules.lookup user list).direct ∨
      domain ∈ (RoutedDomains.ofLines rules.lookup user list).proxy := by
    cases route with
    | direct => exact .inl h
    | proxy => exact .inr h
  obtain ⟨host, hhost⟩ := exists_host_of_mem_ofLines heither
  obtain ⟨-, hanswer, hdot, -⟩ := ofHost?_eq_some_iff.1 hhost
  rw [ofLine?_lineFor (SuffixRules.isWellFormed_of_lookup hanswer hdot), ofHost?_domain hhost hquad]
  rfl

/-- The domains that the rules of two sources route, written as lines, are routed as they were,
in whatever order the lines stand and however they are dealt out to two sources. None of the domains
may be an address of four numbers, which a reader of lines refuses. -/
theorem ofLines_asLines {rules : SuffixRules} {user list user' list' : List Text}
    (hquad : ∀ route, ∀ d ∈ (RoutedDomains.ofLines rules.lookup user list).ofRoute route,
      isDottedQuad d = false)
    (hlines : ∀ line, line ∈ user' ++ list' ↔
      line ∈ (RoutedDomains.ofLines rules.lookup user list).asLines) :
    RoutedDomains.ofLines rules.lookup user' list' =
      RoutedDomains.ofLines rules.lookup user list := by
  have hholds := DomainReading.holds_ofLines rules.lookup user' list'
  have hnames : ∀ route d, Names rules.lookup (user' ++ list') route d ↔
      d ∈ (RoutedDomains.ofLines rules.lookup user list).ofRoute route := by
    intro route d
    rw [names_congr hlines]
    exact RoutedDomains.names_asLines_iff
      (fun route d hd => ofLine?_routed hd (hquad route d hd)) route d
  refine RoutedDomains.eq_of_ofRoute_eq fun route => ?_
  refine (RoutedDomains.ascending_ofRoute _ _ _ route).eq_of_mem_iff
    (RoutedDomains.ascending_ofRoute _ _ _ route) fun d => ?_
  cases route with
  | proxy => exact (hholds.mem_routed_proxy d).trans (hnames .proxy d)
  | direct =>
      -- no line sends a domain both ways, since the lists have no common member
      refine (hholds.mem_routed_direct d).trans ?_
      rw [hnames, hnames]
      exact and_iff_left_of_imp RoutedDomains.not_mem_proxy_of_mem_direct

/-- An exception, a wildcard and a plain rule; the line of the direct domain is given twice. -/
theorem ofLines_asLines_excepted :
    RoutedDomains.ofLines (SuffixRules.ofText "*.ck\n!www.ck\nco.uk".toList).lookup
        ["@@||Shop.WWW.ck.".toList, "||x.a.co.uk".toList] ["@@a.co.uk/p".toList, ".b.c.ck".toList] =
      { direct := ["www.ck".toList], proxy := ["a.co.uk".toList, "b.c.ck".toList] } ∧
    RoutedDomains.ofLines (SuffixRules.ofText "*.ck\n!www.ck\nco.uk".toList).lookup
        ["b.c.ck".toList, "@@www.ck".toList] ["@@www.ck".toList, "a.co.uk".toList] =
      { direct := ["www.ck".toList], proxy := ["a.co.uk".toList, "b.c.ck".toList] } := by
  have hrouted : RoutedDomains.ofLines (SuffixRules.ofText "*.ck\n!www.ck\nco.uk".toList).lookup
        ["@@||Shop.WWW.ck.".toList, "||x.a.co.uk".toList] ["@@a.co.uk/p".toList, ".b.c.ck".toList] =
      { direct := ["www.ck".toList], proxy := ["a.co.uk".toList, "b.c.ck".toList] } := by decide
  refine ⟨hrouted, Eq.trans (ofLines_asLines ?_ ?_) hrouted⟩
  · rw [hrouted]
    intro route d hd
    cases route with
    | direct =>
        obtain rfl := List.mem_singleton.1 hd
        rfl
    | proxy =>
        rcases List.mem_pair.1 hd with rfl | rfl
        · rfl
        · rfl
  · rw [hrouted]
    intro line
    have hmarked : exceptionMark ++ "www.ck".toList = "@@www.ck".toList := rfl
    simp only [RoutedDomains.asLines, lineFor, hmarked, List.map_cons, List.map_nil,
      List.mem_append, List.mem_cons, List.not_mem_nil, or_false]
    rw [or_assoc, or_self_left, or_comm, or_assoc]

end PacRules.Domain
