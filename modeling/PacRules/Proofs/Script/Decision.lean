import PacRules.Proofs.Domain.Pooling
import PacRules.Proofs.Domain.WellFormed
import PacRules.Proofs.Script.Search

/-!
# The decision for a host

A script for routed domains asks for the host and then for its parents, so the first domain that it
finds is the longest of all that cover the host. That decision is taken over the domains that are
found, and what is found is listed. A listed domain may be missed, since the lists ascend by
characters and are searched by code units: this happens exactly if two members of a list are
inverted. So on lists without such members the decision is that of the longest listed domain.
-/

namespace PacRules.Script

open PacRules.Text PacRules.Rule PacRules.Domain PacRules.Suffix

/-- Whether a domain is a host or stands behind one of its dots. The empty text is no domain. -/
def Covers (domain host : Text) : Prop :=
  domain ≠ [] ∧ (domain = host ∨ '.' :: domain <:+ host)

/-- The route for a host by domains that are held to have a route: the route of the longest of
those that cover the host, or the direct one if none does. -/
inductive Decides (holds : Route → Text → Prop) (host : Text) : Route → Prop where
  | longest {route : Route} {domain : Text} (hholds : holds route domain)
      (hcovers : Covers domain host)
      (hlongest : ∀ other d, holds other d → Covers d host → d.length ≤ domain.length) :
      Decides holds host route
  | uncovered (hnone : ∀ route d, holds route d → ¬Covers d host) : Decides holds host .direct

variable {holds : Route → Text → Prop} {host domain : Text} {route : Route}

/-! ### The domains that are asked for -/

/-- The host and its parents, the nearest first, as far as they have a character. -/
def candidates (host : Text) : List Text := (host :: parents host).takeWhile (!·.isEmpty)

theorem mem_parents_iff : domain ∈ parents host ↔ '.' :: domain <:+ host := by
  induction host with
  | nil => simp
  | cons c host ih =>
      rw [parents, List.suffix_cons_iff]
      split
      · next hc =>
        subst hc
        simp [ih]
      · next hc =>
        simp [ih, Ne.symm hc]

theorem length_lt_of_mem_parents (h : domain ∈ parents host) : domain.length < host.length := by
  have hle := (mem_parents_iff.1 h).length_le
  rw [List.length_cons] at hle
  omega

theorem pairwise_length_parents (host : Text) :
    (parents host).Pairwise fun d e => e.length < d.length := by
  induction host with
  | nil => exact List.Pairwise.nil
  | cons c host ih =>
      rw [parents]
      split
      · exact List.pairwise_cons.2 ⟨fun _ hd => length_lt_of_mem_parents hd, ih⟩
      · exact ih

/-- The host and its parents become shorter one by one. -/
theorem pairwise_length_cons_parents (host : Text) :
    (host :: parents host).Pairwise fun d e => e.length < d.length :=
  List.pairwise_cons.2 ⟨fun _ hd => length_lt_of_mem_parents hd, pairwise_length_parents host⟩

/-- Of texts that become shorter at most the last is without a character. -/
theorem takeWhile_eq_filter_of_pairwise_length {ds : List Text}
    (h : ds.Pairwise fun d e => e.length < d.length) :
    ds.takeWhile (!·.isEmpty) = ds.filter (!·.isEmpty) := by
  induction ds with
  | nil => rfl
  | cons d ds ih =>
      obtain ⟨hd, hds⟩ := List.pairwise_cons.1 h
      cases d with
      | nil =>
          have hnil : ds = [] := List.eq_nil_iff_forall_not_mem.2 fun e he =>
            Nat.not_lt_zero _ (hd e he)
          simp [hnil]
      | cons c d => simp [ih hds]

theorem pairwise_length_candidates (host : Text) :
    (candidates host).Pairwise fun d e => e.length < d.length :=
  (pairwise_length_cons_parents host).sublist (List.takeWhile_sublist _)

theorem mem_candidates_iff : domain ∈ candidates host ↔ Covers domain host := by
  rw [candidates, takeWhile_eq_filter_of_pairwise_length (pairwise_length_cons_parents host),
    List.mem_filter, List.mem_cons, mem_parents_iff, Covers, and_comm]
  simp

/-! ### The first is the longest -/

theorem Covers.suffix (h : Covers domain host) : domain <:+ host := by
  obtain ⟨-, rfl | hbehind⟩ := h
  · exact List.suffix_refl _
  · exact (List.suffix_cons _ _).trans hbehind

theorem Covers.eq_of_length_eq {d : Text} (h : Covers domain host) (h' : Covers d host)
    (hlength : domain.length = d.length) : domain = d :=
  (List.suffix_of_suffix_length_le h.suffix h'.suffix hlength.le).eq_of_length hlength

/-- No two routes are decided on if no domain is held to have both. -/
theorem Decides.unique {other : Route} (hunique : ∀ {r r' d}, holds r d → holds r' d → r = r')
    (h : Decides holds host route) (h' : Decides holds host other) : route = other := by
  cases h with
  | uncovered hnone =>
      cases h' with
      | uncovered => rfl
      | longest hholds hcovers => exact absurd hcovers (hnone _ _ hholds)
  | @longest _ domain hholds hcovers hlongest =>
      cases h' with
      | uncovered hnone => exact absurd hcovers (hnone _ _ hholds)
      | @longest _ d hholds' hcovers' hlongest' =>
          have hlength : domain.length = d.length :=
            Nat.le_antisymm (hlongest' _ _ hholds hcovers) (hlongest _ _ hholds' hcovers')
          obtain rfl := hcovers.eq_of_length_eq hcovers' hlength
          exact hunique hholds hholds'

/-- The first candidate that has a route decides. -/
theorem decides_findSome? {find : Text → Option Route}
    (hfind : ∀ route d, find d = some route ↔ holds route d) (host : Text) :
    Decides holds host (((candidates host).findSome? find).getD .direct) := by
  cases hanswer : (candidates host).findSome? find with
  | none =>
      refine .uncovered ?_
      intro route d hholds hcovers
      have hnone := List.findSome?_eq_none_iff.1 hanswer d (mem_candidates_iff.2 hcovers)
      rw [(hfind route d).2 hholds] at hnone
      cases hnone
  | some route =>
      obtain ⟨longer, domain, shorter, hsplit, hroute, hlonger⟩ :=
        List.findSome?_eq_some_iff.1 hanswer
      have hmem : domain ∈ candidates host := by simp [hsplit]
      have hpairwise := pairwise_length_candidates host
      rw [hsplit, List.pairwise_append, List.pairwise_cons] at hpairwise
      refine .longest ((hfind route domain).1 hroute) (mem_candidates_iff.1 hmem) ?_
      intro other d hholds hcovers
      have hd := mem_candidates_iff.2 hcovers
      rw [hsplit, List.mem_append, List.mem_cons] at hd
      rcases hd with hbefore | rfl | hbehind
      · have hnone := hlonger d hbefore
        rw [(hfind other d).2 hholds] at hnone
        cases hnone
      · exact Nat.le_refl _
      · exact (hpairwise.2.1.1 d hbehind).le

/-- The decision is that of the first candidate which has a route, and no other. -/
theorem findSome?_eq_iff_decides {find : Text → Option Route}
    (hfind : ∀ route d, find d = some route ↔ holds route d) (host : Text) :
    ((candidates host).findSome? find).getD .direct = route ↔ Decides holds host route := by
  constructor
  · rintro rfl
    exact decides_findSome? hfind host
  · intro h
    refine (decides_findSome? hfind host).unique ?_ h
    intro r r' d hr hr'
    exact Option.some.inj (((hfind r d).2 hr).symm.trans ((hfind r' d).2 hr'))

/-! ### The lists of a script -/

variable {routed : RoutedDomains}

theorem routeIn?_eq_some_iff (hdisjoint : ∀ d ∈ routed.direct, d ∉ routed.proxy) :
    routeIn? routed.direct routed.proxy domain = some route ↔
      finds (routed.ofRoute route) domain = true := by
  cases route with
  | direct => simp [routeIn?, RoutedDomains.ofRoute]
  | proxy =>
      have hdirect : finds routed.proxy domain = true → finds routed.direct domain = false := by
        intro hproxy
        by_contra hfound
        rw [Bool.not_eq_false] at hfound
        exact hdisjoint domain (mem_of_finds hfound) (mem_of_finds hproxy)
      simp only [routeIn?, RoutedDomains.ofRoute]
      cases hproxy : finds routed.proxy domain with
      | true => simp [hdirect hproxy]
      | false => simp

/-- A script answers by the longest of the domains that it finds. -/
theorem answerForHost_eq_iff (hdisjoint : ∀ d ∈ routed.direct, d ∉ routed.proxy) (host : Text) :
    answerForHost routed.direct routed.proxy host = route ↔
      Decides (fun route d => finds (routed.ofRoute route) d = true) (lower host) route :=
  findSome?_eq_iff_decides (fun _ _ => routeIn?_eq_some_iff hdisjoint) (lower host)

/-- A script finds the domains of either route, all of them and nothing else, and answers by the
longest of those that cover a host. -/
structure AnswersFaithfully (routed : RoutedDomains) : Prop where
  finds_iff : ∀ route d, finds (routed.ofRoute route) d = true ↔ d ∈ routed.ofRoute route
  answer_iff : ∀ host route, answerForHost routed.direct routed.proxy host = route ↔
    Decides (fun route d => d ∈ routed.ofRoute route) (lower host) route

/-- On lists that ascend and have no common member, a script is faithful exactly if no two domains
of a list are inverted. -/
theorem answersFaithfully_iff_inverts (hascending : ∀ route, Ascending (routed.ofRoute route))
    (hdisjoint : ∀ d ∈ routed.direct, d ∉ routed.proxy) :
    AnswersFaithfully routed ↔
      ∀ route, ∀ s ∈ routed.ofRoute route, ∀ t ∈ routed.ofRoute route, inverts s t = false := by
  constructor
  · intro h route
    exact (finds_iff_mem_iff (hascending route)).1 (h.finds_iff route)
  · intro hnone
    have hfinds : ∀ route d, finds (routed.ofRoute route) d = true ↔ d ∈ routed.ofRoute route :=
      fun route => (finds_iff_mem_iff (hascending route)).2 (hnone route)
    have hsame : (fun route d => finds (routed.ofRoute route) d = true) =
        fun route d => d ∈ routed.ofRoute route :=
      funext fun route => funext fun d => propext (hfinds route d)
    refine ⟨hfinds, ?_⟩
    intro host route
    rw [answerForHost_eq_iff hdisjoint, hsame]

/-- The ordinary case: a script is faithful to domains that lie in the basic plane. -/
theorem answersFaithfully_of_basic (resolve : Resolver) (user list : List Text)
    (h : ∀ route, ∀ d ∈ (RoutedDomains.ofLines resolve user list).ofRoute route, ∀ c ∈ d,
      c.toNat < 0x10000) :
    AnswersFaithfully (RoutedDomains.ofLines resolve user list) := by
  refine (answersFaithfully_iff_inverts (RoutedDomains.ascending_ofRoute resolve user list)
    fun _ => RoutedDomains.not_mem_proxy_of_mem_direct).2 ?_
  intro route s _ t ht
  exact inverts_of_basic (h route t ht)

/-- The answer for a host is always that of the longest covering domain that is found, and what is
found is listed. All that is listed is found, and the answer is that of the longest covering domain
that is listed, exactly if no two domains of a list are inverted. -/
theorem answersFaithfully_iff (resolve : Resolver) (user list : List Text) :
    let routed := RoutedDomains.ofLines resolve user list
    (∀ route d, finds (routed.ofRoute route) d = true → d ∈ routed.ofRoute route) ∧
    (∀ host route, answerForHost routed.direct routed.proxy host = route ↔
      Decides (fun route d => finds (routed.ofRoute route) d = true) (lower host) route) ∧
    (AnswersFaithfully routed ↔
      ∀ route, ∀ s ∈ routed.ofRoute route, ∀ t ∈ routed.ofRoute route, inverts s t = false) := by
  intro routed
  have hdisjoint : ∀ d ∈ routed.direct, d ∉ routed.proxy :=
    fun _ => RoutedDomains.not_mem_proxy_of_mem_direct
  have hascending : ∀ route, Ascending (routed.ofRoute route) :=
    RoutedDomains.ascending_ofRoute resolve user list
  refine ⟨?_, ?_, answersFaithfully_iff_inverts hascending hdisjoint⟩
  · intro route d hfound
    exact mem_of_finds hfound
  · intro host route
    exact answerForHost_eq_iff hdisjoint host

/-! ### Two inverted domains -/

/-- Two domains in the order of their characters, which by their units stand the other way round. -/
def invertedPair : List Text := ["\uff41.com".toList, "𐐨.com".toList]

/-- What comes before both by units is sought before the first, where there is nothing. -/
theorem finds_invertedPair_eq_false (h : units domain < units "\uff41.com".toList) :
    finds invertedPair domain = false := by
  have hfirst : invertedPair[0]? = some "\uff41.com".toList := rfl
  have hstep : search invertedPair domain 0 2 = search invertedPair domain 0 0 :=
    search_of_gt Nat.zero_lt_two rfl hfirst h
  exact hstep.trans (search_of_le (Nat.le_refl 0))

theorem checkedHost_of_mem_invertedPair : ∀ d ∈ invertedPair, checkedHost d = .ok d := by
  -- the evaluation has to begin behind the text of the table, which is too deep for it
  delta checkedHost labelError? Suffix.isLabelChar isAlphanumeric alphanumericSpans Span.ofTable
    tableRows
  rw [alphanumericTable, String.toList_ofList]
  decide +kernel

/-- Where no suffixes are known, each of the two is a rule for itself. -/
theorem ofLine?_of_mem_invertedPair (h : domain ∈ invertedPair) :
    ofLine? (SuffixRules.lookup {}) domain = some (.proxy, [domain]) := by
  have hkept : ∀ d ∈ invertedPair, isDottedQuad d = false ∧ '.' ∈ d ∧ d.getLast? ≠ some '.' ∧
      SuffixRules.registrable? {} d = some d := by decide
  have hline : ∀ d ∈ invertedPair, ∀ resolve,
      ofLine? resolve d = some (.proxy, (ofHost? resolve d).toList) :=
    List.forall_mem_cons.2 ⟨fun _ => rfl, List.forall_mem_singleton.2 fun _ => rfl⟩
  obtain ⟨hquad, hdot, hlast, hregistrable⟩ := hkept domain h
  have hhost : ofHost? (SuffixRules.lookup {}) domain = some domain := by
    refine ofHost?_eq_some_iff.2 ⟨hquad, ?_, hdot, hlast⟩
    rw [SuffixRules.lookup_of_checkedHost _ (checkedHost_of_mem_invertedPair domain h),
      hregistrable]
  rw [hline domain h, hhost]
  rfl

/-- The second of two inverted domains is listed but not found, so a request to it goes directly
instead of through the proxy. -/
theorem not_answersFaithfully :
    let routed := RoutedDomains.ofLines (SuffixRules.lookup {}) [] invertedPair
    routed.proxy = invertedPair ∧ finds routed.proxy "𐐨.com".toList = false ∧
    answerForHost routed.direct routed.proxy "𐐨.com".toList = .direct ∧
    Decides (fun route d => d ∈ routed.ofRoute route) (lower "𐐨.com".toList) .proxy ∧
    ¬∀ (resolve : Resolver) (user list : List Text),
      AnswersFaithfully (RoutedDomains.ofLines resolve user list) := by
  have hlisted : "𐐨.com".toList ∈ invertedPair := List.mem_cons_of_mem _ List.mem_cons_self
  have hrouted : RoutedDomains.ofLines (SuffixRules.lookup {}) [] invertedPair =
      { direct := [], proxy := invertedPair } := by
    have hread : ∀ r, ∀ d ∈ invertedPair, DomainReading.read (SuffixRules.lookup {}) r d =
        { r with proxy := Domain.insert d r.proxy, rules := r.rules + 1 } := by
      intro r d hd
      rw [DomainReading.read, ofLine?_of_mem_invertedPair hd]
      rfl
    change (["\uff41.com".toList, "𐐨.com".toList].foldl
      (DomainReading.read (SuffixRules.lookup {})) {}).routed = _
    rw [List.foldl_cons, List.foldl_cons, List.foldl_nil, hread _ _ List.mem_cons_self,
      hread _ _ hlisted]
    decide
  have hlower : lower "𐐨.com".toList = "𐐨.com".toList := by decide
  have hcandidates : candidates "𐐨.com".toList = ["𐐨.com".toList, "com".toList] := by decide
  have hitem : finds invertedPair "𐐨.com".toList = false :=
    finds_invertedPair_eq_false (by decide)
  have hparent : finds invertedPair "com".toList = false :=
    finds_invertedPair_eq_false (by decide)
  have hnone : ∀ d, finds invertedPair d = false → routeIn? [] invertedPair d = none := by
    intro d hd
    have hnil : finds [] d = false := search_of_le (Nat.le_refl 0)
    simp [routeIn?, hnil, hd]
  intro routed
  change routed = _ at hrouted
  rw [hrouted]
  refine ⟨rfl, hitem, ?_, ?_, ?_⟩
  · change ((candidates (lower _)).findSome? _).getD Route.direct = Route.direct
    rw [hlower, hcandidates, List.findSome?_cons, hnone _ hitem, List.findSome?_cons,
      hnone _ hparent]
    rfl
  · rw [hlower]
    refine .longest hlisted ⟨by decide, .inl rfl⟩ ?_
    intro other d _ hcovers
    exact hcovers.suffix.length_le
  · intro hall
    have hfaithful : AnswersFaithfully routed := hall _ _ _
    rw [hrouted] at hfaithful
    have hfound := (hfaithful.finds_iff .proxy _).2 hlisted
    exact absurd (hfound.symm.trans hitem) (by decide)

end PacRules.Script
