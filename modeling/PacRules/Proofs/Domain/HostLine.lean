import PacRules.Proofs.Domain.Pooling
import PacRules.Proofs.Domain.Search
import PacRules.Proofs.Rule.Line

/-!
# Lines that name a host

A line of two pipes and a web host sends the domain of this host through the proxy. A path behind
the host decides how the line is read: with a dot and an asterisk in it the whole line is taken
for a regular expression, and a group in it is expanded as if it stood in the host. `hostsRead`
says which hosts are then looked up, so that the lines name the same domains exactly where these
are the host alone.
-/

namespace PacRules.Domain

open PacRules.Text PacRules.Host PacRules.Rule PacRules.Suffix

/-! ### Plain lines -/

theorem isPadding_namedChar {c : Char} (hc : isNamedChar c = true) : isPadding c = false :=
  forall_namedChar (P := fun c => isPadding c = false) (by decide) hc

/-- A line without padding, marks of other kinds and parentheses is one plain rule, pipes in front
of it aside. -/
theorem ofLine?_of_plain (resolve : Resolver) {line : Text} (hne : line ≠ [])
    (hpadding : ∀ c ∈ line, isPadding c = false)
    (hmarks : ∀ c ∈ ['!', '@', '/', '*', '('], c ∉ line) :
    ofLine? resolve line = some (.proxy, (ofRule? resolve (trimStart (· = '|') line)).toList) := by
  have htrimmed : trimmed line = line :=
    trimmed_eq_self (fun c hc => hpadding c (List.mem_of_head? hc))
      fun c hc => hpadding c (List.mem_of_getLast? hc)
  have hrule : holdsNoRule line = false :=
    holdsNoRule_eq_false hne fun hhead => hmarks '!' (by simp) (List.mem_of_head? hhead)
  have hmark : List.isPrefixOf? exceptionMark line = none :=
    isPrefixOf?_exceptionMark_eq_none fun hhead => hmarks '@' (by simp) (List.mem_of_head? hhead)
  have hslash : line.head? ≠ some '/' := fun hhead =>
    hmarks '/' (by simp) (List.mem_of_head? hhead)
  have hregexp : contains ['.', '*'] line = false :=
    contains_eq_false_of_not_mem (c := '*') (by simp) (hmarks '*' (by simp))
  have hgroup : expand? (trimStart (· = '|') line) = none :=
    expand?_eq_none_of_not_mem fun hmem =>
      hmarks '(' (by simp) ((List.dropWhile_sublist _).subset hmem)
  rw [ofLine?, htrimmed]
  simp [hrule, hmark, hslash, hregexp, ofPlain, hgroup]

/-! ### The hosts of a body -/

/-- The hosts of the expansion, or else the one that the rule is looked up by. -/
def hostsOrElse (rule : Option Text) : Option (List Text) → List Text
  | some expansion => expansion.filterMap hostOfRule?
  | none => (rule.bind hostOfRule?).toList

theorem filterMap_hostsOrElse (resolve : Resolver) (rule : Option Text)
    (expansion : Option (List Text)) :
    (hostsOrElse rule expansion).filterMap (ofHost? resolve) =
      match expansion with
      | some expansion => ofEach resolve expansion
      | none => (rule.bind (ofRule? resolve)).toList := by
  have hrule : ofRule? resolve = fun rule => (hostOfRule? rule).bind (ofHost? resolve) :=
    funext (ofRule?_eq_bind resolve)
  cases expansion with
  | some expansion => exact List.filterMap_filterMap
  | none =>
      simp only [hostsOrElse, hrule, ← Option.bind_assoc]
      cases rule.bind hostOfRule? with
      | none => rfl
      | some host => cases hhost : ofHost? resolve host <;> simp [hhost]

/-- The hosts that a line of two pipes and a body looks up. -/
def hostsOfBody (body : Text) : List Text :=
  if contains ['.', '*'] body then
    hostsOrElse (hostInRegexp? (unescaped body)) (expand? (unescaped body))
  else hostsOrElse (some body) (expand? body)

theorem ofRegexp_anchored (resolve : Resolver) (body : Text) :
    ofRegexp resolve (['|', '|'] ++ body) =
      (hostsOrElse (hostInRegexp? (unescaped body)) (expand? (unescaped body))).filterMap
        (ofHost? resolve) := by
  have hsource : unescaped (['|', '|'] ++ body) = '|' :: '|' :: unescaped body :=
    unescaped_append (by decide) body
  have hpipe : ∀ t, expand? ('|' :: t) = expand? t := fun t =>
    expand?_cons_of_eq_none (expandHere?_cons_of_not (by decide) t)
  have hfound : ∀ t, hostInRegexp? ('|' :: t) = hostInRegexp? t :=
    hostInRegexp?_cons_of_not (by decide)
  have hliteral : regexpLiteral? (['|', '|'] ++ body) = none := rfl
  rw [filterMap_hostsOrElse, ofRegexp, hliteral, Option.getD_none, hsource]
  cases hexpand : expand? (unescaped body) with
  | some expansion => simp [hpipe, hexpand]
  | none => simp [hpipe, hfound, hexpand]

theorem ofPlain_eq (resolve : Resolver) (body : Text) :
    ofPlain resolve body =
      (hostsOrElse (some body) (expand? body)).filterMap (ofHost? resolve) := by
  rw [filterMap_hostsOrElse]
  rfl

/-- A line of two pipes and a body sends the domains of its hosts through the proxy. -/
theorem ofLine?_anchored (resolve : Resolver) {body : Text}
    (hfirst : ∀ c, body.head? = some c → c ≠ '|')
    (hlast : ∀ c, body.getLast? = some c → isPadding c = false) :
    ofLine? resolve (['|', '|'] ++ body) =
      some (.proxy, (hostsOfBody body).filterMap (ofHost? resolve)) := by
  have htrimmed : trimmed (['|', '|'] ++ body) = ['|', '|'] ++ body := by
    refine trimmed_eq_self ?_ ?_
    · intro c hc
      obtain rfl : '|' = c := by simpa using hc
      decide
    · intro c hc
      cases body with
      | nil =>
          obtain rfl : '|' = c := by simpa using hc
          decide
      | cons d body => exact hlast c (by simpa using hc)
  have hstart : trimStart (· = '|') (['|', '|'] ++ body) = body := by
    rw [trimStart_append_of_all (by simp)]
    exact trimStart_eq_self fun c hc => by simpa using hfirst c hc
  have hcontains : contains ['.', '*'] (['|', '|'] ++ body) = contains ['.', '*'] body :=
    @contains_pair_append '.' '*' '|' ['|'] (by decide) (by decide) (by decide) body
  rw [ofLine?, htrimmed]
  simp only [hstart, hcontains, ofRegexp_anchored, ofPlain_eq]
  unfold hostsOfBody
  cases contains ['.', '*'] body <;> simp [holdsNoRule, exceptionMark, List.isPrefixOf?]

/-! ### A host with a path -/

variable {h path : Text}

/-- The path as it is searched for a group. -/
def searched (path : Text) : Text :=
  if contains ['.', '*'] path then unescaped path else path

/-- The hosts that a line looks up whose body is the host `h`, a slash and the path: those of a
group in the path, or else the host, which in a regular expression is only sought from a run of
letters and figures that ends at a dot. -/
def hostsRead (h path : Text) : List Text :=
  match expand? (searched path) with
  | some expansion => expansion.filterMap hostOfRule?
  | none =>
    if contains ['.', '*'] path then
      match hostInRegexp? h with
      | some found => [found]
      | none => ((hostInRegexp? (unescaped path)).bind hostOfRule?).toList
    else [h]

theorem isNameChar_namedChar {c : Char} (hc : isNamedChar c = true) : isNameChar c = true :=
  forall_namedChar (P := fun c => isNameChar c = true) (by decide) hc

theorem hostsOfBody_host (hh : IsWebHost h) : hostsOfBody h = [h] := by
  have hcontains : contains ['.', '*'] h = false :=
    contains_eq_false_of_not_mem (c := '*') (by decide) (hh.not_mem (by decide))
  have hexpand := expand?_eq_none_of_not_mem (hh.not_mem (c := '(') (by decide))
  have hhost : hostOfRule? h = some h := hostOfRule?_host hh.toIsNamedHost 0
  simp [hostsOfBody, hcontains, hexpand, hostsOrElse, hhost]

theorem hostsOfBody_path (hh : IsWebHost h) (path : Text) :
    hostsOfBody (h ++ '/' :: path) = hostsRead h path := by
  have hcontains : contains ['.', '*'] (h ++ '/' :: path) = contains ['.', '*'] path :=
    contains_pair_append (hh.not_mem (by decide)) (by decide) (by decide) path
  have hexpand : ∀ t, expand? (h ++ '/' :: t) = expand? t :=
    expand?_append_cons (by decide) (by decide) fun c hc => isNameChar_namedChar (hh.chars hc)
  have hhost : ∀ {found}, IsWebHost found → ∀ t, hostOfRule? (found ++ '/' :: t) = some found :=
    fun hfound t => hostOfRule?_path hfound 0 t
  cases hregexp : contains ['.', '*'] path with
  | false =>
      have hsearched : searched path = path := by simp [searched, hregexp]
      rw [hostsOfBody, hostsRead, hcontains, hregexp, hexpand, hsearched]
      cases expand? path with
      | some expansion => rfl
      | none => simp [hostsOrElse, hhost hh]
  | true =>
      have hsearched : searched path = unescaped path := by simp [searched, hregexp]
      have hescape : '\\' ∉ h ++ ['/'] := by
        simpa using hh.not_mem (c := '\\') (by decide)
      have hunescaped : unescaped (h ++ '/' :: path) = h ++ '/' :: unescaped path := by
        simpa using unescaped_append hescape path
      have hrun := hostInRegexp?_append_cons (s := '/') (by decide) (by decide) (by decide)
        (hh.not_mem (c := '\n') (by decide)) (unescaped path)
      rw [hostsOfBody, hostsRead, hcontains, hregexp, hunescaped, hexpand, hrun, hsearched]
      cases expand? (unescaped path) with
      | some expansion => rfl
      | none =>
          cases hfound : hostInRegexp? h with
          | none => rfl
          | some found => simp [hostsOrElse, hhost (isWebHost_of_hostInRegexp? hh hfound)]

/-- Without a group, and in a regular expression without a hyphen in the first label, it is the
host that is looked up. -/
theorem hostsRead_eq_singleton (hh : IsNamedHost h) (hgroup : expand? (searched path) = none)
    (hhyphen : contains ['.', '*'] path = true →
      ∀ first, (List.splitOn '.' h).head? = some first → '-' ∉ first) :
    hostsRead h path = [h] := by
  rw [hostsRead, hgroup]
  cases hregexp : contains ['.', '*'] path with
  | false => rfl
  | true => simp [hostInRegexp?_eq_self hh (hhyphen hregexp)]

/-! ### Telling hosts apart -/

/-- A resolver that gives every host a domain of its own. -/
def telling : Resolver := fun host => .ok (some (host ++ ['.', 'x']))

theorem ofHost?_telling (host : Text) :
    ofHost? telling host = if isDottedQuad host then none else some (host ++ ['.', 'x']) := by
  simp [ofHost?, telling]

theorem isDottedQuad_of_ofHost? {resolve : Resolver} {host d : Text}
    (h : ofHost? resolve host = some d) : isDottedQuad host = false := by
  by_contra hquad
  simp [ofHost?, hquad] at h

/-- Hosts give the domains of one host for every resolver only if it is the one that is not made
of four numbers. -/
theorem forall_ofHost?_iff {hosts : List Text} (hquad : isDottedQuad h = false) :
    (∀ resolve d, (∃ host ∈ hosts, ofHost? resolve host = some d) ↔ ofHost? resolve h = some d) ↔
      ∀ host, host ∈ hosts ∧ isDottedQuad host = false ↔ host = h := by
  constructor
  · -- the domain that `telling` gives a host tells it from all others
    intro hall host
    have htold := hall telling (host ++ ['.', 'x'])
    simp only [ofHost?_telling] at htold
    constructor
    · rintro ⟨hmem, hplain⟩
      have heq := htold.1 ⟨host, hmem, by simp [hplain]⟩
      simpa [hquad, eq_comm] using heq
    · rintro rfl
      obtain ⟨other, hmem, heq⟩ := htold.2 (by simp [hquad])
      obtain rfl : other = host := by
        split at heq
        · cases heq
        · simpa using heq
      exact ⟨hmem, hquad⟩
  · intro hexact resolve d
    constructor
    · rintro ⟨host, hmem, hd⟩
      obtain rfl := (hexact host).1 ⟨hmem, isDottedQuad_of_ofHost? hd⟩
      exact hd
    · intro hd
      exact ⟨h, ((hexact h).2 rfl).1, hd⟩

/-! ### The domains of the lines -/

theorem names_singleton (resolve : Resolver) (line : Text) (route : Route) (domain : Text) :
    Names resolve [line] route domain ↔
      ∃ domains, ofLine? resolve line = some (route, domains) ∧ domain ∈ domains := by
  simp [Names]

theorem names_anchored (resolve : Resolver) {body : Text}
    (hfirst : ∀ c, body.head? = some c → c ≠ '|')
    (hlast : ∀ c, body.getLast? = some c → isPadding c = false) (domain : Text) :
    Names resolve [['|', '|'] ++ body] .proxy domain ↔
      ∃ host ∈ hostsOfBody body, ofHost? resolve host = some domain := by
  rw [names_singleton, ofLine?_anchored resolve hfirst hlast]
  simp

theorem head_ne_pipe (hh : IsNamedHost h) (t : Text) : ∀ c, (h ++ t).head? = some c → c ≠ '|' := by
  obtain ⟨d, rest, rfl, hd⟩ := hh.exists_cons
  rintro c hc rfl
  obtain rfl : d = '|' := by simpa using hc
  exact absurd hd (by decide)

/-- The lines name the same domains for every resolver exactly if the host is the only one that is
looked up behind the path, addresses of four numbers aside. They are read alike if the path has
no group and, in a regular expression, the first label of the host no hyphen. -/
theorem names_path_iff (hh : IsWebHost h)
    (hpath : ∀ c, path.getLast? = some c → isPadding c = false) :
    (∀ resolve, ofLine? resolve (['|', '|'] ++ h) = some (.proxy, (ofHost? resolve h).toList)) ∧
    (∀ resolve, ofLine? resolve (['|', '|'] ++ (h ++ '/' :: path)) =
      some (.proxy, (hostsRead h path).filterMap (ofHost? resolve))) ∧
    ((∀ resolve domain, Names resolve [['|', '|'] ++ (h ++ '/' :: path)] .proxy domain ↔
        Names resolve [['|', '|'] ++ h] .proxy domain) ↔
      ∀ host, host ∈ hostsRead h path ∧ isDottedQuad host = false ↔ host = h) ∧
    (expand? (searched path) = none →
      (contains ['.', '*'] path = true →
        ∀ first, (List.splitOn '.' h).head? = some first → '-' ∉ first) →
      ∀ resolve, ofLine? resolve (['|', '|'] ++ (h ++ '/' :: path)) =
        ofLine? resolve (['|', '|'] ++ h)) := by
  have hfirst := head_ne_pipe hh.toIsNamedHost ('/' :: path)
  have hfirst' : ∀ c, h.head? = some c → c ≠ '|' := by
    simpa using head_ne_pipe hh.toIsNamedHost []
  have hlast : ∀ c, (h ++ '/' :: path).getLast? = some c → isPadding c = false := by
    intro c hc
    cases path with
    | nil =>
        obtain rfl : '/' = c := by simpa using hc
        decide
    | cons d path => exact hpath c (by simpa using hc)
  have hlast' : ∀ c, h.getLast? = some c → isPadding c = false := fun c hc =>
    isPadding_namedChar (hh.chars (List.mem_of_getLast? hc))
  refine ⟨?_, ?_, ?_, ?_⟩
  · intro resolve
    rw [ofLine?_anchored resolve hfirst' hlast', hostsOfBody_host hh]
    cases hhost : ofHost? resolve h <;> simp [hhost]
  · intro resolve
    rw [ofLine?_anchored resolve hfirst hlast, hostsOfBody_path hh]
  · rw [← forall_ofHost?_iff hh.isDottedQuad_eq_false]
    refine forall₂_congr ?_
    intro resolve domain
    rw [names_anchored resolve hfirst hlast, names_anchored resolve hfirst' hlast',
      hostsOfBody_host hh, hostsOfBody_path hh]
    simp
  · intro hgroup hhyphen resolve
    rw [ofLine?_anchored resolve hfirst hlast, ofLine?_anchored resolve hfirst' hlast',
      hostsOfBody_host hh, hostsOfBody_path hh,
      hostsRead_eq_singleton hh.toIsNamedHost hgroup hhyphen]

/-- A path that makes the line a regular expression, with parentheses around a single name. -/
theorem names_path_iff_regexp :
    IsWebHost "www.my-site.com".toList ∧
    (∀ c, "ads.(x)/.*%2F*y|^".toList.getLast? = some c → isPadding c = false) ∧
    ∀ resolve, ofLine? resolve "||www.my-site.com/ads.(x)/.*%2F*y|^".toList =
      ofLine? resolve "||www.my-site.com".toList := by
  have hhost : IsWebHost "www.my-site.com".toList := by decide
  have hpath : ∀ c, "ads.(x)/.*%2F*y|^".toList.getLast? = some c → isPadding c = false := by
    rintro c hc
    obtain rfl : '^' = c := Option.some.inj hc
    decide
  refine ⟨hhost, hpath, (names_path_iff hhost hpath).2.2.2 (by decide) ?_⟩
  intro _ first hfirst
  obtain rfl : "www".toList = first := Option.some.inj hfirst
  decide

/-- A group in the path takes the place of the host, and in a regular expression a hyphen in the
first label cuts the host off. -/
theorem not_names_path :
    ofLine? (SuffixRules.lookup {}) "||example.com/foo.(a|b)".toList =
      some (.proxy, ["foo.a".toList, "foo.b".toList]) ∧
    ofLine? (SuffixRules.lookup {}) "||my-site.com/.*".toList =
      some (.proxy, ["site.com".toList]) ∧
    ¬∀ (h path : Text) (resolve : Resolver), IsWebHost h →
      (∀ c, path.getLast? = some c → isPadding c = false) →
      ∀ domain, Names resolve [['|', '|'] ++ (h ++ '/' :: path)] .proxy domain ↔
        Names resolve [['|', '|'] ++ h] .proxy domain := by
  have hgroup : ofLine? (SuffixRules.lookup {}) "||example.com/foo.(a|b)".toList =
      some (.proxy, ["foo.a".toList, "foo.b".toList]) := by decide
  have hplain : ofLine? (SuffixRules.lookup {}) "||example.com".toList =
      some (.proxy, ["example.com".toList]) := by decide
  have hhost : IsWebHost "example.com".toList := by decide
  refine ⟨hgroup, by decide, ?_⟩
  intro hall
  have hnames := hall "example.com".toList "foo.(a|b)".toList (SuffixRules.lookup {}) hhost
    (by rintro c hc; obtain rfl : ')' = c := Option.some.inj hc; decide) "foo.a".toList
  rw [names_singleton, names_singleton] at hnames
  obtain ⟨domains, hline, hmem⟩ := hnames.1 ⟨_, hgroup, List.mem_cons_self⟩
  obtain rfl : ["example.com".toList] = domains :=
    congrArg Prod.snd (Option.some.inj (hplain.symm.trans hline))
  exact absurd hmem (by decide)

end PacRules.Domain
