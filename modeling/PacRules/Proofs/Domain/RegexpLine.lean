import PacRules.Proofs.Domain.HostLine

/-!
# Regular expressions that name a host

A host can be written out in a regular expression for web addresses, with a backslash in front of
each of its dots. Such a line is read without the backslashes and searched for a run of letters
and figures with a dot behind it. A hyphen belongs to no run, so the host is found whole exactly
if its first label holds none; otherwise it is found from behind a hyphen on, if at all.
-/

namespace PacRules.Domain

open PacRules.Text PacRules.Host PacRules.Rule PacRules.Suffix

variable {h t : Text}

/-- A host with a backslash in front of each dot. -/
def escaped (h : Text) : Text := replace ['.'] ['\\', '.'] h

/-- What a regular expression for web addresses begins with, between its slashes. -/
def addressSource : Text := "^https?:\\/\\/".toList

/-- The line of a regular expression for the web addresses with the host `h`. -/
def regexpLine (h : Text) : Text := '/' :: (addressSource ++ (escaped h ++ "\\//".toList))

/-! ### Escapes -/

@[simp] theorem escaped_cons_dot (h : Text) : escaped ('.' :: h) = '\\' :: '.' :: escaped h := by
  have hmatch : literal ['.'] ['\\', '.'] ('.' :: h) = some (0, ['\\', '.']) := by
    simp [literal]
  rw [escaped, replace, substitute_cons_of_eq_some hmatch]
  rfl

theorem escaped_cons_of_ne {c : Char} (hc : '.' ≠ c) (h : Text) :
    escaped (c :: h) = c :: escaped h :=
  replace_cons_of_ne hc [] _ h

theorem replace_escape_cons_self (c : Char) (t : Text) :
    replace ['\\', c] [c] ('\\' :: c :: t) = c :: replace ['\\', c] [c] t :=
  replace_append_self '\\' [c] [c] t

/-- An escape of another character is passed over. -/
theorem replace_escape_cons_of_ne {c d : Char} (hd : c ≠ d) (t : Text) :
    replace ['\\', c] [c] ('\\' :: d :: t) = '\\' :: replace ['\\', c] [c] (d :: t) :=
  replace_cons_of_head? (by simpa using Ne.symm hd) [] [c]

theorem replace_slashes_escaped (hback : '\\' ∉ h) (t : Text) :
    replace ['\\', '/'] ['/'] (escaped h ++ t) = escaped h ++ replace ['\\', '/'] ['/'] t := by
  induction h with
  | nil => rfl
  | cons c h ih =>
      rw [List.mem_cons, not_or] at hback
      by_cases hc : '.' = c
      · rw [← hc, escaped_cons_dot, List.cons_append, List.cons_append,
          replace_escape_cons_of_ne (by decide), replace_cons_of_ne (by decide), ih hback.2]
        rfl
      · rw [escaped_cons_of_ne hc, List.cons_append, replace_cons_of_ne hback.1, ih hback.2]
        rfl

theorem replace_dots_escaped (hback : '\\' ∉ h) (t : Text) :
    replace ['\\', '.'] ['.'] (escaped h ++ t) = h ++ replace ['\\', '.'] ['.'] t := by
  induction h with
  | nil => rfl
  | cons c h ih =>
      rw [List.mem_cons, not_or] at hback
      by_cases hc : '.' = c
      · rw [← hc, escaped_cons_dot, List.cons_append, List.cons_append, replace_escape_cons_self,
          ih hback.2]
        rfl
      · rw [escaped_cons_of_ne hc, List.cons_append, replace_cons_of_ne hback.1, ih hback.2]
        rfl

/-- Between its slashes the line reads as an address whose host is `h`. -/
theorem unescaped_source (hback : '\\' ∉ h) :
    unescaped (addressSource ++ (escaped h ++ "\\/".toList)) =
      "^https?://".toList ++ (h ++ ['/']) := by
  have hend : replace ['\\', '/'] ['/'] "\\/".toList = ['/'] := rfl
  have hslashes : replace ['\\', '/'] ['/'] (addressSource ++ (escaped h ++ "\\/".toList)) =
      "^https?://".toList ++ (escaped h ++ ['/']) := by
    change replace ['\\', '/'] ['/']
      ("^https?:".toList ++ '\\' :: '/' :: '\\' :: '/' :: (escaped h ++ "\\/".toList)) = _
    rw [replace_escape_append (by decide), replace_escape_cons_self, replace_escape_cons_self,
      replace_slashes_escaped hback, hend]
    rfl
  rw [unescaped, hslashes, replace_escape_append (by decide), replace_dots_escaped hback]
  rfl

/-! ### The search -/

/-- The address has no group. -/
theorem expand?_address (hh : IsNamedHost h) :
    expand? ("^https?://".toList ++ (h ++ ['/'])) = none := by
  have hname : ∀ c ∈ h, isNameChar c = true := fun c hc => isNameChar_namedChar (hh.chars hc)
  have hpath : expand? (h ++ ['/']) = none := expand?_append_cons (by decide) (by decide) hname []
  have hscheme : ∀ c ∈ "https".toList, isNameChar c = true := List.all_eq_true.1 rfl
  have hslash : ∀ t, expand? ('/' :: t) = expand? t := fun t =>
    expand?_cons_of_eq_none (expandHere?_cons_of_not (by decide) t)
  calc expand? ('^' :: ("https".toList ++ '?' :: ([] ++ ':' :: '/' :: '/' :: (h ++ ['/']))))
      = expand? ("https".toList ++ '?' :: ([] ++ ':' :: '/' :: '/' :: (h ++ ['/']))) :=
        expand?_cons_of_eq_none (expandHere?_cons_of_not (by decide) _)
    _ = expand? ([] ++ ':' :: '/' :: '/' :: (h ++ ['/'])) :=
        expand?_append_cons (by decide) (by decide) hscheme _
    _ = expand? ('/' :: '/' :: (h ++ ['/'])) :=
        expand?_append_cons (by decide) (by decide) (by simp) _
    _ = none := by rw [hslash, hslash, hpath]

/-- No host is found in front of the host of the address. -/
theorem hostInRegexp?_address (hh : IsNamedHost h) :
    hostInRegexp? ("^https?://".toList ++ (h ++ ['/'])) =
      (hostInRegexp? h).map fun found => found ++ ['/'] := by
  have hscheme : ∀ t, hostInRegexp? ("^https".toList ++ '?' :: t) = hostInRegexp? t := fun t =>
    hostInRegexp?_append_cons (by decide) (by decide) (by decide) (by decide) t
  have hskip : ∀ c ∈ [':', '/'], ∀ t, hostInRegexp? (c :: t) = hostInRegexp? t := by
    intro c hc t
    refine hostInRegexp?_cons_of_not ?_ t
    rcases List.mem_pair.1 hc with rfl | rfl <;> decide
  have hpath := hostInRegexp?_append_cons (s := '/') (by decide) (by decide) (by decide)
    (hh.not_mem (c := '\n') (by decide)) []
  calc hostInRegexp? ("^https".toList ++ '?' :: ':' :: '/' :: '/' :: (h ++ ['/']))
      = hostInRegexp? (h ++ ['/']) := by
        rw [hscheme, hskip ':' (by simp), hskip '/' (by simp), hskip '/' (by simp)]
    _ = (hostInRegexp? h).map fun found => found ++ ['/'] := by
        rw [hpath]
        cases hostInRegexp? h <;> rfl

/-- A host is found whole exactly if its first label holds no hyphen. -/
theorem hostInRegexp?_eq_self_iff (hh : IsNamedHost h) :
    hostInRegexp? h = some h ↔
      ∀ first, (List.splitOn '.' h).head? = some first → '-' ∉ first := by
  constructor
  · intro hfound first hfirst
    obtain ⟨before, run, rest, heq, -, hrun, hline⟩ := exists_run_of_hostInRegexp? hfound
    -- what is found is no shorter than the host, so the run is the first label
    have hlength : h.length ≤ (run ++ '.' :: rest).length :=
      hline ▸ (List.takeWhile_prefix _).length_le
    have hbefore : before = [] := by
      rw [heq, List.length_append] at hlength
      exact List.eq_nil_of_length_eq_zero (by omega)
    have hlabels : (List.splitOn '.' h).head? = some run := by
      rw [heq, hbefore, List.nil_append,
        List.splitOn_append_cons_self_of_not_mem fun hmem => absurd (hrun '.' hmem) (by decide)]
      rfl
    obtain rfl : run = first := Option.some.inj (hlabels.symm.trans hfirst)
    exact fun hmem => absurd (hrun '-' hmem) (by decide)
  · exact hostInRegexp?_eq_self hh

/-! ### The domains of the lines -/

theorem regexpLiteral?_regexpLine (h : Text) :
    regexpLiteral? (regexpLine h) = some (addressSource ++ (escaped h ++ "\\/".toList)) := by
  have hend : addressSource ++ (escaped h ++ "\\//".toList) =
      addressSource ++ (escaped h ++ "\\/".toList) ++ ['/'] := by simp
  rw [regexpLine, hend, regexpLiteral?]
  simp

theorem ofRegexp_regexpLine (hh : IsWebHost h) (resolve : Resolver) :
    ofRegexp resolve (regexpLine h) = ((hostInRegexp? h).bind (ofHost? resolve)).toList := by
  rw [ofRegexp, regexpLiteral?_regexpLine, Option.getD_some,
    unescaped_source (hh.not_mem (by decide)), expand?_address hh.toIsNamedHost,
    hostInRegexp?_address hh.toIsNamedHost]
  cases hfound : hostInRegexp? h with
  | none => rfl
  | some found =>
      have hhost := hostOfRule?_path (isWebHost_of_hostInRegexp? hh hfound) 0 []
      rw [List.replicate_zero, List.nil_append] at hhost
      simp [ofRule?_eq_bind, hhost]

/-- The line of a regular expression sends the domain of the host that is found through the
proxy. -/
theorem ofLine?_regexpLine (hh : IsWebHost h) (resolve : Resolver) :
    ofLine? resolve (regexpLine h) =
      some (.proxy, ((hostInRegexp? h).bind (ofHost? resolve)).toList) := by
  have hlast : (regexpLine h).getLast? = some '/' := by
    simp [regexpLine, List.getLast?_cons, List.getLast?_append]
  have htrimmed : trimmed (regexpLine h) = regexpLine h := by
    refine trimmed_eq_self ?_ ?_
    · rintro c hc
      obtain rfl : '/' = c := Option.some.inj hc
      decide
    · rintro c hc
      obtain rfl : '/' = c := Option.some.inj (hlast.symm.trans hc)
      decide
  have hmark : List.isPrefixOf? exceptionMark (regexpLine h) = none :=
    isPrefixOf?_cons_of_ne (by decide) _ _
  rw [ofLine?, htrimmed]
  simp only [hmark, ofRegexp_regexpLine hh]
  simp [regexpLine, holdsNoRule]

theorem ofLine?_hostLine (hh : IsWebHost h) (resolve : Resolver) :
    ofLine? resolve (['|', '|'] ++ h) = some (.proxy, (ofHost? resolve h).toList) := by
  have hfirst : ∀ c, h.head? = some c → c ≠ '|' := by
    simpa using head_ne_pipe hh.toIsNamedHost []
  have hlast : ∀ c, h.getLast? = some c → isPadding c = false := fun c hc =>
    isPadding_namedChar (hh.chars (List.mem_of_getLast? hc))
  rw [ofLine?_anchored resolve hfirst hlast, hostsOfBody_host hh]
  cases hhost : ofHost? resolve h <;> simp [hhost]

/-- A regular expression that names a host sends the same domains through the proxy as two pipes
and the host, whatever the resolver, exactly if the first label of the host has no hyphen. What
it names otherwise is an ending of the host, or nothing. -/
theorem ofLine?_regexpLine_eq_iff (hh : IsWebHost h) :
    ((∀ resolve, ofLine? resolve (regexpLine h) = ofLine? resolve (['|', '|'] ++ h)) ↔
      ∀ first, (List.splitOn '.' h).head? = some first → '-' ∉ first) ∧
    (∀ resolve, ofLine? resolve (['|', '|'] ++ h) = some (.proxy, (ofHost? resolve h).toList)) ∧
    ∃ found : Option Text, (∀ host ∈ found, IsWebHost host ∧ host <:+ h) ∧
      ∀ resolve, ofLine? resolve (regexpLine h) =
        some (.proxy, (found.bind (ofHost? resolve)).toList) := by
  refine ⟨?_, ofLine?_hostLine hh, hostInRegexp? h, ?_, ofLine?_regexpLine hh⟩
  · rw [← hostInRegexp?_eq_self_iff hh.toIsNamedHost]
    constructor
    · -- the domain that `telling` gives the host tells it from what is found instead
      intro hall
      have htold := hall telling
      rw [ofLine?_regexpLine hh, ofLine?_hostLine hh, ofHost?_telling,
        if_neg (by simp [hh.isDottedQuad_eq_false])] at htold
      cases hfound : hostInRegexp? h with
      | none => simp [hfound] at htold
      | some found =>
          have hquad := (isWebHost_of_hostInRegexp? hh hfound).isDottedQuad_eq_false
          simpa [hfound, ofHost?_telling, hquad] using htold
    · intro hfound resolve
      rw [ofLine?_regexpLine hh, ofLine?_hostLine hh, hfound]
      rfl
  · intro host hhost
    refine ⟨isWebHost_of_hostInRegexp? hh hhost, ?_⟩
    obtain ⟨before, run, rest, heq, -, -, hline⟩ := exists_run_of_hostInRegexp? hhost
    have hbreak : '\n' ∉ run ++ '.' :: rest := fun hmem =>
      hh.not_mem (by decide) (heq ▸ List.mem_append_right before hmem)
    rw [takeWhile_line hbreak] at hline
    exact ⟨before, by rw [hline, ← heq]⟩

/-- A host with hyphens in its later labels is named by either line. -/
theorem ofLine?_regexpLine_eq_iff_hyphens :
    IsWebHost "cdn.my-site.co-op.uk".toList ∧
    ∀ resolve, ofLine? resolve "/^https?:\\/\\/cdn\\.my-site\\.co-op\\.uk\\//".toList =
      ofLine? resolve "||cdn.my-site.co-op.uk".toList := by
  have hhost : IsWebHost "cdn.my-site.co-op.uk".toList := by decide
  refine ⟨hhost, (ofLine?_regexpLine_eq_iff hhost).1.2 ?_⟩
  intro first hfirst
  obtain rfl : "cdn".toList = first := Option.some.inj hfirst
  decide

/-- A hyphen in the first label cuts the host off. -/
theorem not_ofLine?_regexpLine_eq :
    ofLine? (SuffixRules.lookup {}) "/^https?:\\/\\/my-site\\.com\\//".toList =
      some (.proxy, ["site.com".toList]) ∧
    ofLine? (SuffixRules.lookup {}) "||my-site.com".toList =
      some (.proxy, ["my-site.com".toList]) ∧
    ¬∀ (h : Text) (resolve : Resolver), IsWebHost h →
      ofLine? resolve (regexpLine h) = ofLine? resolve (['|', '|'] ++ h) := by
  have hregexp : ofLine? (SuffixRules.lookup {}) "/^https?:\\/\\/my-site\\.com\\//".toList =
      some (.proxy, ["site.com".toList]) := by decide
  have hplain : ofLine? (SuffixRules.lookup {}) "||my-site.com".toList =
      some (.proxy, ["my-site.com".toList]) := by decide
  refine ⟨hregexp, hplain, ?_⟩
  intro hall
  have heq := hall "my-site.com".toList (SuffixRules.lookup {}) (by decide)
  exact absurd (hregexp.symm.trans (heq.trans hplain)) (by decide)

end PacRules.Domain
