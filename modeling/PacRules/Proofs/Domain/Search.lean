import PacRules.Proofs.Domain.Path

/-!
# Searching behind a host

A whole rule is searched for a group, and a regular expression also for a run of letters and
figures with a dot behind it. Neither search finds a match across the slash behind a host: a
group opens behind a dot, and a host in a regular expression begins in front of the slash or
behind it. So a search either ends in the host or goes on in the path as if it began there.
-/

namespace PacRules.Domain

open PacRules.Text PacRules.Host PacRules.Suffix

/-! ### Groups -/

theorem expandHere?_cons_of_not {c : Char} (h : isNameChar c = false) (t : Text) :
    expandHere? (c :: t) = none := by
  simp [expandHere?, groupLabels?, h, List.isSuffixOf?, List.isPrefixOf?]

theorem expand?_cons_of_eq_none {c : Char} {t : Text} (h : expandHere? (c :: t) = none) :
    expand? (c :: t) = expand? t := by
  rw [expand?, h]

/-- No group begins where a character ends the names before a parenthesis opens. -/
theorem expandHere?_append {lead : Text} {stop : Char} (hstop : stop ∈ lead)
    (hname : isNameChar stop = false) (hopen : '(' ∉ lead) (t : Text) :
    expandHere? (lead ++ t) = none := by
  obtain ⟨d, rest, hdrop, -⟩ := exists_trimStart_cons hstop hname
  have hd : '(' ≠ d := by
    rintro rfl
    have hmem : '(' ∈ trimStart isNameChar lead := by
      rw [hdrop]
      exact List.mem_cons_self
    exact hopen ((List.dropWhile_sublist _).subset hmem)
  have hkept : (lead ++ t).dropWhile isNameChar = d :: (rest ++ t) := by
    rw [trimStart] at hdrop
    rw [List.dropWhile_append, hdrop]
    rfl
  rw [expandHere?, hkept, isPrefixOf?_cons_of_ne hd]
  simp

/-- No group begins in a text without an opening parenthesis that ends where no name goes on. -/
theorem expand?_append {lead : Text} (hopen : '(' ∉ lead)
    (hlast : ∀ c, lead.getLast? = some c → isNameChar c = false) (t : Text) :
    expand? (lead ++ t) = expand? t := by
  induction lead with
  | nil => rfl
  | cons c lead ih =>
      obtain ⟨stop, hstop⟩ : ∃ stop, (c :: lead).getLast? = some stop := ⟨_, List.getLast?_cons⟩
      have hhere := expandHere?_append (List.mem_of_getLast? hstop) (hlast stop hstop) hopen t
      rw [List.cons_append] at hhere ⊢
      rw [expand?_cons_of_eq_none hhere]
      refine ih (List.not_mem_of_not_mem_cons hopen) ?_
      intro d hd
      refine hlast d ?_
      rw [List.getLast?_cons, hd]
      rfl

/-- No group begins in a front of name characters that another character ends, unless it opens
the group. -/
theorem expand?_append_cons {front : Text} {s : Char} (hname : isNameChar s = false)
    (hopen : s ≠ '(') (h : ∀ c ∈ front, isNameChar c = true) (t : Text) :
    expand? (front ++ s :: t) = expand? t := by
  have hfront : '(' ∉ front := fun hmem => absurd (h '(' hmem) (by decide)
  rw [List.append_cons]
  refine expand?_append ?_ ?_ t
  · simp [hfront, Ne.symm hopen]
  · simpa using hname

/-- Without a parenthesis there is no group. -/
theorem expand?_eq_none_of_not_mem {t : Text} (h : '(' ∉ t) : expand? t = none := by
  induction t with
  | nil => rfl
  | cons c t ih =>
      have hopen : List.isPrefixOf? ['('] ((c :: t).dropWhile isNameChar) = none := by
        rw [isPrefixOf?_eq_none_iff]
        intro hopen
        have hmem : '(' ∈ (c :: t).dropWhile isNameChar := hopen.subset List.mem_cons_self
        exact h ((List.dropWhile_sublist _).subset hmem)
      have hhere : expandHere? (c :: t) = none := by
        rw [expandHere?, hopen]
        simp
      rw [expand?_cons_of_eq_none hhere]
      exact ih (List.not_mem_of_not_mem_cons h)

/-! ### Runs -/

theorem takeWhile_line {t : Text} (h : '\n' ∉ t) : t.takeWhile (· ≠ '\n') = t := by
  refine List.takeWhile_eq_self_iff.2 ?_
  intro c hc
  simpa using ne_of_mem_of_not_mem hc h

/-- A host is found in front of a character that neither belongs to a run nor is the dot behind
one, or else the search goes on behind it. -/
theorem hostInRegexp?_append_cons {front : Text} {s : Char} (hrun : isRunChar s = false)
    (hdot : s ≠ '.') (hline : s ≠ '\n') (h : '\n' ∉ front) (t : Text) :
    hostInRegexp? (front ++ s :: t) =
      ((hostInRegexp? front).map fun found => found ++ s :: t.takeWhile (· ≠ '\n')).or
        (hostInRegexp? t) := by
  -- a run in the front ends there at the latest
  induction front with
  | nil => simp [hostInRegexp?, run?, hrun]
  | cons c front ih =>
      have htail := ih (List.not_mem_of_not_mem_cons h)
      have hspan := run?_append_cons hrun (c :: front) t
      have hwhole := takeWhile_line h
      have hpart : (c :: front ++ s :: t).takeWhile (· ≠ '\n') =
          c :: front ++ s :: t.takeWhile (· ≠ '\n') := by
        rw [List.takeWhile_append_of_pos (List.takeWhile_eq_self_iff.1 hwhole)]
        simp [hline]
      rw [List.cons_append] at hspan hpart ⊢
      rw [hostInRegexp?, hostInRegexp?, hspan, hpart, hwhole]
      cases run? isRunChar (c :: front) with
      | none => exact htail
      | some found =>
          obtain ⟨run, rest⟩ := found
          cases rest with
          | nil => simpa [hdot] using htail
          | cons d rest =>
              by_cases hd : d = '.'
              · simp [hd]
              · simp [hd, htail]

theorem hostInRegexp?_cons_of_not {c : Char} (h : isRunChar c = false) (t : Text) :
    hostInRegexp? (c :: t) = hostInRegexp? t := by
  simp [hostInRegexp?, run?, h]

/-- What is found begins with a run and the dot behind it, and goes on to the end of the line. -/
theorem exists_run_of_hostInRegexp? {t found : Text} (h : hostInRegexp? t = some found) :
    ∃ before run rest, t = before ++ (run ++ '.' :: rest) ∧ run ≠ [] ∧
      (∀ c ∈ run, isRunChar c = true) ∧ found = (run ++ '.' :: rest).takeWhile (· ≠ '\n') := by
  induction t with
  | nil => cases h
  | cons c t ih =>
      rw [hostInRegexp?] at h
      split at h
      · next run rest hrun =>
          obtain ⟨heq, hne, hall⟩ := run?_eq_some hrun
          refine ⟨[], run, rest, heq, hne, hall, ?_⟩
          rw [← heq]
          exact (Option.some.inj h).symm
      · obtain ⟨before, run, rest, rfl, hrun⟩ := ih h
        exact ⟨c :: before, run, rest, rfl, hrun⟩

variable {h found : Text}

/-- A host that is found in a web host is one. -/
theorem isWebHost_of_hostInRegexp? (hh : IsWebHost h) (hfound : hostInRegexp? h = some found) :
    IsWebHost found := by
  obtain ⟨before, run, rest, rfl, hne, hall, rfl⟩ := exists_run_of_hostInRegexp? hfound
  have hbreak : '\n' ∉ run ++ '.' :: rest := fun hmem =>
    hh.not_mem (by decide) (List.mem_append_right before hmem)
  rw [takeWhile_line hbreak]
  exact hh.of_append hne hall

/-- A host whose first label holds no hyphen is found whole. -/
theorem hostInRegexp?_eq_self (hh : IsNamedHost h)
    (hfirst : ∀ first, (List.splitOn '.' h).head? = some first → '-' ∉ first) :
    hostInRegexp? h = some h := by
  have hline := takeWhile_line (hh.not_mem (c := '\n') (by decide))
  obtain ⟨first, rest, hne, hchars, -, heq, hsplit⟩ := hh.exists_first
  have hhyphen := hfirst first (by simp [hsplit])
  have hall : ∀ c ∈ first, isRunChar c = true := by
    intro c hc
    have hc' := hchars c hc
    have hne : c ≠ '-' := ne_of_mem_of_not_mem hc hhyphen
    simpa [isHostChar, hne] using hc'
  have hrun : run? isRunChar h = some (first, '.' :: List.intercalate ['.'] rest) := by
    have htake : first.takeWhile isRunChar = first := List.takeWhile_eq_self_iff.2 hall
    have hdrop : first.dropWhile isRunChar = [] := List.dropWhile_eq_nil_iff.2 hall
    rw [heq, run?_append_cons (by decide), run?, htake, hdrop]
    cases first with
    | nil => exact absurd rfl hne
    | cons c first => rfl
  obtain ⟨c, t, rfl, -⟩ := hh.exists_cons
  rw [hostInRegexp?, hrun]
  simp only [hline]

/-! ### Escapes -/

theorem replace_escape_append {front : Text} (h : '\\' ∉ front) (pattern new t : Text) :
    replace ('\\' :: pattern) new (front ++ t) = front ++ replace ('\\' :: pattern) new t := by
  refine Text.substitute_append ?_
  intro c rest hsuffix
  have hc : '\\' ≠ c := by
    rintro rfl
    exact h (hsuffix.subset List.mem_cons_self)
  simp [literal, hc]

/-- Escapes are resolved behind a front without any. -/
theorem unescaped_append {front : Text} (h : '\\' ∉ front) (t : Text) :
    unescaped (front ++ t) = front ++ unescaped t := by
  rw [unescaped, replace_escape_append h, replace_escape_append h]
  rfl

end PacRules.Domain
