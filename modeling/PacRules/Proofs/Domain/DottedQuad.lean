import PacRules.Proofs.Domain.Edges
import PacRules.Proofs.Domain.WellFormed

/-!
# Addresses of four numbers

A dotted quad, four numbers with dots between them, has no domain. Whether a host is one is asked of
the host as it stands, but a resolver looks it up without the dots behind it. So a quad with a dot
behind it is not taken for one, and if its numbers are not too long for labels, it has the domain
that the resolver finds for the quad: without any rules, its last two numbers.
-/

namespace PacRules.Domain

open PacRules.Text PacRules.Host PacRules.Rule PacRules.Suffix

/-- Without the dots behind it, the host is four numbers in ASCII digits with dots between them. -/
def IsQuadHost (host : Text) : Prop :=
  ∃ numbers : List Text, numbers.length = 4 ∧
    (∀ number ∈ numbers, number ≠ [] ∧ number.all Char.isDigit = true) ∧
    trimEnd (· = '.') host = List.intercalate ['.'] numbers

/-- A resolver that finds no domain for a host that cannot be looked up. -/
def Refuses (resolve : Resolver) : Prop :=
  ∀ host, (∃ e, checkedHost host = .error e) → ∃ e, resolve host = .error e

theorem refuses_checking (registrable? : Text → Option Text) :
    Refuses (.checking registrable?) := by
  rintro host ⟨e, he⟩
  refine ⟨e, ?_⟩
  rw [Resolver.checking, he]
  rfl

variable {host quad dots front : Text} {resolve : Resolver}

theorem ofHost?_eq_none_of_refuses (h : Refuses resolve)
    (hhost : ∃ e, checkedHost host = .error e) : ofHost? resolve host = none := by
  obtain ⟨e, he⟩ := h host hhost
  simp [ofHost?, he]

/-- A host with a character that no label may have cannot be looked up. -/
theorem exists_checkedHost_eq_error {c : Char} (hc : c ∈ examined host) (hdot : c ≠ '.')
    (hchar : Suffix.isLabelChar c = false) : ∃ e, checkedHost host = .error e := by
  cases hchecked : checkedHost host with
  | error e => exact ⟨e, rfl⟩
  | ok checked =>
      obtain ⟨rfl, -, hlabels⟩ := of_checkedHost_eq_ok hchecked
      obtain ⟨label, hlabel, hmem⟩ := (eq_or_mem_splitOn '.' hc).resolve_left hdot
      have hallowed := (labelError?_eq_none_iff.1 (hlabels label hlabel)).2.2 c hmem
      rw [hchar] at hallowed
      cases hallowed

/-! ### Quads -/

theorem isNamedHost_of_isDottedQuad (h : isDottedQuad quad = true) : IsNamedHost quad := by
  simp only [isDottedQuad, Bool.and_eq_true, decide_eq_true_eq, List.all_eq_true,
    Bool.not_eq_true', List.isEmpty_eq_false_iff] at h
  obtain ⟨hfour, hlabels⟩ := h
  refine ⟨by omega, fun label hlabel => (hlabels label hlabel).1, ?_⟩
  intro label hlabel c hc
  simp [isHostChar, isRunChar, (hlabels label hlabel).2 c hc]

theorem isDigit_or_eq_dot (h : isDottedQuad quad = true) {c : Char} (hc : c ∈ quad) :
    c.isDigit = true ∨ c = '.' := by
  simp only [isDottedQuad, Bool.and_eq_true, List.all_eq_true] at h
  rcases eq_or_mem_splitOn '.' hc with rfl | ⟨label, hlabel, hmem⟩
  · exact .inr rfl
  · exact .inl ((h.2 label hlabel).2 c hmem)

theorem getLast?_quad_ne (h : isDottedQuad quad = true) : quad.getLast? ≠ some '.' :=
  getLast?_ne_of_splitOn (isNamedHost_of_isDottedQuad h).label_ne_nil

theorem isDottedQuad_intercalate {numbers : List Text} (hfour : numbers.length = 4)
    (hnumbers : ∀ number ∈ numbers, number ≠ [] ∧ number.all Char.isDigit = true) :
    isDottedQuad (List.intercalate ['.'] numbers) = true := by
  have hsplit : List.splitOn '.' (List.intercalate ['.'] numbers) = numbers := by
    refine List.splitOn_intercalate '.' ?_ (List.ne_nil_of_length_pos (by omega))
    intro number hnumber hdot
    exact absurd (List.all_eq_true.1 (hnumbers number hnumber).2 '.' hdot) (by decide)
  have hall : (numbers.all fun part => !part.isEmpty && part.all Char.isDigit) = true := by
    refine List.all_eq_true.2 ?_
    intro number hnumber
    obtain ⟨hne, hdigits⟩ := hnumbers number hnumber
    simp [hne, hdigits]
  rw [isDottedQuad, hsplit, hall, hfour]
  rfl

theorem IsQuadHost.exists_dots (h : IsQuadHost host) :
    ∃ quad dots, isDottedQuad quad = true ∧ (∀ c ∈ dots, c = '.') ∧ host = quad ++ dots := by
  obtain ⟨numbers, hfour, hnumbers, hquad⟩ := h
  obtain ⟨dots, heq, hdots⟩ := exists_trimEnd_append (· = '.') host
  rw [hquad] at heq
  exact ⟨List.intercalate ['.'] numbers, dots, isDottedQuad_intercalate hfour hnumbers,
    by simpa using hdots, heq⟩

theorem isCapital_namedChar {c : Char} (hc : isNamedChar c = true) : isCapital c = false := by
  have hlow := toNat_lt_of_isNamedChar hc
  have hupper : ¬(65 ≤ c.toNat ∧ c.toNat ≤ 90) :=
    forall_namedChar (P := fun c => ¬(65 ≤ c.toNat ∧ c.toNat ≤ 90)) (by decide) hc
  refine isCapital_eq_false_iff.2 ⟨hupper, by omega, ?_⟩
  intro s hs
  rw [Bool.eq_false_iff]
  intro hcontains
  have hhigh := LowerSpan.le_of_contains hs hcontains
  omega

/-- A quad is examined as it is, without the dots behind it and with the marks in front of it. -/
theorem examined_quad (hquad : isDottedQuad quad = true) (hdots : ∀ c ∈ dots, c = '.')
    (hfront : ∀ c ∈ front, c = '|' ∨ c = '.') :
    examined (front ++ (quad ++ dots)) = front ++ quad := by
  have hh := isNamedHost_of_isDottedQuad hquad
  have hend : trimEnd (· = '.') (front ++ quad) = front ++ quad := by
    refine trimEnd_eq_self ?_
    intro c hc
    obtain ⟨d, t, rfl, -⟩ := hh.exists_cons
    rw [List.getLast?_append_of_ne_nil front (List.cons_ne_nil d t)] at hc
    simpa using ne_of_apply_ne some (hc ▸ getLast?_quad_ne hquad)
  rw [examined, ← List.append_assoc, trimEnd_append_of_all (by simpa using hdots), hend]
  refine lower_eq_self ?_
  intro c hc
  rcases List.mem_append.1 hc with hc | hc
  · rcases hfront c hc with rfl | rfl <;> decide
  · exact isCapital_namedChar (hh.chars hc)

/-! ### The domain of a quad with dots behind it -/

theorem getLast?_append_dots_iff (hquad : isDottedQuad quad = true) (hdots : ∀ c ∈ dots, c = '.') :
    (quad ++ dots).getLast? ≠ some '.' ↔ dots = [] := by
  constructor
  · intro h
    by_contra hne
    obtain ⟨more, c, rfl⟩ := (List.eq_nil_or_concat dots).resolve_left hne
    obtain rfl : c = '.' := hdots c (by simp)
    exact h (by simp)
  · rintro rfl
    simpa using getLast?_quad_ne hquad

/-- No common suffix is made of numbers. -/
theorem lastLabels_not_mem_commonPairs (hquad : isDottedQuad quad = true) (n : Nat) :
    SuffixRules.lastLabels n (List.splitOn '.' quad) ∉ SuffixRules.commonPairs := by
  have hletter : (SuffixRules.commonPairs.all fun name => name.any Char.isLower) = true := by decide
  intro hmem
  obtain ⟨c, hc, hlower⟩ := List.any_eq_true.1 (List.all_eq_true.1 hletter _ hmem)
  have hquadChar := (intercalate_drop_suffix '.' (List.splitOn '.' quad) _).subset hc
  rw [List.intercalate_splitOn] at hquadChar
  rcases isDigit_or_eq_dot hquad hquadChar with hdigit | rfl
  · rw [(not_digit_of_isLower hlower).1] at hdigit
    cases hdigit
  · cases hlower

/-- With a dot behind it a quad that can be looked up has its last two numbers for a domain, if
there are no rules. -/
theorem ofHost?_quad_dots (hquad : isDottedQuad quad = true) (hdots : ∀ c ∈ dots, c = '.')
    (hne : dots ≠ []) {checked : Text} (hchecked : checkedHost (quad ++ dots) = .ok checked) :
    ofHost? (SuffixRules.lookup {}) (quad ++ dots) =
      some (SuffixRules.lastLabels 2 (List.splitOn '.' quad)) := by
  have hh := isNamedHost_of_isDottedQuad hquad
  obtain rfl : checked = quad := by
    rw [(of_checkedHost_eq_ok hchecked).1]
    exact examined_quad hquad hdots (List.forall_mem_nil fun c => c = '|' ∨ c = '.')
  have htwo := hh.two_le_labels
  have hlabels := SuffixRules.splitOn_lastLabels Nat.two_pos htwo
  refine ofHost?_eq_some_iff.2 ⟨?_, ?_, ?_, ?_⟩
  · rw [Bool.eq_false_iff]
    intro h
    exact hne ((getLast?_append_dots_iff hquad hdots).1 (getLast?_quad_ne h))
  · have hone : ¬(List.splitOn '.' checked).length ≤ 1 := by omega
    have hregistrable : SuffixRules.registrable? {} checked =
        some (SuffixRules.lastLabels 2 (List.splitOn '.' checked)) := by
      simp [SuffixRules.registrable?, hone, SuffixRules.isEmpty, SuffixRules.fallback?,
        lastLabels_not_mem_commonPairs hquad]
    rw [SuffixRules.lookup_of_checkedHost _ hchecked, hregistrable]
  · by_contra hdot
    have hlength := SuffixRules.length_splitOn_lastLabels Nat.two_pos htwo
    rw [List.splitOn_eq_singleton hdot] at hlength
    cases hlength
  · refine getLast?_ne_of_splitOn ?_
    intro label hlabel
    rw [hlabels] at hlabel
    exact hh.label_ne_nil label (List.mem_of_mem_drop hlabel)

/-! ### Lines that name a quad -/

/-- A mark is taken from the front no further than to the quad. -/
theorem trimStart_quad (hquad : isDottedQuad quad = true) {d : Char} (hd : isHostChar d = false)
    (front dots : Text) :
    trimStart (· = d) (front ++ (quad ++ dots)) = trimStart (· = d) front ++ (quad ++ dots) := by
  refine trimStart_host (isNamedHost_of_isDottedQuad hquad) ?_ front dots
  intro c hc
  exact decide_eq_false (ne_of_apply_ne isHostChar (by simp [hc, hd]))

/-- The host that a quad is looked up by, with pipes and dots in front of it: the pipes and then the
dots are taken off. -/
theorem hostOfRule?_quad (hquad : isDottedQuad quad = true) (hdots : ∀ c ∈ dots, c = '.')
    (hfront : ∀ c ∈ front, c = '|' ∨ c = '.') :
    hostOfRule? (front ++ (quad ++ dots)) =
      some (trimStart (· = '.') (trimStart (· = '|') front) ++ (quad ++ dots)) := by
  have hh := isNamedHost_of_isDottedQuad hquad
  have hstar : '*' ∉ front ++ (quad ++ dots) := by
    simp only [List.mem_append, not_or]
    refine ⟨?_, hh.not_mem (by decide), ?_⟩
    · intro hmem
      simpa using hfront '*' hmem
    · intro hmem
      simpa using hdots '*' hmem
  have hback : ∀ c, isNamedChar c = true → (decide (c = '|') || decide (c = '^')) = false := by
    intro c hc
    exact forall_namedChar (P := fun c => (decide (c = '|') || decide (c = '^')) = false)
      (by decide) hc
  have hend : trimEnd (fun c => c = '|' || c = '^') dots = dots := by
    refine trimEnd_eq_self ?_
    intro c hc
    rw [hdots c (List.mem_of_getLast? hc)]
    decide
  have hstripped : stripped (front ++ (quad ++ dots)) =
      trimStart (· = '.') (trimStart (· = '|') front) ++ (quad ++ dots) := by
    rw [stripped_of_star_not_mem hstar, Step.apply, trimStart_quad hquad (by decide),
      trimEnd_host hh hback, hend, trimStart_quad hquad (by decide)]
  have hedged : ∀ c ∈ stripped (front ++ (quad ++ dots)), isEdgedChar c = true := by
    intro c hc
    have hmem := (stripped_sublist _).subset hc
    simp only [List.mem_append] at hmem
    rcases hmem with hc | hc | hc
    · rcases hfront c hc with rfl | rfl <;> decide
    · simp [isEdgedChar, hh.chars hc]
    · rw [hdots c hc]
      decide
  rw [hostOfRule?_of_edged hedged, hstripped, if_pos]
  simp [hh.dot_mem]

/-- A line of pipes and dots in front of a quad sends the domain of the host that is looked up
through the proxy. -/
theorem ofLine?_quad (resolve : Resolver) (hquad : isDottedQuad quad = true)
    (hdots : ∀ c ∈ dots, c = '.') (hfront : ∀ c ∈ front, c = '|' ∨ c = '.') :
    ofLine? resolve (front ++ (quad ++ dots)) = some (.proxy, (ofHost? resolve
      (trimStart (· = '.') (trimStart (· = '|') front) ++ (quad ++ dots))).toList) := by
  have hh := isNamedHost_of_isDottedQuad hquad
  have hchars : ∀ c ∈ front ++ (quad ++ dots), c = '|' ∨ isNamedChar c = true := by
    intro c hc
    simp only [List.mem_append] at hc
    rcases hc with hc | hc | hc
    · exact (hfront c hc).imp_right fun heq => by rw [heq]; decide
    · exact .inr (hh.chars hc)
    · exact .inr (by rw [hdots c hc]; decide)
  have hne : front ++ (quad ++ dots) ≠ [] := by
    intro hnil
    simp only [List.append_eq_nil_iff] at hnil
    exact absurd hh.dot_mem (by simp [hnil.2.1])
  have hpadding : ∀ c ∈ front ++ (quad ++ dots), isPadding c = false := by
    intro c hc
    rcases hchars c hc with rfl | hnamed
    · decide
    · exact isPadding_namedChar hnamed
  have hmarks : ∀ c ∈ ['!', '@', '/', '*', '('], c ∉ front ++ (quad ++ dots) := by
    have hall : (['!', '@', '/', '*', '('].all fun c => c ≠ '|' && !isNamedChar c) = true := by
      decide
    intro c hc hmem
    have hnot := List.all_eq_true.1 hall c hc
    rcases hchars c hmem with rfl | hnamed
    · simp at hnot
    · simp [hnamed] at hnot
  have hinner : ∀ c ∈ trimStart (· = '|') front, c = '|' ∨ c = '.' := fun c hc =>
    hfront c ((List.dropWhile_sublist _).subset hc)
  -- the line is trimmed of its pipes, and the rule is then stripped of pipes once more
  have htwice : trimStart (· = '|') (trimStart (· = '|') front) = trimStart (· = '|') front :=
    List.dropWhile_idempotent _ _
  rw [ofLine?_of_plain resolve hne hpadding hmarks, trimStart_quad hquad (by decide),
    ofRule?_eq_bind, hostOfRule?_quad hquad hdots hinner, htwice]
  rfl

/-- In front of a quad no mark is left exactly if the pipes stand before the dots. -/
theorem isOrderedFront_iff_of_pipes (hfront : ∀ c ∈ front, c = '|' ∨ c = '.') :
    IsOrderedFront front ↔ trimStart (· = '.') (trimStart (· = '|') front) = [] := by
  have hinner : innerFront front = trimStart (· = '|') front := by
    refine trimStart_eq_self ?_
    intro c hc
    rcases hfront c ((List.dropWhile_sublist _).subset (List.mem_of_head? hc)) with rfl | rfl <;>
      decide
  rw [isOrderedFront_iff, hinner]

/-- With a pipe behind a dot in front of it a quad cannot be looked up. -/
theorem exists_error_of_not_ordered (hquad : isDottedQuad quad = true)
    (hdots : ∀ c ∈ dots, c = '.') (hfront : ∀ c ∈ front, c = '|' ∨ c = '.')
    (hordered : ¬IsOrderedFront front) :
    ∃ e, checkedHost (trimStart (· = '.') (trimStart (· = '|') front) ++ (quad ++ dots)) =
      .error e := by
  rw [isOrderedFront_iff_of_pipes hfront] at hordered
  obtain ⟨c, left, hleft⟩ := List.exists_cons_of_ne_nil hordered
  have hsub : trimStart (· = '.') (trimStart (· = '|') front) ⊆ front := fun d hd =>
    (List.dropWhile_sublist _).subset ((List.dropWhile_sublist _).subset hd)
  rw [hleft] at hsub ⊢
  have hmarks : ∀ d ∈ c :: left, d = '|' ∨ d = '.' := fun d hd => hfront d (hsub hd)
  have hdot : c ≠ '.' := by
    rintro rfl
    have hnot := List.head?_dropWhile_not (· = '.') (trimStart (· = '|') front)
    rw [trimStart] at hleft
    simp [hleft] at hnot
  obtain rfl : c = '|' := (hmarks c List.mem_cons_self).resolve_right hdot
  refine exists_checkedHost_eq_error (c := '|') ?_ hdot (by decide)
  rw [examined_quad hquad hdots hmarks]
  simp

/-! ### When no domain is found -/

theorem ofHost?_quad (resolve : Resolver) (hquad : isDottedQuad quad = true) :
    ofHost? resolve quad = none := by
  simp [ofHost?, hquad]

/-- A quad with dots behind it has no domain for any resolver exactly if there are no dots, or else
it cannot be looked up. -/
theorem forall_ofHost?_quad_iff (hquad : isDottedQuad quad = true) (hdots : ∀ c ∈ dots, c = '.') :
    (∀ resolve, Refuses resolve → ofHost? resolve (quad ++ dots) = none) ↔
      dots = [] ∨ ∃ e, checkedHost (quad ++ dots) = .error e := by
  constructor
  · intro hall
    by_contra hcond
    obtain ⟨hne, hnoError⟩ := not_or.1 hcond
    cases hchecked : checkedHost (quad ++ dots) with
    | error e => exact hnoError ⟨e, hchecked⟩
    | ok checked =>
        have hnone := hall (SuffixRules.lookup {}) (refuses_checking _)
        rw [ofHost?_quad_dots hquad hdots hne hchecked] at hnone
        cases hnone
  · rintro (rfl | herror) resolve hrefuses
    · rw [List.append_nil]
      exact ofHost?_quad resolve hquad
    · exact ofHost?_eq_none_of_refuses hrefuses herror

/-- The same with pipes and dots in front of it, which keep it from being looked up if they are out
of order. -/
theorem forall_ofHost?_marked_iff (hquad : isDottedQuad quad = true)
    (hdots : ∀ c ∈ dots, c = '.') (hfront : ∀ c ∈ front, c = '|' ∨ c = '.') :
    (∀ resolve, Refuses resolve → ofHost? resolve
        (trimStart (· = '.') (trimStart (· = '|') front) ++ (quad ++ dots)) = none) ↔
      dots = [] ∨ ¬IsOrderedFront front ∨ ∃ e, checkedHost (quad ++ dots) = .error e := by
  by_cases hordered : IsOrderedFront front
  · rw [(isOrderedFront_iff_of_pipes hfront).1 hordered, List.nil_append,
      forall_ofHost?_quad_iff hquad hdots]
    simp [hordered]
  · have herror := exists_error_of_not_ordered hquad hdots hfront hordered
    exact iff_of_true (fun resolve hrefuses => ofHost?_eq_none_of_refuses hrefuses herror)
      (.inr (.inl hordered))

/-- A dotted quad has no domain for any resolver. With dots behind it, it is none, and has a domain
for some resolver unless it is too long to be looked up. So a line that names it by no more than
pipes and dots around it sends no domain through the proxy exactly if no dot stands behind it, or a
pipe stands behind a dot in front of it, or it is too long. -/
theorem ofLine?_quadHost_iff (hhost : IsQuadHost host)
    (hfront : ∀ c ∈ front, c = '|' ∨ c = '.') :
    (host.getLast? ≠ some '.' → ∀ resolve, ofHost? resolve host = none) ∧
    ((∀ resolve, Refuses resolve → ofHost? resolve host = none) ↔
      host.getLast? ≠ some '.' ∨ ∃ e, checkedHost host = .error e) ∧
    ((∀ resolve, Refuses resolve → ofLine? resolve (front ++ host) = some (.proxy, [])) ↔
      host.getLast? ≠ some '.' ∨ ¬IsOrderedFront front ∨ ∃ e, checkedHost host = .error e) := by
  obtain ⟨quad, dots, hquad, hdots, rfl⟩ := hhost.exists_dots
  rw [getLast?_append_dots_iff hquad hdots]
  refine ⟨?_, forall_ofHost?_quad_iff hquad hdots, ?_⟩
  · rintro rfl resolve
    rw [List.append_nil]
    exact ofHost?_quad resolve hquad
  · rw [← forall_ofHost?_marked_iff hquad hdots hfront]
    refine forall₂_congr ?_
    intro resolve _
    rw [ofLine?_quad resolve hquad hdots hfront, Option.some.injEq, Prod.mk.injEq]
    simp

/-- Numbers that are no octets, with marks in front of them in order, and with a pipe behind a dot
where dots stand behind them too. -/
theorem ofLine?_quadHost_iff_marked :
    IsQuadHost "0127.0.00.999".toList ∧ (∀ c ∈ "||..".toList, c = '|' ∨ c = '.') ∧
    (∀ resolve, ofHost? resolve "0127.0.00.999".toList = none) ∧
    (∀ resolve, Refuses resolve →
      ofLine? resolve "||..0127.0.00.999".toList = some (.proxy, [])) ∧
    IsQuadHost "0127.0.00.999..".toList ∧ (∀ c ∈ ".|".toList, c = '|' ∨ c = '.') ∧
    (∀ resolve, Refuses resolve →
      ofLine? resolve ".|0127.0.00.999..".toList = some (.proxy, [])) := by
  have hnumbers : ∀ number ∈ ["0127".toList, "0".toList, "00".toList, "999".toList],
      number ≠ [] ∧ number.all Char.isDigit = true := by decide
  have hquad : IsQuadHost "0127.0.00.999".toList := ⟨_, rfl, hnumbers, by decide⟩
  have hfront : ∀ c ∈ "||..".toList, c = '|' ∨ c = '.' := by simp
  have hlast : "0127.0.00.999".toList.getLast? ≠ some '.' := by decide
  have hdots : IsQuadHost "0127.0.00.999..".toList := ⟨_, rfl, hnumbers, by decide⟩
  have hmixed : ∀ c ∈ ".|".toList, c = '|' ∨ c = '.' := by simp
  have hordered : ¬IsOrderedFront ".|".toList := by
    rw [isOrderedFront_iff_of_pipes hmixed]
    decide
  obtain ⟨hhost, -, hline⟩ := ofLine?_quadHost_iff hquad hfront
  exact ⟨hquad, hfront, hhost hlast, hline.2 (.inl hlast), hdots, hmixed,
    (ofLine?_quadHost_iff hdots hmixed).2.2.2 (.inr (.inl hordered))⟩

/-- With a dot behind it a quad is not taken for one, and its last two numbers are proxied. -/
theorem not_ofLine?_quadHost :
    ofHost? (SuffixRules.lookup {}) "1.2.3.4.".toList = some "3.4".toList ∧
    ofLine? (SuffixRules.lookup {}) "||1.2.3.4.".toList = some (.proxy, ["3.4".toList]) ∧
    ¬∀ (host : Text) (resolve : Resolver), IsQuadHost host → ofHost? resolve host = none := by
  have hdomain : ofHost? (SuffixRules.lookup {}) "1.2.3.4.".toList = some "3.4".toList := by decide
  refine ⟨hdomain, by decide, ?_⟩
  intro hall
  have hquad : IsQuadHost "1.2.3.4.".toList :=
    ⟨["1".toList, "2".toList, "3".toList, "4".toList], rfl, by decide, by decide⟩
  rw [hall "1.2.3.4.".toList (SuffixRules.lookup {}) hquad] at hdomain
  cases hdomain

end PacRules.Domain
