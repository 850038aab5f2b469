import PacRules.Proofs.Text.Front

/-!
# Deletion

Trimming deletes characters, and so does a substitution that puts in no more than a part of what
it takes out. What only deletes leaves a text as it is exactly where it finds nothing: trimming if
the character at the end is none of its class, a substitution if no match begins anywhere, and
deletions one after the other if each of them alone leaves the text as it is.
-/

namespace PacRules.Text

/-- Of two deletions one after the other, neither can make up for what the other takes. -/
theorem comp_eq_self_iff {f g : Text → Text} (hf : ∀ t, (f t).Sublist t)
    (hg : ∀ t, (g t).Sublist t) {t : Text} : g (f t) = t ↔ f t = t ∧ g t = t := by
  constructor
  · intro heq
    have hback : t.Sublist (f t) := by simpa [heq] using hg (f t)
    have hfirst : f t = t := (hf t).antisymm hback
    rw [hfirst] at heq
    exact ⟨hfirst, heq⟩
  · rintro ⟨hfirst, hsecond⟩
    rw [hfirst, hsecond]

/-! ### Ends -/

theorem trimStart_eq_self_iff {p : Char → Bool} {t : Text} :
    trimStart p t = t ↔ ¬∃ c, t.head? = some c ∧ p c = true := by
  constructor
  · rintro heq ⟨c, hc, hp⟩
    have hnot := List.head?_dropWhile_not p t
    rw [trimStart] at heq
    simp [heq, hc, hp] at hnot
  · intro hnone
    exact trimStart_eq_self fun c hc => by simpa using fun hp => hnone ⟨c, hc, hp⟩

theorem trimEnd_eq_self_iff {p : Char → Bool} {t : Text} :
    trimEnd p t = t ↔ ¬∃ c, t.getLast? = some c ∧ p c = true := by
  rw [trimEnd_eq_reverse, List.reverse_eq_iff, trimStart_eq_self_iff, List.head?_reverse]

theorem head?_trimStart_ne {p : Char → Bool} {c : Char} (hc : p c = true) (t : Text) :
    (trimStart p t).head? ≠ some c := by
  intro hhead
  have hnot := List.head?_dropWhile_not p t
  rw [trimStart] at hhead
  simp [hhead, hc] at hnot

theorem trimEnd_trimStart_eq_self_iff {p q : Char → Bool} {t : Text} :
    trimEnd q (trimStart p t) = t ↔ ¬((∃ c, t.head? = some c ∧ p c = true) ∨
      ∃ c, t.getLast? = some c ∧ q c = true) := by
  rw [comp_eq_self_iff (trimStart_sublist p) (trimEnd_sublist q), trimStart_eq_self_iff,
    trimEnd_eq_self_iff, not_or]

/-! ### Matches -/

/-- A matcher deletes if what it puts in is a part of the match, and not all of it. -/
def Matcher.Deletes (m : Matcher) : Prop :=
  ∀ c t more new, m (c :: t) = some (more, new) →
    new.Sublist (c :: t.take more) ∧ new ≠ c :: t.take more

variable {m : Matcher} {t : Text}

theorem Matcher.Deletes.length_lt (hm : m.Deletes) {c : Char} {more : Nat} {new : Text}
    (h : m (c :: t) = some (more, new)) : new.length < (c :: t.take more).length := by
  obtain ⟨hpart, hne⟩ := hm c t more new h
  exact lt_of_le_of_ne hpart.length_le fun hlength => hne (hpart.eq_of_length hlength)

theorem substitute_sublist (hm : m.Deletes) (t : Text) : (substitute m t).Sublist t := by
  match t with
  | [] => exact List.Sublist.refl _
  | c :: t =>
      cases hmatch : m (c :: t) with
      | none =>
          rw [substitute_cons_of_eq_none hmatch]
          exact (substitute_sublist hm t).cons_cons c
      | some found =>
          obtain ⟨more, new⟩ := found
          rw [substitute_cons_of_eq_some hmatch]
          have hnew := (hm c t more new hmatch).1.append (substitute_sublist hm (t.drop more))
          rwa [List.cons_append, List.take_append_drop] at hnew
termination_by t.length

/-- The first match would make the text shorter, and nothing behind it makes that good. -/
theorem substitute_eq_self_iff (hm : m.Deletes) :
    substitute m t = t ↔ ∀ c rest, c :: rest <:+ t → m (c :: rest) = none := by
  refine ⟨?_, substitute_eq_self⟩
  induction t with
  | nil =>
      intro _ c rest hsuffix
      cases List.suffix_nil.1 hsuffix
  | cons d t ih =>
      intro heq c rest hsuffix
      cases hmatch : m (d :: t) with
      | none =>
          rw [substitute_cons_of_eq_none hmatch] at heq
          rcases List.suffix_cons_iff.1 hsuffix with hwhole | hsuffix
          · rw [hwhole, hmatch]
          · exact ih (List.cons.inj heq).2 c rest hsuffix
      | some found =>
          obtain ⟨more, new⟩ := found
          have hnew := hm.length_lt hmatch
          have hrest := (substitute_sublist hm (t.drop more)).length_le
          have hlength := congrArg List.length heq
          rw [substitute_cons_of_eq_some hmatch] at hlength
          simp only [List.length_append, List.length_cons, List.length_take,
            List.length_drop] at hnew hrest hlength
          omega

/-- A substitution for the patterns that the words of a class make changes a text exactly if one of
them stands in it. -/
theorem substitute_eq_self_iff_infix (hm : m.Deletes) {P : Text → Prop} {f : Text → Text}
    (hne : ∀ word, P word → f word ≠ [])
    (hP : ∀ t, (m t).isSome ↔ ∃ word, P word ∧ f word <+: t) :
    substitute m t = t ↔ ¬∃ word, P word ∧ f word <:+: t := by
  rw [substitute_eq_self_iff hm]
  constructor
  · rintro hnone ⟨word, hword, hstands⟩
    obtain ⟨s, hbegins, hsuffix⟩ := List.infix_iff_prefix_suffix.1 hstands
    obtain ⟨c, rest, rfl⟩ := List.exists_cons_of_ne_nil (hbegins.ne_nil (hne word hword))
    have hsome := (hP (c :: rest)).2 ⟨word, hword, hbegins⟩
    simp [hnone c rest hsuffix] at hsome
  · intro hnone c rest hsuffix
    by_contra hsome
    obtain ⟨word, hword, hbegins⟩ := (hP (c :: rest)).1 (Option.isSome_iff_ne_none.2 hsome)
    exact hnone ⟨word, hword, hbegins.isInfix.trans hsuffix.isInfix⟩

/-! ### Patterns -/

theorem literal_eq_some_iff {pattern new found : Text} {more : Nat} :
    literal pattern new t = some (more, found) ↔
      pattern <+: t ∧ more = pattern.length - 1 ∧ found = new := by
  rw [literal, Option.ite_none_right_eq_some, List.isPrefixOf_iff_prefix, Option.some.injEq,
    Prod.mk.injEq, eq_comm, eq_comm (a := new)]

theorem replace_eq_self_iff {c : Char} {pattern new : Text}
    (hm : (literal (c :: pattern) new).Deletes) :
    replace (c :: pattern) new t = t ↔ ¬c :: pattern <:+: t := by
  rw [replace, substitute_eq_self_iff_infix (P := (· = c :: pattern)) (f := id) hm]
  · simp
  · simp
  · simp [literal]

/-! ### Runs -/

/-- One character or more, and all of them of the class `p`. -/
def IsRun (p : Char → Bool) (run : Text) : Prop := run ≠ [] ∧ ∀ c ∈ run, p c = true

variable {p : Char → Bool} {run rest : Text}

theorem run?_eq_some_cons_iff {stop : Char} (h : p stop = false) :
    run? p t = some (run, stop :: rest) ↔ t = run ++ stop :: rest ∧ IsRun p run := by
  refine ⟨run?_eq_some, ?_⟩
  rintro ⟨rfl, hne, hrun⟩
  refine run?_append hne hrun ?_
  intro c hc
  rwa [← Option.some.inj hc]

theorem isSome_run?_iff : (run? p t).isSome ↔ ∃ run, IsRun p run ∧ run <+: t := by
  constructor
  · intro hsome
    obtain ⟨⟨run, rest⟩, hrun⟩ := Option.isSome_iff_exists.1 hsome
    obtain ⟨rfl, hisRun⟩ := run?_eq_some hrun
    exact ⟨run, hisRun, List.prefix_append run rest⟩
  · rintro ⟨run, ⟨hne, hrun⟩, rest, rfl⟩
    obtain ⟨c, run, rfl⟩ := List.exists_cons_of_ne_nil hne
    simp [run?, hrun c List.mem_cons_self]

end PacRules.Text
