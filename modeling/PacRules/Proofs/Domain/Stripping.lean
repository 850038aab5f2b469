import PacRules.Domain.Decoration
import PacRules.Proofs.Text.Deletion

/-!
# Stripping

Every step of stripping deletes characters and does nothing else. It leaves a rule as it is exactly
if it finds nothing in it, and so does stripping exactly if none of its steps finds anything. All
steps but those for pipes and carets and for dots look for an asterisk: a bare rule, which has none
of these marks where they count, is stripped to itself. Nor does a step reach from a path into a
firm front: the front holds no asterisk, so a pattern with one begins at the slash at the earliest,
and the slash itself is put back.
-/

namespace PacRules.Domain

open PacRules.Text

/-- A front of a rule that stripping leaves alone if a slash follows it. -/
structure IsFirm (front : Text) : Prop where
  star_not_mem : '*' ∉ front
  head_kept : ∀ c, front.head? = some c → c ≠ '|' ∧ c ≠ '.'

/-- A rule on which stripping finds nothing to take off. -/
structure IsBare (rule : Text) : Prop extends IsFirm rule where
  last_kept : ∀ c, rule.getLast? = some c → c ≠ '|' ∧ c ≠ '^'

variable {t : Text}

/-! ### Matches next to an asterisk -/

theorem openSegmentAt_of_not_slash {c : Char} (h : c ≠ '/') (t : Text) :
    openSegmentAt (c :: t) = none := by
  rw [openSegmentAt]
  rintro rest heq
  exact h (List.cons.inj heq).1

theorem openSegmentAt_eq_none
    (h : ∀ run rest, run? isSegmentChar t ≠ some (run, '*' :: rest)) :
    openSegmentAt ('/' :: t) = none := by
  rw [openSegmentAt]
  split
  · next hrun => exact absurd hrun (h _ _)
  · rfl

theorem openSegmentAt_eq_some_iff {more : Nat} {new : Text} :
    openSegmentAt t = some (more, new) ↔ ∃ segment rest, IsRun isSegmentChar segment ∧
      t = '/' :: (segment ++ '*' :: '.' :: rest) ∧ more = segment.length + 2 ∧ new = ['/'] := by
  constructor
  · intro h
    unfold openSegmentAt at h
    split at h
    · split at h
      · next hrun =>
          obtain ⟨rfl, hsegment⟩ := (run?_eq_some_cons_iff (by decide)).1 hrun
          obtain ⟨rfl, rfl⟩ := Prod.mk.inj (Option.some.inj h)
          exact ⟨_, _, hsegment, rfl, rfl, rfl⟩
      · cases h
    · cases h
  · rintro ⟨segment, rest, hsegment, rfl, rfl, rfl⟩
    have hrun : run? isSegmentChar (segment ++ '*' :: '.' :: rest) =
        some (segment, '*' :: '.' :: rest) := (run?_eq_some_cons_iff (by decide)).2 ⟨rfl, hsegment⟩
    simp only [openSegmentAt, hrun]

theorem asteriskWordAt_of_ne {c : Char} (h : c ≠ '*') (t : Text) :
    asteriskWordAt (c :: t) = none := by
  rw [asteriskWordAt]
  rintro rest heq
  exact h (List.cons.inj heq).1

theorem withoutLeadingWord_eq_self
    (h : ∀ run rest, run? isWordChar t ≠ some (run, '*' :: rest)) : withoutLeadingWord t = t := by
  unfold withoutLeadingWord
  split
  · next hrun => exact absurd hrun (h _ _)
  · rfl

theorem withoutLeadingWord_append {word : Text} (hword : IsRun isWordChar word) (rest : Text) :
    withoutLeadingWord (word ++ '*' :: rest) = rest := by
  have hrun : run? isWordChar (word ++ '*' :: rest) = some (word, '*' :: rest) :=
    (run?_eq_some_cons_iff (by decide)).2 ⟨rfl, hword⟩
  simp only [withoutLeadingWord, hrun]

/-- A substitution whose matches at a slash put a slash in their place keeps a leading slash. -/
theorem exists_substitute_slash {m : Matcher}
    (h : ∀ t more new, m ('/' :: t) = some (more, new) → new = ['/']) (t : Text) :
    ∃ t', substitute m ('/' :: t) = '/' :: t' := by
  cases hm : m ('/' :: t) with
  | none => exact ⟨_, substitute_cons_of_eq_none hm⟩
  | some found =>
      obtain ⟨more, new⟩ := found
      refine ⟨substitute m (t.drop more), ?_⟩
      rw [substitute_cons_of_eq_some hm, h t more new hm]
      rfl

/-! ### Deletions -/

theorem deletes_wildcardSegment : (literal ['/', '*', '.'] ['/']).Deletes := by
  intro c t more new hmatch
  obtain ⟨⟨rest, hrest⟩, rfl, rfl⟩ := literal_eq_some_iff.1 hmatch
  obtain ⟨rfl, rfl⟩ := List.cons.inj hrest
  exact ⟨by simp, by simp⟩

theorem deletes_openSegmentAt : openSegmentAt.Deletes := by
  intro c t more new hmatch
  obtain ⟨segment, rest, hsegment, heq, rfl, rfl⟩ := openSegmentAt_eq_some_iff.1 hmatch
  obtain ⟨rfl, rfl⟩ := List.cons.inj heq
  exact ⟨by simp, by simp⟩

theorem deletes_asteriskWordAt : asteriskWordAt.Deletes := by
  intro c t more new hmatch
  by_cases hc : c = '*'
  · subst hc
    obtain ⟨run, -, hfound⟩ := Option.map_eq_some_iff.1 hmatch
    obtain ⟨-, rfl⟩ := Prod.mk.inj hfound
    exact ⟨List.nil_sublist _, nofun⟩
  · rw [asteriskWordAt_of_ne hc] at hmatch
    cases hmatch

theorem withoutLeadingWord_sublist (t : Text) : (withoutLeadingWord t).Sublist t := by
  rw [withoutLeadingWord]
  split
  · next run rest hrun =>
      rw [(run?_eq_some hrun).1]
      exact (List.sublist_cons_self '*' rest).trans (List.sublist_append_right _ _)
  · exact List.Sublist.refl _

theorem Step.apply_sublist (step : Step) (t : Text) : (step.apply t).Sublist t := by
  cases step with
  | pipesAndCarets => exact (trimEnd_sublist _ _).trans (trimStart_sublist _ t)
  | outerAsterisks => exact trim_sublist _ t
  | wildcardSegment => exact substitute_sublist deletes_wildcardSegment t
  | openSegment => exact substitute_sublist deletes_openSegmentAt t
  | wordBehindAsterisk => exact substitute_sublist deletes_asteriskWordAt t
  | wordBeforeAsterisk => exact withoutLeadingWord_sublist t
  | leadingDots => exact trimStart_sublist _ t

theorem foldl_apply_sublist (steps : List Step) (t : Text) :
    (steps.foldl (fun t step => step.apply t) t).Sublist t := by
  induction steps generalizing t with
  | nil => exact List.Sublist.refl t
  | cons step steps ih => exact (ih _).trans (step.apply_sublist t)

/-- Stripping only deletes characters. -/
theorem stripped_sublist (rule : Text) : (stripped rule).Sublist rule :=
  foldl_apply_sublist Step.all rule

/-- Steps one after the other leave a text as it is exactly if each of them alone does. -/
theorem foldl_apply_eq_self_iff (steps : List Step) (t : Text) :
    steps.foldl (fun t step => step.apply t) t = t ↔ ∀ step ∈ steps, step.apply t = t := by
  induction steps with
  | nil => simp
  | cons step steps ih =>
      rw [List.foldl_cons, comp_eq_self_iff step.apply_sublist (foldl_apply_sublist steps), ih,
        List.forall_mem_cons]

/-! ### What a step finds -/

/-- What is in a text for a step to delete. -/
def Step.Finds : Step → Text → Prop
  | pipesAndCarets, t => t.head? = some '|' ∨ t.getLast? = some '|' ∨ t.getLast? = some '^'
  | outerAsterisks, t => t.head? = some '*' ∨ t.getLast? = some '*'
  | wildcardSegment, t => ['/', '*', '.'] <:+: t
  | openSegment, t => ∃ word, IsRun isSegmentChar word ∧ '/' :: (word ++ ['*', '.']) <:+: t
  | wordBehindAsterisk, t => ∃ word, IsRun isWordChar word ∧ '*' :: word <:+: t
  | wordBeforeAsterisk, t => ∃ word, IsRun isWordChar word ∧ word ++ ['*'] <+: t
  | leadingDots, t => t.head? = some '.'

theorem substitute_openSegmentAt_eq_self_iff : substitute openSegmentAt t = t ↔
    ¬∃ word, IsRun isSegmentChar word ∧ '/' :: (word ++ ['*', '.']) <:+: t := by
  refine substitute_eq_self_iff_infix deletes_openSegmentAt (by simp) ?_
  intro t
  simp only [Option.isSome_iff_exists, Prod.exists, openSegmentAt_eq_some_iff]
  constructor
  · rintro ⟨_, _, word, rest, hword, rfl, -, -⟩
    exact ⟨word, hword, rest, by simp⟩
  · rintro ⟨word, hword, rest, rfl⟩
    exact ⟨_, _, word, rest, hword, by simp, rfl, rfl⟩

theorem substitute_asteriskWordAt_eq_self_iff : substitute asteriskWordAt t = t ↔
    ¬∃ word, IsRun isWordChar word ∧ '*' :: word <:+: t := by
  refine substitute_eq_self_iff_infix deletes_asteriskWordAt (by simp) ?_
  intro t
  cases t with
  | nil => simp [asteriskWordAt]
  | cons c t =>
      by_cases hc : c = '*'
      · subst hc
        simp [asteriskWordAt, isSome_run?_iff, List.cons_prefix_cons]
      · simp [asteriskWordAt_of_ne hc, List.cons_prefix_cons, Ne.symm hc]

theorem withoutLeadingWord_eq_self_iff : withoutLeadingWord t = t ↔
    ¬∃ word, IsRun isWordChar word ∧ word ++ ['*'] <+: t := by
  constructor
  · rintro heq ⟨word, hword, rest, rfl⟩
    rw [List.append_assoc, List.singleton_append, withoutLeadingWord_append hword] at heq
    have hlength := congrArg List.length heq
    simp only [List.length_append, List.length_cons] at hlength
    omega
  · intro hnone
    refine withoutLeadingWord_eq_self ?_
    intro word rest hrun
    obtain ⟨rfl, hword⟩ := (run?_eq_some_cons_iff (by decide)).1 hrun
    exact hnone ⟨word, hword, rest, by simp⟩

/-- A step leaves a text as it is exactly if it finds nothing in it. -/
theorem Step.apply_eq_self_iff (step : Step) : step.apply t = t ↔ ¬step.Finds t := by
  cases step with
  | pipesAndCarets =>
      rw [Step.apply, trimEnd_trimStart_eq_self_iff]
      simp [Finds, and_or_left, exists_or]
  | outerAsterisks =>
      rw [Step.apply, trim, trimEnd_trimStart_eq_self_iff]
      simp [Finds]
  | wildcardSegment => exact replace_eq_self_iff deletes_wildcardSegment
  | openSegment => exact substitute_openSegmentAt_eq_self_iff
  | wordBehindAsterisk => exact substitute_asteriskWordAt_eq_self_iff
  | wordBeforeAsterisk => exact withoutLeadingWord_eq_self_iff
  | leadingDots =>
      rw [Step.apply, trimStart_eq_self_iff]
      simp [Finds]

/-! ### Rules without an asterisk -/

theorem Step.Finds.star_mem {step : Step} (h : step.Finds t) (hpipes : step ≠ .pipesAndCarets)
    (hdots : step ≠ .leadingDots) : '*' ∈ t := by
  cases step with
  | pipesAndCarets => exact absurd rfl hpipes
  | outerAsterisks => exact h.elim List.mem_of_head? List.mem_of_getLast?
  | wildcardSegment => exact h.subset (by simp)
  | openSegment =>
      obtain ⟨word, -, hstands⟩ := h
      exact hstands.subset (by simp)
  | wordBehindAsterisk =>
      obtain ⟨word, -, hstands⟩ := h
      exact hstands.subset List.mem_cons_self
  | wordBeforeAsterisk =>
      obtain ⟨word, -, hbegins⟩ := h
      exact hbegins.subset (by simp)
  | leadingDots => exact absurd rfl hdots

/-- Without an asterisk only the steps for pipes and carets and for dots find something to do. -/
theorem Step.apply_of_star_not_mem {step : Step} (h : '*' ∉ t)
    (hpipes : step ≠ .pipesAndCarets) (hdots : step ≠ .leadingDots) : step.apply t = t :=
  step.apply_eq_self_iff.2 fun hfinds => h (hfinds.star_mem hpipes hdots)

/-- From a rule without an asterisk nothing is taken but the marks at its edges. -/
theorem stripped_of_star_not_mem {rule : Text} (h : '*' ∉ rule) :
    stripped rule = trimStart (· = '.') (Step.pipesAndCarets.apply rule) := by
  have hstar : '*' ∉ Step.pipesAndCarets.apply rule := fun hmem =>
    h ((Step.apply_sublist _ rule).subset hmem)
  have hkept : ∀ step : Step, step ≠ .pipesAndCarets → step ≠ .leadingDots →
      step.apply (Step.pipesAndCarets.apply rule) = Step.pipesAndCarets.apply rule :=
    fun step => Step.apply_of_star_not_mem hstar
  simp only [stripped, Step.all, List.foldl_cons, List.foldl_nil]
  rw [hkept .outerAsterisks nofun nofun, hkept .wildcardSegment nofun nofun,
    hkept .openSegment nofun nofun, hkept .wordBehindAsterisk nofun nofun,
    hkept .wordBeforeAsterisk nofun nofun]
  rfl

namespace IsBare

variable {rule : Text}

theorem not_finds (h : IsBare rule) (step : Step) : ¬step.Finds rule := by
  intro hfinds
  cases step with
  | pipesAndCarets =>
      rcases hfinds with hpipe | hpipe | hcaret
      · exact (h.head_kept _ hpipe).1 rfl
      · exact (h.last_kept _ hpipe).1 rfl
      · exact (h.last_kept _ hcaret).2 rfl
  | leadingDots => exact (h.head_kept _ hfinds).2 rfl
  | _ => exact h.star_not_mem (hfinds.star_mem nofun nofun)

/-- No step of stripping changes a bare rule. -/
theorem apply_eq_self (h : IsBare rule) (step : Step) : step.apply rule = rule :=
  step.apply_eq_self_iff.2 (h.not_finds step)

theorem foldl_apply_eq_self (h : IsBare rule) (steps : List Step) :
    steps.foldl (fun t step => step.apply t) rule = rule :=
  (foldl_apply_eq_self_iff steps rule).2 fun step _ => h.apply_eq_self step

end IsBare

/-- Pipes in front of a rule are stripped at once. -/
theorem stripped_replicate_append (pipes : Nat) (rule : Text) :
    stripped (List.replicate pipes '|' ++ rule) = stripped rule := by
  have hpipes : ∀ c ∈ List.replicate pipes '|', decide (c = '|') = true := by
    intro c hc
    simp [List.eq_of_mem_replicate hc]
  have hfirst : Step.pipesAndCarets.apply (List.replicate pipes '|' ++ rule) =
      Step.pipesAndCarets.apply rule := by
    rw [Step.apply, trimStart_append_of_all hpipes, Step.apply]
  simp only [stripped, Step.all, List.foldl_cons, hfirst]

/-! ### Firm fronts -/

namespace IsFirm

variable {front : Text}

theorem trimStart_append (h : IsFirm front) {p : Char → Bool}
    (hp : ∀ c, p c = true → c ∈ ['|', '*', '.']) (t : Text) :
    trimStart p (front ++ '/' :: t) = front ++ '/' :: t := by
  refine trimStart_eq_self ?_
  intro c hc
  by_contra hpc
  have hmem := hp c (by simpa using hpc)
  cases front with
  | nil =>
      obtain rfl : '/' = c := by simpa using hc
      simp at hmem
  | cons d front =>
      obtain rfl : d = c := by simpa using hc
      obtain ⟨hpipe, hdot⟩ := h.head_kept d rfl
      have hstar : d ≠ '*' := by
        rintro rfl
        exact h.star_not_mem List.mem_cons_self
      simp [hpipe, hdot, hstar] at hmem

/-- A match that needs an asterisk right behind its first character does not begin in a firm
front. -/
theorem substitute_append {m : Matcher} (h : IsFirm front)
    (hm : ∀ c rest t, c ≠ '*' → '*' ∉ rest → m (c :: (rest ++ '/' :: t)) = none) (t : Text) :
    substitute m (front ++ '/' :: t) = front ++ substitute m ('/' :: t) := by
  refine Text.substitute_append ?_
  intro c rest hsuffix
  have hsub := hsuffix.subset
  have hc : c ≠ '*' := by
    rintro rfl
    exact h.star_not_mem (hsub List.mem_cons_self)
  have hrest : '*' ∉ rest := fun hmem => h.star_not_mem (hsub (List.mem_cons_of_mem c hmem))
  exact hm c rest t hc hrest

/-- A step of stripping keeps a firm front and the slash behind it. -/
theorem apply_append (h : IsFirm front) (step : Step) (t : Text) :
    ∃ t', step.apply (front ++ '/' :: t) = front ++ '/' :: t' := by
  -- a match that begins at the slash may take it, but then puts it back
  cases step with
  | pipesAndCarets =>
      refine ⟨trimEnd (fun c => c = '|' || c = '^') t, ?_⟩
      rw [Step.apply, h.trimStart_append (by simp), trimEnd_append_cons (by decide)]
  | outerAsterisks =>
      refine ⟨trimEnd (· = '*') t, ?_⟩
      rw [Step.apply, trim, h.trimStart_append (by simp), trimEnd_append_cons (by decide)]
  | wildcardSegment =>
      obtain ⟨t', ht'⟩ := exists_substitute_slash (m := literal ['/', '*', '.'] ['/']) (by
        intro t more new hm
        exact (literal_eq_some_iff.1 hm).2.2) t
      refine ⟨t', ?_⟩
      rw [Step.apply, replace, h.substitute_append _ t, ht']
      intro c rest t _ hrest
      refine literal_eq_none ?_
      cases rest with
      | nil => simp
      | cons d rest =>
          intro heq
          obtain rfl : d = '*' := by simpa using heq
          exact hrest List.mem_cons_self
  | openSegment =>
      obtain ⟨t', ht'⟩ := exists_substitute_slash (m := openSegmentAt) (by
        intro t more new hm
        obtain ⟨_, _, _, _, _, hnew⟩ := openSegmentAt_eq_some_iff.1 hm
        exact hnew) t
      refine ⟨t', ?_⟩
      rw [Step.apply, h.substitute_append _ t, ht']
      intro c rest t _ hrest
      by_cases hslash : c = '/'
      · rw [hslash]
        exact openSegmentAt_eq_none (run?_ne_of_not_mem (by decide) hrest (by decide) t)
      · exact openSegmentAt_of_not_slash hslash _
  | wordBehindAsterisk =>
      refine ⟨substitute asteriskWordAt t, ?_⟩
      rw [Step.apply, h.substitute_append _ t,
        substitute_cons_of_eq_none (asteriskWordAt_of_ne (by decide) t)]
      intro c rest t hc _
      exact asteriskWordAt_of_ne hc _
  | wordBeforeAsterisk =>
      refine ⟨t, ?_⟩
      exact withoutLeadingWord_eq_self
        (run?_ne_of_not_mem (by decide) h.star_not_mem (by decide) t)
  | leadingDots =>
      refine ⟨t, ?_⟩
      rw [Step.apply, h.trimStart_append (by simp)]

/-- So do any steps after another. -/
theorem foldl_apply_append (h : IsFirm front) (steps : List Step) (t : Text) :
    ∃ t', steps.foldl (fun t step => step.apply t) (front ++ '/' :: t) = front ++ '/' :: t' := by
  induction steps generalizing t with
  | nil => exact ⟨t, rfl⟩
  | cons step steps ih =>
      obtain ⟨t', ht'⟩ := h.apply_append step t
      rw [List.foldl_cons, ht']
      exact ih t'

end IsFirm

/-! ### Stripping as a whole -/

theorem Step.mem_all (step : Step) : step ∈ all := by
  cases step <;> decide

/-- What one step takes no other puts back, so a rule is stripped to itself only if it holds nothing
for any step. -/
theorem stripped_eq_self_iff_finds (rule : Text) :
    stripped rule = rule ↔ ∀ step : Step, ¬step.Finds rule := by
  rw [stripped, foldl_apply_eq_self_iff]
  constructor
  · intro hall step
    exact step.apply_eq_self_iff.1 (hall step step.mem_all)
  · intro hnone step _
    exact step.apply_eq_self_iff.2 (hnone step)

theorem head?_stripped (rule : Text) : (stripped rule).head? ≠ some '.' := by
  have hlast : stripped rule =
      trimStart (· = '.') (Step.all.dropLast.foldl (fun t step => step.apply t) rule) := rfl
  rw [hlast]
  exact head?_trimStart_ne (by decide) _

/-- Stripping only deletes characters, as each of its steps does, and leaves no dot at the front.
A step leaves a rule as it is exactly if it finds nothing in it, and stripping does exactly if no
step finds anything. So a bare rule, which has no asterisk, no pipe or dot at the front and no pipe
or caret at the end, is changed neither by a step nor by all of them. -/
theorem stripped_only_deletes (rule : Text) :
    ((stripped rule).Sublist rule ∧ (stripped rule).head? ≠ some '.') ∧
    (∀ step : Step, (step.apply rule).Sublist rule ∧
      (step.apply rule = rule ↔ ¬step.Finds rule)) ∧
    (stripped rule = rule ↔ ∀ step : Step, ¬step.Finds rule) ∧
    (IsBare rule → (∀ step : Step, step.apply rule = rule) ∧ stripped rule = rule) := by
  refine ⟨⟨stripped_sublist rule, head?_stripped rule⟩, ?_, stripped_eq_self_iff_finds rule, ?_⟩
  · intro step
    exact ⟨step.apply_sublist rule, step.apply_eq_self_iff⟩
  · intro hbare
    exact ⟨hbare.apply_eq_self, hbare.foldl_apply_eq_self Step.all⟩

/-- Marks inside a rule stay, and so do dots at its end. -/
theorem stripped_only_deletes_inner :
    IsBare "www.example.com/a|b^c?d=..".toList ∧
    (∀ step : Step, step.apply "www.example.com/a|b^c?d=..".toList =
      "www.example.com/a|b^c?d=..".toList) ∧
    stripped "www.example.com/a|b^c?d=..".toList = "www.example.com/a|b^c?d=..".toList := by
  have hbare : IsBare "www.example.com/a|b^c?d=..".toList := by
    refine ⟨⟨by decide, ?_⟩, ?_⟩
    · intro c hc
      obtain rfl : 'w' = c := Option.some.inj hc
      decide
    · intro c hc
      obtain rfl : '.' = c := Option.some.inj hc
      decide
  exact ⟨hbare, (stripped_only_deletes _).2.2.2 hbare⟩

/-- An asterisk that is the whole of a label is found by no step. -/
example : stripped "www.google.*/search".toList = "www.google.*/search".toList := by decide

end PacRules.Domain
