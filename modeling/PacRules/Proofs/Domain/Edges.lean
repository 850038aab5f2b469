import Mathlib.Data.List.Chain
import PacRules.Proofs.Domain.HostLine

/-!
# The edges of a rule

What stands around a host in a rule is taken off in one pass: pipes before asterisks before dots in
front of the host, pipes and carets before asterisks behind it. So the host comes out as it is
exactly if the marks stand in this order from the outside in. A mark in any other place stays, but
for an asterisk right in front of the host, which takes the host's first word with it.
-/

namespace PacRules.Domain

open PacRules.Text PacRules.Host PacRules.Suffix

/-- The marks that may stand in front of a host. -/
def isFrontMark (c : Char) : Bool := c = '|' || c = '*' || c = '.'

/-- The marks that may stand behind a host. -/
def isBackMark (c : Char) : Bool := c = '|' || c = '^' || c = '*'

/-- Pipes, then asterisks, then dots. -/
def IsOrderedFront (front : Text) : Prop :=
  ∃ pipes asterisks dots, front =
    List.replicate pipes '|' ++ (List.replicate asterisks '*' ++ List.replicate dots '.')

/-- Asterisks, then pipes and carets as they come. -/
def IsOrderedBack (back : Text) : Prop :=
  ∃ asterisks outer, back = List.replicate asterisks '*' ++ outer ∧
    ∀ c ∈ outer, c = '|' ∨ c = '^'

/-- What is left in front of a host when the pipes and then the asterisks are off. -/
def innerFront (front : Text) : Text := trimStart (· = '*') (trimStart (· = '|') front)

/-- What is left behind a host when the pipes and carets and then the asterisks are off. -/
def innerBack (back : Text) : Text :=
  trimEnd (· = '*') (trimEnd (fun c => c = '|' || c = '^') back)

variable {front back h t : Text}

/-! ### Orders of marks -/

theorem isOrderedFront_iff :
    IsOrderedFront front ↔ trimStart (· = '.') (innerFront front) = [] := by
  constructor
  · rintro ⟨pipes, asterisks, dots, rfl⟩
    have hdots : ∀ p : Char → Bool, p '.' = false →
        trimStart p (List.replicate dots '.') = List.replicate dots '.' := by
      intro p hp
      simpa using trimStart_replicate_of_not hp dots [] rfl
    have hpipes := trimStart_replicate_of_not (p := (· = '|')) (c := '*') (by decide) asterisks _
      (hdots _ (by decide))
    rw [innerFront, trimStart_replicate_append (by decide), hpipes,
      trimStart_replicate_append (by decide), hdots _ (by decide)]
    simpa using trimStart_replicate_append (p := (· = '.')) (c := '.') (by decide) dots []
  · intro hinner
    obtain ⟨pipes, hpipes⟩ := exists_trimStart_eq '|' front
    obtain ⟨asterisks, hasterisks⟩ := exists_trimStart_eq '*' (trimStart (· = '|') front)
    obtain ⟨dots, hdots⟩ := exists_trimStart_eq '.' (innerFront front)
    rw [hinner, List.append_nil] at hdots
    refine ⟨pipes, asterisks, dots, ?_⟩
    rw [← hdots, innerFront, ← hasterisks, ← hpipes]

theorem isOrderedBack_iff : IsOrderedBack back ↔ innerBack back = [] := by
  constructor
  · rintro ⟨asterisks, outer, rfl, houter⟩
    have hkept : trimEnd (fun c => c = '|' || c = '^') (List.replicate asterisks '*') =
        List.replicate asterisks '*' := by
      refine trimEnd_eq_self ?_
      intro c hc
      rw [List.eq_of_mem_replicate (List.mem_of_getLast? hc)]
      decide
    rw [innerBack, trimEnd_append_of_all (by simpa using houter), hkept]
    exact trimEnd_append_of_all (p := (· = '*')) (t := [])
      fun c hc => by simpa using List.eq_of_mem_replicate hc
  · intro hinner
    obtain ⟨outer, hback, houter⟩ :=
      exists_trimEnd_append (fun c => c = '|' || c = '^') back
    obtain ⟨stars, hstars, hall⟩ :=
      exists_trimEnd_append (· = '*') (trimEnd (fun c => c = '|' || c = '^') back)
    have hnone : trimEnd (· = '*') (trimEnd (fun c => c = '|' || c = '^') back) = [] := hinner
    rw [hnone, List.nil_append] at hstars
    refine ⟨stars.length, outer, ?_, by simpa using houter⟩
    rw [← List.eq_replicate_iff.2 ⟨rfl, by simpa using hall⟩, ← hstars]
    exact hback

/-! ### Steps -/

theorem trimStart_host (hh : IsNamedHost h) {p : Char → Bool}
    (hp : ∀ c, isHostChar c = true → p c = false) (front back : Text) :
    trimStart p (front ++ (h ++ back)) = trimStart p front ++ (h ++ back) := by
  obtain ⟨c, t, rfl, hc⟩ := hh.exists_cons
  rw [trimStart, List.cons_append, List.dropWhile_append]
  split
  · next hempty =>
      rw [trimStart, List.isEmpty_iff.1 hempty]
      simp [hp c hc]
  · rfl

theorem trimEnd_host (hh : IsNamedHost h) {p : Char → Bool}
    (hp : ∀ c, isNamedChar c = true → p c = false) (front back : Text) :
    trimEnd p (front ++ (h ++ back)) = front ++ (h ++ trimEnd p back) := by
  rcases List.eq_nil_or_concat h with rfl | ⟨t, c, rfl⟩
  · exact absurd hh.dot_mem (by simp)
  · have hlast := trimEnd_append_cons (hp c (hh.chars (by simp))) (front ++ t) back
    simpa using hlast

/-- With its outer marks off, a host has only the inner ones around it. -/
theorem apply_outer (hh : IsNamedHost h) (front back : Text) :
    Step.outerAsterisks.apply (Step.pipesAndCarets.apply (front ++ (h ++ back))) =
      innerFront front ++ (h ++ innerBack back) := by
  have hkept : ∀ marks : List Char, marks.all (fun c => !isNamedChar c) = true →
      ∀ c, isNamedChar c = true → c ∉ marks := by
    intro marks hmarks c hc hmem
    simpa [hc] using List.all_eq_true.1 hmarks c hmem
  have hpipe := hkept ['|'] (by decide)
  have hback := hkept ['|', '^'] (by decide)
  have hstar := hkept ['*'] (by decide)
  rw [Step.apply, Step.apply, trim, trimStart_host hh, trimEnd_host hh, trimStart_host hh,
    trimEnd_host hh]
  · rfl
  · simpa using hstar
  · intro c hc
    simpa using hstar c (isNamedChar_of_isHostChar hc)
  · simpa using hback
  · intro c hc
    simpa using hpipe c (isNamedChar_of_isHostChar hc)

/-- No asterisk has a word behind it. -/
def HasNoStarredWord (t : Text) : Prop := t.IsChain fun c d => ¬(c = '*' ∧ isWordChar d = true)

theorem substitute_asteriskWordAt_eq_self (ht : HasNoStarredWord t) :
    substitute asteriskWordAt t = t := by
  refine substitute_asteriskWordAt_eq_self_iff.2 ?_
  rintro ⟨word, ⟨hne, hword⟩, hstands⟩
  obtain ⟨d, word, rfl⟩ := List.exists_cons_of_ne_nil hne
  have hchain := List.IsChain.infix ht hstands
  exact (List.isChain_cons_cons.1 hchain).1 ⟨rfl, hword d List.mem_cons_self⟩

theorem hasNoStarredWord_of_forall (ht : ∀ c ∈ t, ∀ d ∈ t, c = '*' → isWordChar d = false) :
    HasNoStarredWord t := by
  refine List.Pairwise.isChain (List.pairwise_of_forall_mem_list ?_)
  rintro c hc d hd ⟨hstar, hword⟩
  simp [ht c hc d hd hstar] at hword

theorem HasNoStarredWord.append {s : Text} (hs : HasNoStarredWord s) (ht : HasNoStarredWord t)
    (h : s.getLast? = some '*' → ∀ d, t.head? = some d → isWordChar d = false) :
    HasNoStarredWord (s ++ t) := by
  refine List.IsChain.append hs ht ?_
  rintro c hc d hd ⟨rfl, hword⟩
  simp [h hc d hd] at hword

theorem withoutLeadingWord_of_not {c : Char} (hc : isWordChar c = false) (t : Text) :
    withoutLeadingWord (c :: t) = c :: t := by
  simp [withoutLeadingWord, run?, hc]

/-- Where no asterisk has a word behind it and no word at the front an asterisk, only the dots at
the front of a text without slashes are still to go. -/
theorem foldl_apply_inner (hslash : '/' ∉ t) :
    [Step.wildcardSegment, .openSegment, .wordBehindAsterisk, .wordBeforeAsterisk,
        .leadingDots].foldl (fun t step => step.apply t) t =
      trimStart (· = '.') (withoutLeadingWord (substitute asteriskWordAt t)) := by
  have hwild : replace ['/', '*', '.'] ['/'] t = t :=
    (replace_eq_self_iff deletes_wildcardSegment).2 fun hstands => hslash (hstands.subset (by simp))
  have hopen : substitute openSegmentAt t = t := by
    refine substitute_openSegmentAt_eq_self_iff.2 ?_
    rintro ⟨word, -, hstands⟩
    exact hslash (hstands.subset List.mem_cons_self)
  simp only [List.foldl_cons, List.foldl_nil, Step.apply, hwild, hopen]

/-! ### What is left of a rule -/

theorem isFrontMark_of_mem_innerFront (hfront : ∀ c ∈ front, isFrontMark c = true) :
    ∀ c ∈ innerFront front, isFrontMark c = true := fun c hc =>
  hfront c ((List.dropWhile_sublist _).subset ((List.dropWhile_sublist _).subset hc))

theorem isBackMark_of_mem_innerBack (hback : ∀ c ∈ back, isBackMark c = true) :
    ∀ c ∈ innerBack back, isBackMark c = true := by
  have hsub : ∀ (p : Char → Bool) (t : Text), trimEnd p t ⊆ t := fun p t =>
    (List.rdropWhile_prefix p t).subset
  intro c hc
  exact hback c (hsub _ _ (hsub _ _ hc))

theorem head?_innerFront (front : Text) : (innerFront front).head? ≠ some '*' :=
  head?_trimStart_ne (by decide) _

theorem isWordChar_frontMark {c : Char} (hc : isFrontMark c = true) : isWordChar c = false := by
  simp only [isFrontMark, Bool.or_eq_true, decide_eq_true_eq] at hc
  rcases hc with (rfl | rfl) | rfl <;> decide

theorem isWordChar_backMark {c : Char} (hc : isBackMark c = true) : isWordChar c = false := by
  simp only [isBackMark, Bool.or_eq_true, decide_eq_true_eq] at hc
  rcases hc with (rfl | rfl) | rfl <;> decide

theorem isHostChar_frontMark {c : Char} (hc : isFrontMark c = true) : isHostChar c = false := by
  simp only [isFrontMark, Bool.or_eq_true, decide_eq_true_eq] at hc
  rcases hc with (rfl | rfl) | rfl <;> decide

theorem isHostChar_backMark {c : Char} (hc : isBackMark c = true) : isHostChar c = false := by
  simp only [isBackMark, Bool.or_eq_true, decide_eq_true_eq] at hc
  rcases hc with (rfl | rfl) | rfl <;> decide

variable {f b : Text}

/-- A host, or an end of it, with marks behind it has no word behind an asterisk. -/
theorem hasNoStarredWord_host (hstar : '*' ∉ h) (hb : ∀ c ∈ b, isBackMark c = true) :
    HasNoStarredWord (h ++ b) := by
  refine HasNoStarredWord.append ?_ ?_ ?_
  · refine hasNoStarredWord_of_forall ?_
    rintro c hc d - rfl
    exact absurd hc hstar
  · exact hasNoStarredWord_of_forall fun c _ d hd _ => isWordChar_backMark (hb d hd)
  · intro hlast
    exact absurd (List.mem_of_getLast? hlast) hstar

theorem slash_not_mem (hf : ∀ c ∈ f, isFrontMark c = true) (hslash : '/' ∉ h)
    (hb : ∀ c ∈ b, isBackMark c = true) : '/' ∉ f ++ (h ++ b) := by
  simp only [List.mem_append, not_or]
  refine ⟨?_, hslash, ?_⟩
  · intro hmem
    exact absurd (hf '/' hmem) (by decide)
  · intro hmem
    exact absurd (hb '/' hmem) (by decide)

theorem stripped_eq_foldl_inner (hh : IsNamedHost h) (front back : Text) :
    stripped (front ++ (h ++ back)) =
      [Step.wildcardSegment, .openSegment, .wordBehindAsterisk, .wordBeforeAsterisk,
        .leadingDots].foldl (fun t step => step.apply t)
        (innerFront front ++ (h ++ innerBack back)) := by
  rw [← apply_outer hh]
  rfl

/-- The host stays whole if no asterisk stands right in front of a word of it. -/
theorem stripped_of_kept (hh : IsNamedHost h) (hfront : ∀ c ∈ front, isFrontMark c = true)
    (hback : ∀ c ∈ back, isBackMark c = true)
    (hkept : (innerFront front).getLast? = some '*' → ∀ d, h.head? = some d →
      isWordChar d = false) :
    stripped (front ++ (h ++ back)) =
      trimStart (· = '.') (innerFront front) ++ (h ++ innerBack back) := by
  have hf := isFrontMark_of_mem_innerFront hfront
  have hb := isBackMark_of_mem_innerBack hback
  have hchain : HasNoStarredWord (innerFront front ++ (h ++ innerBack back)) := by
    refine HasNoStarredWord.append ?_ (hasNoStarredWord_host (hh.not_mem (by decide)) hb) ?_
    · exact hasNoStarredWord_of_forall fun c _ d hd _ => isWordChar_frontMark (hf d hd)
    · intro hlast d hd
      obtain ⟨c, t, rfl, -⟩ := hh.exists_cons
      exact hkept hlast d hd
  have hword : withoutLeadingWord (innerFront front ++ (h ++ innerBack back)) =
      innerFront front ++ (h ++ innerBack back) := by
    cases hinner : innerFront front with
    | nil =>
        -- the first word ends inside the host, at a dot at the latest
        obtain ⟨first, rest, -, hfirst, -, heq, -⟩ := hh.exists_first
        have hstar : '*' ∉ first := fun hmem => absurd (hfirst '*' hmem) (by decide)
        rw [List.nil_append, heq, List.append_assoc, List.cons_append]
        exact withoutLeadingWord_eq_self
          (run?_ne_of_not_mem (by decide) hstar (by decide) _)
    | cons c f =>
        exact withoutLeadingWord_of_not
          (isWordChar_frontMark (hf c (by rw [hinner]; exact List.mem_cons_self))) _
  rw [stripped_eq_foldl_inner hh, foldl_apply_inner (slash_not_mem hf (hh.not_mem (by decide)) hb),
    substitute_asteriskWordAt_eq_self hchain, hword]
  exact trimStart_host hh (fun c hc => by
    by_contra hdot
    obtain rfl : c = '.' := by simpa using hdot
    exact absurd hc (by decide)) _ _

/-- An asterisk behind marks goes with the word behind it, and nothing else does. -/
theorem substitute_asteriskWordAt_append {word rest : Text} (hf : ∀ c ∈ f, isFrontMark c = true)
    (hne : word ≠ []) (hword : ∀ c ∈ word, isWordChar c = true)
    (hhead : ∀ c, rest.head? = some c → isWordChar c = false) (hrest : HasNoStarredWord rest) :
    substitute asteriskWordAt (f ++ '*' :: (word ++ rest)) = f ++ rest := by
  have hrun : run? isWordChar (word ++ rest) = some (word, rest) := run?_append hne hword hhead
  have hpass : substitute asteriskWordAt (f ++ '*' :: (word ++ rest)) =
      f ++ substitute asteriskWordAt ('*' :: (word ++ rest)) := by
    refine substitute_append ?_
    -- behind an asterisk further out stands another mark
    intro c others hsuffix
    by_cases hc : c = '*'
    · subst hc
      have hnext : ∃ d t, others ++ '*' :: (word ++ rest) = d :: t ∧ isWordChar d = false := by
        cases others with
        | nil => exact ⟨'*', _, rfl, by decide⟩
        | cons d t =>
            exact ⟨d, _, rfl, isWordChar_frontMark (hf d (hsuffix.subset (by simp)))⟩
      obtain ⟨d, t, ht, hd⟩ := hnext
      simp [ht, asteriskWordAt, run?, hd]
    · exact asteriskWordAt_of_ne hc _
  rw [hpass, substitute_cons_of_eq_some (by rw [asteriskWordAt, hrun]; rfl), List.drop_left,
    substitute_asteriskWordAt_eq_self hrest]
  rfl

/-- An asterisk right in front of the host goes with the first word of the host. -/
theorem stripped_of_taken (hh : IsNamedHost h) (hfront : ∀ c ∈ front, isFrontMark c = true)
    (hback : ∀ c ∈ back, isBackMark c = true) {word rest : Text}
    (hinner : innerFront front = f ++ ['*']) (heq : h = word ++ rest) (hne : word ≠ [])
    (hword : ∀ c ∈ word, isWordChar c = true)
    (hrest : ∀ c, (rest ++ innerBack back).head? = some c → isWordChar c = false) :
    stripped (front ++ (h ++ back)) =
      trimStart (· = '.') (f ++ (rest ++ innerBack back)) := by
  have hb := isBackMark_of_mem_innerBack hback
  have hmarks := isFrontMark_of_mem_innerFront hfront
  have hf : ∀ c ∈ f, isFrontMark c = true := by
    intro c hc
    exact hmarks c (by rw [hinner]; exact List.mem_append_left _ hc)
  have hstar : '*' ∉ rest := by
    intro hmem
    exact hh.not_mem (c := '*') (by decide) (by rw [heq]; exact List.mem_append_right _ hmem)
  have htaken := substitute_asteriskWordAt_append hf hne hword hrest
    (hasNoStarredWord_host hstar hb)
  have hleading : withoutLeadingWord (f ++ (rest ++ innerBack back)) =
      f ++ (rest ++ innerBack back) := by
    cases f with
    | nil => exact absurd (by rw [hinner]; rfl) (head?_innerFront front)
    | cons c f => exact withoutLeadingWord_of_not (isWordChar_frontMark (hf c (by simp))) _
  rw [stripped_eq_foldl_inner hh,
    foldl_apply_inner (slash_not_mem hmarks (hh.not_mem (by decide)) hb),
    hinner, heq, List.append_assoc, List.append_assoc, List.singleton_append, htaken, hleading]

/-! ### The host that is looked up -/

/-- Whether a character is a mark or one of a host. -/
def isEdgedChar (c : Char) : Bool := isFrontMark c || isNamedChar c || isBackMark c

theorem not_mem_of_edged (ht : ∀ c ∈ t, isEdgedChar c = true) {c : Char}
    (hc : isEdgedChar c = false) : c ∉ t := by
  intro hmem
  simp [ht c hmem] at hc

/-- A stripped rule over marks and the characters of hosts is looked up as it is. -/
theorem hostOfRule?_of_edged {rule : Text} (ht : ∀ c ∈ stripped rule, isEdgedChar c = true) :
    hostOfRule? rule = if '.' ∈ stripped rule then some (stripped rule) else none := by
  rw [hostOfRule?, decodedRule_eq_self (not_mem_of_edged ht (by decide)),
    hostPart?_of_plain (not_mem_of_edged ht (by decide)) (not_mem_of_edged ht (by decide))]

/-- How a host comes out of its marks: whole, or without its first word if an asterisk stands right
in front of that. -/
theorem stripped_cases (hh : IsNamedHost h) (hfront : ∀ c ∈ front, isFrontMark c = true)
    (hback : ∀ c ∈ back, isBackMark c = true) :
    stripped (front ++ (h ++ back)) =
        trimStart (· = '.') (innerFront front) ++ (h ++ innerBack back) ∨
      ∃ f word rest, innerFront front = f ++ ['*'] ∧ h = word ++ rest ∧ word ≠ [] ∧
        (∀ c ∈ word, isWordChar c = true) ∧
        stripped (front ++ (h ++ back)) = trimStart (· = '.') (f ++ (rest ++ innerBack back)) := by
  by_cases hkept : (innerFront front).getLast? = some '*' → ∀ d, h.head? = some d →
      isWordChar d = false
  · exact .inl (stripped_of_kept hh hfront hback hkept)
  · simp only [not_forall, Bool.not_eq_false] at hkept
    obtain ⟨hlast, d, hhead, hd⟩ := hkept
    obtain ⟨f, hf⟩ := List.getLast?_eq_some_iff.1 hlast
    obtain ⟨t, rfl⟩ := List.head?_eq_some_iff.1 hhead
    refine .inr ⟨f, (d :: t).takeWhile isWordChar, (d :: t).dropWhile isWordChar, hf,
      List.takeWhile_append_dropWhile.symm, by simp [hd], fun c hc => List.mem_takeWhile_imp hc, ?_⟩
    refine stripped_of_taken hh hfront hback hf List.takeWhile_append_dropWhile.symm
      (by simp [hd]) (fun c hc => List.mem_takeWhile_imp hc) ?_
    intro c hc
    cases hrest : (d :: t).dropWhile isWordChar with
    | nil =>
        rw [hrest, List.nil_append] at hc
        exact isWordChar_backMark (isBackMark_of_mem_innerBack hback c (List.mem_of_mem_head? hc))
    | cons e rest =>
        rw [hrest, List.cons_append, List.head?_cons, Option.some.injEq] at hc
        subst hc
        have hnot := List.head?_dropWhile_not isWordChar (d :: t)
        rw [hrest] at hnot
        exact hnot

/-- Without its first word a host has fewer characters of hosts, whatever marks stand around it. -/
theorem countP_isHostChar_lt (hh : IsNamedHost h) (hback : ∀ c ∈ back, isBackMark c = true)
    {word rest : Text} (hf : ∀ c ∈ f, isFrontMark c = true) (hsplit : h = word ++ rest)
    (hne : word ≠ []) (hword : ∀ c ∈ word, isWordChar c = true) :
    (f ++ (rest ++ innerBack back)).countP isHostChar < h.countP isHostChar := by
  have hb := isBackMark_of_mem_innerBack hback
  have hfNone : f.countP isHostChar = 0 :=
    List.countP_eq_zero.2 fun c hc => by simp [isHostChar_frontMark (hf c hc)]
  have hbNone : (innerBack back).countP isHostChar = 0 :=
    List.countP_eq_zero.2 fun c hc => by simp [isHostChar_backMark (hb c hc)]
  have hwordSome : 0 < word.countP isHostChar := by
    obtain ⟨c, more, rfl⟩ := List.exists_cons_of_ne_nil hne
    have hnamed := hh.chars (c := c) (by rw [hsplit]; simp)
    have hdot : c ≠ '.' := by
      rintro rfl
      exact absurd (hword '.' List.mem_cons_self) (by decide)
    exact List.countP_pos_iff.2 ⟨c, List.mem_cons_self, by simpa [isNamedChar, hdot] using hnamed⟩
  calc (f ++ (rest ++ innerBack back)).countP isHostChar
      = rest.countP isHostChar := by simp [List.countP_append, hfNone, hbNone]
    _ < h.countP isHostChar := by
        rw [hsplit, List.countP_append]
        omega

/-- A host comes out as it is exactly if the marks around it are in order. -/
theorem stripped_eq_self_iff (hh : IsNamedHost h) (hfront : ∀ c ∈ front, isFrontMark c = true)
    (hback : ∀ c ∈ back, isBackMark c = true) :
    stripped (front ++ (h ++ back)) = h ↔ IsOrderedFront front ∧ IsOrderedBack back := by
  rw [isOrderedFront_iff, isOrderedBack_iff]
  rcases stripped_cases hh hfront hback with
    hwhole | ⟨f, word, rest, hinner, hsplit, hne, hword, hr⟩
  · rw [hwhole]
    constructor
    · intro heq
      have hlength := congrArg List.length heq
      simp only [List.length_append] at hlength
      constructor <;> refine List.eq_nil_of_length_eq_zero ?_ <;> omega
    · rintro ⟨hf, hb⟩
      rw [hf, hb, List.nil_append, List.append_nil]
  · -- the word that is gone is missing among the characters of the host
    have hf : ∀ c ∈ f, isFrontMark c = true := by
      intro c hc
      exact isFrontMark_of_mem_innerFront hfront c (by rw [hinner]; exact List.mem_append_left _ hc)
    have hcount : (stripped (front ++ (h ++ back))).countP isHostChar < h.countP isHostChar :=
      lt_of_le_of_lt (hr ▸ (List.dropWhile_sublist _).countP_le)
        (countP_isHostChar_lt hh hback hf hsplit hne hword)
    constructor
    · intro heq
      rw [heq] at hcount
      exact absurd hcount (lt_irrefl _)
    · rintro ⟨hdots, -⟩
      obtain ⟨d, more, hkept, -⟩ := exists_trimStart_cons (p := (· = '.')) (c := '*')
        (t := innerFront front) (by simp [hinner]) (by decide)
      rw [hdots] at hkept
      cases hkept

/-- The host is looked up exactly if the marks around it are in order. -/
theorem hostOfRule?_eq_some_iff (hh : IsNamedHost h) (hfront : ∀ c ∈ front, isFrontMark c = true)
    (hback : ∀ c ∈ back, isBackMark c = true) :
    hostOfRule? (front ++ (h ++ back)) = some h ↔ IsOrderedFront front ∧ IsOrderedBack back := by
  have hedged : ∀ c ∈ stripped (front ++ (h ++ back)), isEdgedChar c = true := by
    intro c hc
    have hmem := (stripped_sublist _).subset hc
    simp only [List.mem_append] at hmem
    rcases hmem with hc | hc | hc
    · simp [isEdgedChar, hfront c hc]
    · simp [isEdgedChar, hh.chars hc]
    · simp [isEdgedChar, hback c hc]
  rw [hostOfRule?_of_edged hedged, ← stripped_eq_self_iff hh hfront hback]
  constructor
  · intro heq
    split at heq
    · exact Option.some.inj heq
    · cases heq
  · intro heq
    rw [heq, if_pos hh.dot_mem]

/-- With marks around a host, a rule has the domain of this host for every resolver if the marks
are in order: in front of the host pipes, then asterisks, then dots, and behind it asterisks, then
pipes and carets. In any other order another host is looked up, or none; so a resolver can tell the
rule from the host, unless that is an address of four numbers, which has no domain. -/
theorem ofRule?_edges_iff (hh : IsNamedHost h) (hfront : ∀ c ∈ front, isFrontMark c = true)
    (hback : ∀ c ∈ back, isBackMark c = true) :
    (IsOrderedFront front ∧ IsOrderedBack back →
      ∀ resolve, ofRule? resolve (front ++ (h ++ back)) = ofHost? resolve h) ∧
    (hostOfRule? (front ++ (h ++ back)) = some h ↔ IsOrderedFront front ∧ IsOrderedBack back) ∧
    (isDottedQuad h = false →
      (∀ resolve, ofRule? resolve (front ++ (h ++ back)) = ofHost? resolve h) →
      IsOrderedFront front ∧ IsOrderedBack back) := by
  have hlooked := hostOfRule?_eq_some_iff hh hfront hback
  refine ⟨?_, hlooked, ?_⟩
  · intro hordered resolve
    rw [ofRule?_eq_bind, hlooked.2 hordered]
    rfl
  · intro hquad hall
    -- the domain that `telling` gives the host is that of no other
    have htold := hall telling
    rw [ofRule?_eq_bind, ofHost?_telling, hquad, if_neg Bool.false_ne_true] at htold
    obtain ⟨found, hfound, hdomain⟩ := Option.bind_eq_some_iff.1 htold
    rw [ofHost?_telling] at hdomain
    split at hdomain
    · cases hdomain
    · obtain rfl : found = h := by simpa using hdomain
      exact hlooked.1 hfound

/-- Every mark, twice, in the order in which it goes. -/
theorem ofRule?_edges_iff_doubled :
    IsNamedHost "my-site.co.uk".toList ∧
      (∀ c ∈ "||**..".toList, isFrontMark c = true) ∧ (∀ c ∈ "**^|^|".toList, isBackMark c = true) ∧
      ∀ resolve, ofRule? resolve "||**..my-site.co.uk**^|^|".toList =
        ofHost? resolve "my-site.co.uk".toList := by
  have hhost : IsWebHost "my-site.co.uk".toList := by decide
  have hfront : ∀ c ∈ "||**..".toList, isFrontMark c = true := List.all_eq_true.1 rfl
  have hback : ∀ c ∈ "**^|^|".toList, isBackMark c = true := List.all_eq_true.1 rfl
  refine ⟨hhost.toIsNamedHost, hfront, hback, ?_⟩
  exact (ofRule?_edges_iff hhost.toIsNamedHost hfront hback).1
    ⟨⟨2, 2, 2, rfl⟩, 2, "^|^|".toList, rfl, by simp⟩

/-- A caret in front of an asterisk stays, so does a pipe behind one, and an asterisk behind a dot
takes the first word of the host. -/
theorem not_ofRule?_edges :
    ofRule? (SuffixRules.lookup {}) "example.com^*".toList = none ∧
    ofRule? (SuffixRules.lookup {}) "*|example.com".toList = none ∧
    ofRule? (SuffixRules.lookup {}) ".*www.example.co.uk".toList = some "example.co.uk".toList ∧
    ofRule? (SuffixRules.lookup {}) ".*example.com".toList = none ∧
    ¬∀ (h front back : Text) (resolve : Resolver), IsNamedHost h →
      (∀ c ∈ front, isFrontMark c = true) → (∀ c ∈ back, isBackMark c = true) →
      ofRule? resolve (front ++ (h ++ back)) = ofHost? resolve h := by
  have hcaret : ofRule? (SuffixRules.lookup {}) "example.com^*".toList = none := by decide
  have hplain : ofHost? (SuffixRules.lookup {}) "example.com".toList =
      some "example.com".toList := by decide
  have hhost : IsWebHost "example.com".toList := by decide
  refine ⟨hcaret, by decide, by decide, by decide, ?_⟩
  intro hall
  have hsame := hall "example.com".toList [] "^*".toList (SuffixRules.lookup {})
    hhost.toIsNamedHost nofun (List.all_eq_true.1 rfl)
  rw [hplain] at hsame
  exact absurd (hcaret.symm.trans hsame) nofun

end PacRules.Domain
