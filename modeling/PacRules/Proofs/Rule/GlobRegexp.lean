import PacRules.Rule.Glob
import PacRules.Rule.Regexp

/-!
# Globs as regular expressions

A glob without an ASCII question mark is written as a row of terms, one for each character, and
this row takes the texts that the glob takes. An ASCII question mark is written as it is, and
there it says how often what stands before it is taken, or that this is taken reluctantly, or it
has nothing before it. The row then demands fewer characters than the glob, so it takes a text
that is too short for the glob. Only a line end that the row demands can hide this, since texts
with line ends are left out of the comparison.
-/

namespace PacRules.Rule

open PacRules.Text

variable {g s : Text} {terms : List Regexp.Term} {last : Regexp.Last}

/-! ### The expression of a glob -/

namespace Glob

/-- What takes one character where a glob has the character `c`. -/
def atom (c : Char) : Regexp.Atom := if c = '*' ∨ c = anyOne then .dot else .char c

/-- The term for a character of a glob. -/
def term (c : Char) : Regexp.Term :=
  { atom := atom c, quantity := if c = '*' then .anyTimes else .once }

/-- What a reader has read last behind the expression of a character. -/
def lastOf (c : Char) : Regexp.Last := if c = '*' then .quantified (term c) else .atom (atom c)

theorem terms_lastOf (c : Char) : (lastOf c).terms = [term c] := by
  unfold lastOf
  split
  · rfl
  · next hc => simp [Regexp.Last.terms, term, hc]

theorem isEscapable_of_isMeta {c : Char} (h : isMeta c = true) : Regexp.isEscapable c = true := by
  have hall : "\\+|\x7b\x7d[]()^$.#".toList.all Regexp.isEscapable = true := by decide
  exact List.all_eq_true.1 hall c (List.contains_iff_mem.1 h)

theorem isSyntaxChar_eq_false {c : Char} (hmeta : isMeta c = false) (hstar : c ≠ '*')
    (hquestion : c ≠ '?') : Regexp.isSyntaxChar c = false := by
  have hall : "^$\\.*+?()[]\x7b\x7d|".toList.all
      (fun c => isMeta c || c = '*' || c = '?') = true := by decide
  cases hsyntax : Regexp.isSyntaxChar c with
  | false => rfl
  | true =>
      have hc := List.all_eq_true.1 hall c (List.contains_iff_mem.1 hsyntax)
      simp [hmeta, hstar, hquestion] at hc

/-- The expression of any character but the question mark is read as the term for it. -/
theorem readFrom_token {c : Char} (hc : c ≠ '?') (last : Regexp.Last) (t : Text) :
    Regexp.readFrom last (token c ++ t) =
      (Regexp.readFrom (lastOf c) t).map (last.terms ++ ·) := by
  unfold token
  split
  · next hstar =>
      rw [hstar, List.cons_append, Regexp.readFrom_dot]
      rfl
  · next hstar =>
      split
      · next hany =>
          rw [hany, List.cons_append, Regexp.readFrom_dot]
          rfl
      · next hany =>
          have hlast : lastOf c = .atom (.char c) := by simp [lastOf, atom, hstar, hany]
          rw [hlast]
          split
          · next hmeta => exact Regexp.readFrom_escape (isEscapable_of_isMeta hmeta) last t
          · next hmeta =>
              exact Regexp.readFrom_cons
                (isSyntaxChar_eq_false (Bool.eq_false_iff.2 hmeta) hstar hc) last t

theorem token_question : token '?' = ['?'] := by decide

/-- Without a question mark there is one term for each character. -/
theorem readFrom_regexp (hg : '?' ∉ g) (last : Regexp.Last) :
    Regexp.readFrom last (regexp g) = some (last.terms ++ g.map term) := by
  induction g generalizing last with
  | nil => simp
  | cons c g ih =>
      rw [List.mem_cons, not_or] at hg
      rw [regexp_cons, readFrom_token (Ne.symm hg.1), ih hg.2, terms_lastOf]
      rfl

/-! ### What the terms take -/

/-- In a text without line ends the terms of the characters take what the glob takes. -/
theorem matches_map_term_iff (hs : ∀ c ∈ s, isLineEnd c = false) :
    Regexp.Matches (g.map term) s ↔ Matches (· = anyOne) g s := by
  induction g generalizing s with
  | nil => simp
  | cons q g ih =>
      rw [List.map_cons]
      by_cases hq : q = '*'
      · have hterm : term q = ⟨.dot, .anyTimes⟩ := by simp [term, atom, hq]
        rw [hterm, hq, Regexp.matches_anyTimes_iff, matches_star_iff]
        refine exists₂_congr ?_
        rintro front rest
        refine and_congr_right ?_
        rintro rfl
        have hfront : front.all Regexp.Atom.dot.takes = true := by
          refine List.all_eq_true.2 ?_
          intro c hc
          simp [Regexp.Atom.takes, hs c (List.mem_append_left rest hc)]
        rw [ih fun c hc => hs c (List.mem_append_right front hc), hfront]
        simp
      · have hterm : term q = ⟨atom q, .once⟩ := by simp [term, hq]
        rw [hterm, Regexp.matches_once_iff, matches_cons_iff hq]
        refine exists₂_congr ?_
        rintro c t
        refine and_congr_right ?_
        rintro rfl
        have hc := hs c List.mem_cons_self
        rw [ih fun d hd => hs d (List.mem_cons_of_mem c hd)]
        refine and_congr_left' ?_
        by_cases hany : q = anyOne
        · simp [atom, hany, Regexp.Atom.takes, hc]
        · simp [atom, hq, hany, Regexp.Atom.takes]

theorem mem_of_matches {single : Char → Bool} {c : Char} (h : Matches single g s) (hg : c ∈ g)
    (hstar : c ≠ '*') (hsingle : single c = false) : c ∈ s := by
  induction h with
  | nil => exact hg
  | stop _ ih => exact ih ((List.mem_cons.1 hg).resolve_left hstar)
  | more d _ ih => exact List.mem_cons_of_mem d (ih hg)
  | any d _ hq _ ih =>
      refine List.mem_cons_of_mem d (ih ((List.mem_cons.1 hg).resolve_left ?_))
      rintro rfl
      simp [hq] at hsingle
  | same _ _ _ ih =>
      rcases List.mem_cons.1 hg with rfl | hg
      · exact List.mem_cons_self
      · exact List.mem_cons_of_mem _ (ih hg)

/-- A glob takes no text with fewer characters than it has besides its asterisks. -/
theorem countP_le_length {single : Char → Bool} (h : Matches single g s) :
    g.countP (· ≠ '*') ≤ s.length := by
  induction h with
  | nil => simp
  | stop _ ih => simpa using ih
  | more c _ ih =>
      rw [List.length_cons]
      omega
  | any c hq _ _ ih => simpa [hq] using ih
  | same hc _ _ ih => simpa [hc] using ih

end Glob

namespace Regexp

theorem mem_of_matches {c : Char} (h : Matches terms s) (hc : { atom := .char c } ∈ terms) :
    c ∈ s := by
  induction h with
  | nil => simp at hc
  | once ha _ ih =>
      rcases List.mem_cons.1 hc with heq | hc
      · obtain rfl := (Term.mk.inj heq).1
        simp only [Atom.takes, decide_eq_true_eq] at ha
        simp [ha]
      · exact List.mem_cons_of_mem _ (ih hc)
  | atMostOnce _ _ ih =>
      rcases List.mem_cons.1 hc with heq | hc
      · cases (Term.mk.inj heq).2
      · exact List.mem_cons_of_mem _ (ih hc)
  | again _ _ ih => exact List.mem_cons_of_mem _ (ih hc)
  | leave hq _ ih =>
      rcases List.mem_cons.1 hc with heq | hc
      · exact absurd (Term.mk.inj heq).2.symm hq
      · exact ih hc

/-- Whether a term demands a character. -/
def Term.isDemanding (t : Term) : Bool := t.quantity = .once

/-- A character that an atom takes. -/
def Atom.sample : Atom → Char
  | .dot => 'x'
  | .char c => c

/-- A shortest text that terms take: a character for each term that demands one. -/
def shortest (terms : List Term) : Text :=
  (terms.filter Term.isDemanding).map fun t => t.atom.sample

/-- The terms take their shortest text. -/
theorem matches_shortest (terms : List Term) : Matches terms (shortest terms) := by
  induction terms with
  | nil => exact .nil
  | cons t terms ih =>
      obtain ⟨a, q⟩ := t
      by_cases hq : q = .once
      · have hshort : shortest (⟨a, q⟩ :: terms) = a.sample :: shortest terms := by
          simp [shortest, Term.isDemanding, hq]
        have ha : a.takes a.sample = true := by
          cases a <;> simp [Atom.takes, Atom.sample, isLineEnd]
        rw [hshort, hq]
        exact .once ha ih
      · have hshort : shortest (⟨a, q⟩ :: terms) = shortest terms := by
          simp [shortest, Term.isDemanding, hq]
        rw [hshort]
        exact .leave hq ih

theorem mem_of_mem_shortest {c : Char} (hc : c ∈ shortest terms) (hline : isLineEnd c = true) :
    { atom := .char c } ∈ terms := by
  obtain ⟨⟨a, q⟩, hmem, hsample⟩ := List.mem_map.1 hc
  obtain ⟨hterm, hq⟩ := List.mem_filter.1 hmem
  obtain rfl : q = .once := by simpa [Term.isDemanding] using hq
  cases a with
  | dot =>
      obtain rfl : 'x' = c := hsample
      exact absurd hline (by decide)
  | char d =>
      obtain rfl : d = c := hsample
      exact hterm

end Regexp

/-! ### Question marks -/

namespace Glob

/-- Every question mark takes a character of the glob that the terms do not demand. -/
theorem countP_isDemanding_add_le (h : Regexp.readFrom last (regexp g) = some terms) :
    terms.countP Regexp.Term.isDemanding + g.count '?' ≤
      g.countP (· ≠ '*') + last.terms.countP Regexp.Term.isDemanding := by
  induction g generalizing last terms with
  | nil =>
      obtain rfl : last.terms = terms := Option.some.inj h
      simp
  | cons c g ih =>
      rw [regexp_cons] at h
      by_cases hc : c = '?'
      · subst hc
        rw [token_question, List.singleton_append] at h
        rw [List.count_cons_self, List.countP_cons_of_pos (by decide)]
        cases last with
        | nothing => simp [Regexp.readFrom_nothing_question] at h
        | atom a =>
            rw [Regexp.readFrom_atom_question] at h
            have hread := ih h
            have hbefore : (Regexp.Last.atom a).terms.countP Regexp.Term.isDemanding = 1 := rfl
            have hafter : (Regexp.Last.quantified ⟨a, .atMostOnce⟩).terms.countP
                Regexp.Term.isDemanding = 0 := rfl
            omega
        | quantified t =>
            rw [Regexp.readFrom_quantified_question] at h
            obtain ⟨rest, hrest, rfl⟩ := Option.map_eq_some_iff.1 h
            have hread := ih hrest
            simp only [Regexp.Last.terms, List.countP_cons, List.countP_nil] at hread ⊢
            omega
      · rw [readFrom_token hc] at h
        obtain ⟨rest, hrest, rfl⟩ := Option.map_eq_some_iff.1 h
        have hread := ih hrest
        rw [terms_lastOf] at hread
        rw [List.countP_append, List.count_cons_of_ne hc]
        by_cases hstar : c = '*'
        · have hdemand : [term c].countP Regexp.Term.isDemanding = 0 := by
            simp [term, Regexp.Term.isDemanding, hstar]
          rw [List.countP_cons_of_neg (by simpa using hstar)]
          omega
        · have hdemand : [term c].countP Regexp.Term.isDemanding = 1 := by
            simp [term, Regexp.Term.isDemanding, hstar]
          rw [List.countP_cons_of_pos (by simpa using hstar)]
          omega

/-- A character that the terms demand as itself stands in the glob. -/
theorem mem_of_char_mem {c : Char} (h : Regexp.readFrom last (regexp g) = some terms)
    (hc : { atom := .char c } ∈ terms) : { atom := .char c } ∈ last.terms ∨ c ∈ g := by
  induction g generalizing last terms with
  | nil =>
      obtain rfl : last.terms = terms := Option.some.inj h
      exact .inl hc
  | cons d g ih =>
      rw [regexp_cons] at h
      by_cases hd : d = '?'
      · subst hd
        rw [token_question, List.singleton_append] at h
        cases last with
        | nothing => simp [Regexp.readFrom_nothing_question] at h
        | atom a =>
            rw [Regexp.readFrom_atom_question] at h
            rcases ih h hc with hlast | hg
            · simp [Regexp.Last.terms] at hlast
            · exact .inr (List.mem_cons_of_mem _ hg)
        | quantified t =>
            rw [Regexp.readFrom_quantified_question] at h
            obtain ⟨rest, hrest, rfl⟩ := Option.map_eq_some_iff.1 h
            rcases List.mem_cons.1 hc with rfl | hc
            · exact .inl (List.mem_singleton.2 rfl)
            · rcases ih hrest hc with hlast | hg
              · simp [Regexp.Last.terms] at hlast
              · exact .inr (List.mem_cons_of_mem _ hg)
      · rw [readFrom_token hd] at h
        obtain ⟨rest, hrest, rfl⟩ := Option.map_eq_some_iff.1 h
        rcases List.mem_append.1 hc with hc | hc
        · exact .inl hc
        · rcases ih hrest hc with hlast | hg
          · rw [terms_lastOf, List.mem_singleton] at hlast
            have hatom : Regexp.Atom.char c = atom d := congrArg Regexp.Term.atom hlast
            unfold atom at hatom
            split at hatom
            · cases hatom
            · cases hatom
              exact .inr List.mem_cons_self
          · exact .inr (List.mem_cons_of_mem d hg)

/-! ### Faithful expressions -/

/-- The expression of the glob can be read, and of the texts without line ends it takes those that
the glob takes. -/
def IsFaithful (g : Text) : Prop :=
  ∃ terms, Regexp.read? (regexp g) = some terms ∧
    ∀ s : Text, (∀ c ∈ s, isLineEnd c = false) →
      (Regexp.Matches terms s ↔ Matches (· = anyOne) g s)

/-- A line end that glob and terms demand keeps both from taking a text without one. -/
theorem not_matches_of_demanded {c : Char} (h : Regexp.read? (regexp g) = some terms)
    (hc : { atom := .char c } ∈ terms) (hline : isLineEnd c = true)
    (hs : ∀ c ∈ s, isLineEnd c = false) :
    ¬Regexp.Matches terms s ∧ ¬Matches (· = anyOne) g s := by
  have hs' : c ∉ s := fun hmem => by simp [hs c hmem] at hline
  refine ⟨fun hmatch => hs' (Regexp.mem_of_matches hmatch hc), ?_⟩
  intro hmatch
  have hg : c ∈ g := (mem_of_char_mem h hc).resolve_left (by simp [Regexp.Last.terms])
  refine hs' (mem_of_matches hmatch hg ?_ ?_)
  · rintro rfl
    exact absurd hline (by decide)
  · simp only [decide_eq_false_iff_not]
    rintro rfl
    exact absurd hline (by decide)

/-- The expression of a glob is read and takes what the glob takes exactly if the glob has no ASCII
question mark, line ends that a readable expression demands aside. -/
theorem isFaithful_iff (g : Text) :
    IsFaithful g ↔ '?' ∉ g ∨
      ∃ terms, Regexp.read? (regexp g) = some terms ∧
        ∃ c, isLineEnd c = true ∧ { atom := .char c } ∈ terms := by
  constructor
  · rintro ⟨terms, hread, hmatches⟩
    by_cases hdemanded : ∃ c, isLineEnd c = true ∧ { atom := .char c } ∈ terms
    · exact .inr ⟨terms, hread, hdemanded⟩
    · refine .inl ?_
      intro hquestion
      -- the glob would have to take the shortest text of the terms
      have hs : ∀ c ∈ Regexp.shortest terms, isLineEnd c = false := by
        intro c hc
        cases hline : isLineEnd c with
        | false => rfl
        | true => exact absurd ⟨c, hline, Regexp.mem_of_mem_shortest hc hline⟩ hdemanded
      have htaken := countP_le_length ((hmatches _ hs).1 (Regexp.matches_shortest terms))
      have hlength : (Regexp.shortest terms).length = terms.countP Regexp.Term.isDemanding := by
        rw [Regexp.shortest, List.length_map, List.countP_eq_length_filter]
      have hdemand := countP_isDemanding_add_le hread
      have hcount := List.count_pos_iff.2 hquestion
      simp only [Regexp.Last.terms, List.countP_nil] at hdemand
      omega
  · rintro (hquestion | ⟨terms, hread, c, hline, hc⟩)
    · refine ⟨g.map term, readFrom_regexp hquestion .nothing, ?_⟩
      intro s hs
      exact matches_map_term_iff hs
    · refine ⟨terms, hread, ?_⟩
      intro s hs
      have hnone := not_matches_of_demanded hread hc hline hs
      exact iff_of_false hnone.1 hnone.2

/-- A question mark at the front is no regular expression, and behind a character it makes this
character optional. -/
theorem not_isFaithful :
    Regexp.read? (regexp ['?']) = none ∧
    (∃ terms, Regexp.read? (regexp "a?c".toList) = some terms ∧
      Regexp.Matches terms "c".toList ∧ ¬Regexp.Matches terms "a?c".toList) ∧
    ¬∀ g, IsFaithful g := by
  have hlone : Regexp.read? (regexp ['?']) = none := rfl
  refine ⟨hlone, ⟨[⟨.char 'a', .atMostOnce⟩, ⟨.char 'c', .once⟩], by decide, ?_, ?_⟩, ?_⟩
  · exact .leave (by decide) (.once rfl .nil)
  · intro h
    cases h with
    | atMostOnce _ h =>
        obtain ⟨c, t, heq, hc, -⟩ := Regexp.matches_once_iff.1 h
        obtain rfl : '?' = c := (List.cons.inj heq).1
        exact absurd hc (by decide)
    | leave _ h =>
        obtain ⟨c, t, heq, hc, -⟩ := Regexp.matches_once_iff.1 h
        obtain rfl : 'a' = c := (List.cons.inj heq).1
        exact absurd hc (by decide)
  · intro hall
    obtain ⟨terms, hread, -⟩ := hall ['?']
    rw [hlone] at hread
    cases hread

end Glob

end PacRules.Rule
