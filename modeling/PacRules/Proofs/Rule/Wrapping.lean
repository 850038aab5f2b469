import PacRules.Proofs.Rule.Line
import PacRules.Proofs.Rule.Translation

/-!
# Globs that match anywhere

A rule of no other form is a glob for any part of an address, which is written as one for whole
addresses: the asterisks at its edges are trimmed, and one is put at either end. The asterisks that
go may take nothing and those that come may take anything around the part, so what the rule matches
stays the same. What is written is a rule again, of the same form and with the same text.
-/

namespace PacRules.Rule

open PacRules.Text

namespace Glob

variable {single : Char → Bool} {front back g s u : Text}

/-- `MatchesPart single g u`: the glob `g` takes some part of the text `u`. -/
def MatchesPart (single : Char → Bool) (g u : Text) : Prop := ∃ s, s <:+: u ∧ Matches single g s

/-- Asterisks may take nothing. -/
theorem matches_nil_of_stars (h : ∀ c ∈ g, c = '*') : Matches single g [] := by
  induction g with
  | nil => exact .nil
  | cons c g ih =>
      obtain rfl : c = '*' := h c List.mem_cons_self
      exact .stop (ih fun d hd => h d (List.mem_cons_of_mem _ hd))

/-- An asterisk takes anything. -/
theorem matches_star_singleton (s : Text) : Matches single ['*'] s :=
  matches_star_iff.2 ⟨s, [], by simp, .nil⟩

/-- A glob between two asterisks takes a text of which the glob takes a part. -/
theorem matches_between_stars_iff :
    Matches single (['*'] ++ g ++ ['*']) u ↔ MatchesPart single g u := by
  constructor
  · intro h
    obtain ⟨start, last, rfl, hstart, -⟩ := matches_append_iff.1 h
    obtain ⟨first, s, rfl, -, hs⟩ := matches_append_iff.1 hstart
    exact ⟨s, ⟨first, last, rfl⟩, hs⟩
  · rintro ⟨s, ⟨first, last, rfl⟩, hs⟩
    have hstart : Matches single (['*'] ++ g) (first ++ s) :=
      matches_append_iff.2 ⟨first, s, rfl, matches_star_singleton first, hs⟩
    exact matches_append_iff.2 ⟨first ++ s, last, rfl, hstart, matches_star_singleton last⟩

/-- Asterisks at the edges of a glob make no difference to which texts it takes a part of. -/
theorem matchesPart_append_stars_iff (hfront : ∀ c ∈ front, c = '*') (hback : ∀ c ∈ back, c = '*') :
    MatchesPart single (front ++ (g ++ back)) u ↔ MatchesPart single g u := by
  constructor
  · rintro ⟨s, hs, hmatch⟩
    obtain ⟨first, others, rfl, -, hothers⟩ := matches_append_iff.1 hmatch
    obtain ⟨part, last, rfl, hpart, -⟩ := matches_append_iff.1 hothers
    refine ⟨part, List.IsInfix.trans ⟨first, last, ?_⟩ hs, hpart⟩
    rw [List.append_assoc]
  · rintro ⟨s, hs, hmatch⟩
    have hlast : Matches single (g ++ back) s :=
      matches_append_iff.2 ⟨s, [], by simp, hmatch, matches_nil_of_stars hback⟩
    exact ⟨s, hs, matches_append_iff.2 ⟨[], s, rfl, matches_nil_of_stars hfront, hlast⟩⟩

theorem matchesPart_trim_iff (g u : Text) :
    MatchesPart single (trim (· = '*') g) u ↔ MatchesPart single g u := by
  obtain ⟨front, back, heq, hfront, hback⟩ := exists_trim_append (· = '*') g
  have hedges : MatchesPart single (front ++ (trim (· = '*') g ++ back)) u ↔
      MatchesPart single (trim (· = '*') g) u :=
    matchesPart_append_stars_iff (fun c hc => of_decide_eq_true (hfront c hc)) fun c hc =>
      of_decide_eq_true (hback c hc)
  rw [← heq] at hedges
  exact hedges.symm

end Glob

/-! ### The form of a glob -/

variable {body line : Text}

/-- A rule of no other form than that of a glob. -/
structure IsLoose (body : Text) : Prop where
  literal : regexpLiteral? body = none
  caret_not_mem : '^' ∉ body
  head?_ne : body.head? ≠ some '|'
  getLast?_ne : body.getLast? ≠ some '|'

/-- A glob with one asterisk at either edge. -/
def wrapped (body : Text) : Text := ['*'] ++ trim (· = '*') body ++ ['*']

theorem patternOfBody_eq_of_isLoose (h : IsLoose body) :
    patternOfBody body = (.wildcard, wrapped body) := by
  have hstrip : List.isPrefixOf? ['|', '|'] body = none :=
    isPrefixOf?_cons_of_head?_ne h.head?_ne ['|']
  simp [patternOfBody, h.literal, any_eq_false_iff.2 h.caret_not_mem, hstrip, h.head?_ne,
    h.getLast?_ne, wrapped]

/-- The other forms are tried first, so a glob has none of their marks. -/
theorem isLoose_of_form (h : (patternOfBody body).1 = .wildcard) : IsLoose body := by
  have hliteral : regexpLiteral? body = none := by
    cases hsource : regexpLiteral? body with
    | none => rfl
    | some source => simp [patternOfBody, hsource] at h
  have hcaret : '^' ∉ body := by
    intro hcaret
    rw [patternOfBody_caret hliteral hcaret] at h
    cases h
  have hanchor : ∀ rest, body ≠ '|' :: '|' :: rest := by
    rintro rest rfl
    rw [patternOfBody_anchor hliteral hcaret] at h
    cases h
  have hedge : ¬(body.head? = some '|' ∨ body.getLast? = some '|') := by
    intro hedge
    rw [patternOfBody_edge hliteral hcaret hanchor hedge] at h
    cases h
  exact ⟨hliteral, hcaret, fun hhead => hedge (.inl hhead), fun hlast => hedge (.inr hlast)⟩

theorem head?_wrapped (body : Text) : (wrapped body).head? = some '*' := rfl

theorem getLast?_wrapped (body : Text) : (wrapped body).getLast? = some '*' :=
  List.getLast?_concat

theorem isLoose_wrapped (h : IsLoose body) : IsLoose (wrapped body) where
  literal := rfl
  caret_not_mem := by
    have hinner : '^' ∉ trim (· = '*') body := fun hcaret =>
      h.caret_not_mem ((trim_sublist _ _).subset hcaret)
    simpa [wrapped] using hinner
  head?_ne := by simp [head?_wrapped]
  getLast?_ne := by simp [getLast?_wrapped]

theorem wrapped_wrapped (body : Text) : wrapped (wrapped body) = wrapped body := by
  have hstar : ∀ c ∈ ['*'], decide (c = '*') = true := by simp
  have htrim : trim (· = '*') (wrapped body) = trim (· = '*') body := by
    rw [wrapped, List.append_assoc, trim_append hstar hstar, trim_trim]
  rw [wrapped, htrim, wrapped]

theorem ofLine?_of_isLoose {route : Route} (htrimmed : trimmed line = line)
    (hrule : holdsNoRule line = false) (hrouted : routed line = (route, body))
    (hbody : IsLoose body) :
    Pattern.ofLine? line = some { route, form := .wildcard, text := wrapped body } := by
  simp [Pattern.ofLine?, htrimmed, hrule, hrouted, patternOfBody_eq_of_isLoose hbody]

/-- What is written for a glob is read as the same glob, with or without the mark of an
exception. -/
theorem ofLine?_wrapped (h : IsLoose body) :
    Pattern.ofLine? (wrapped body) =
        some { route := .proxy, form := .wildcard, text := wrapped body } ∧
      Pattern.ofLine? (exceptionMark ++ wrapped body) =
        some { route := .direct, form := .wildcard, text := wrapped body } := by
  have hwrapped := isLoose_wrapped h
  have hlast : ∀ c, (wrapped body).getLast? = some c → isPadding c = false := by
    intro c hc
    obtain rfl : '*' = c := Option.some.inj ((getLast?_wrapped body).symm.trans hc)
    rfl
  constructor
  · have htrimmed : trimmed (wrapped body) = wrapped body := by
      refine trimmed_eq_self ?_ hlast
      intro c hc
      obtain rfl : '*' = c := Option.some.inj hc
      rfl
    have hplain := ofLine?_of_isLoose htrimmed rfl
      (routed_of_head?_ne (by simp [head?_wrapped])) hwrapped
    rwa [wrapped_wrapped] at hplain
  · have htrimmed := trimmed_exceptionMark_append (by simp [wrapped]) hlast
    have hmarked := ofLine?_of_isLoose htrimmed rfl (routed_exceptionMark_append _) hwrapped
    rwa [wrapped_wrapped] at hmarked

/-- The pattern of a line that is read as a glob takes the texts of which the line's rule, its
asterisks being all that stands for other characters, takes some part. It is read as a glob again
whose text it is itself: for the proxy as it stands, and directly behind the mark of an
exception. -/
theorem ofLine?_wildcard {p : Pattern} (hline : Pattern.ofLine? line = some p)
    (hform : p.form = .wildcard) :
    (∀ u, Glob.Matches (fun _ => false) p.text u ↔
      ∃ s, s <:+: u ∧ Glob.Matches (fun _ => false) (routed (trimmed line)).2 s) ∧
    Pattern.ofLine? p.text = some { route := .proxy, form := .wildcard, text := p.text } ∧
    Pattern.ofLine? (exceptionMark ++ p.text) =
      some { route := .direct, form := .wildcard, text := p.text } := by
  have hpattern := eq_patternOfBody hline
  have hbody : IsLoose (routed (trimmed line)).2 := isLoose_of_form (by rw [← hpattern, hform])
  rw [patternOfBody_eq_of_isLoose hbody] at hpattern
  have htext : p.text = wrapped (routed (trimmed line)).2 := (Prod.mk.inj hpattern).2
  rw [htext]
  refine ⟨?_, ofLine?_wrapped hbody⟩
  intro u
  rw [wrapped, Glob.matches_between_stars_iff, Glob.matchesPart_trim_iff]
  rfl

/-- Two asterisks in front of an exception, one in it, and a full-width question mark, which stands
for itself here. -/
theorem ofLine?_wildcard_starred :
    Pattern.ofLine? " @@**x*y？*".toList =
      some { route := .direct, form := .wildcard, text := "*x*y？*".toList } ∧
    (∀ u, Glob.Matches (fun _ => false) "*x*y？*".toList u ↔
      ∃ s, s <:+: u ∧ Glob.Matches (fun _ => false) "**x*y？*".toList s) ∧
    Pattern.ofLine? "*x*y？*".toList =
      some { route := .proxy, form := .wildcard, text := "*x*y？*".toList } ∧
    Pattern.ofLine? "@@*x*y？*".toList =
      some { route := .direct, form := .wildcard, text := "*x*y？*".toList } := by
  have hline : Pattern.ofLine? " @@**x*y？*".toList =
      some { route := .direct, form := .wildcard, text := "*x*y？*".toList } := by decide
  exact ⟨hline, ofLine?_wildcard hline rfl⟩

end PacRules.Rule
