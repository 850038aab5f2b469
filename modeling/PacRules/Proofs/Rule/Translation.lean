import PacRules.Proofs.Text.Front
import PacRules.Rule.Pattern

/-!
# Rules translated character by character

The expression of a rule is written by escaping the whole rule first and replacing escapes in the
result: those of carets everywhere, those of pipes at the edges. What is replaced was written for a
caret or a pipe, whatever the rule holds next to it: both stand in the escaped text only behind the
backslash that belongs to them, and a backslash of the rule stands there twice, so a search that
goes from left to right is never out of step. The result is the one of a translation that looks at
one character at a time.

The expression of a glob can be read back. The token of an asterisk and that of the one-character
wildcard begin alike, but no token begins with an asterisk.
-/

namespace PacRules.Rule

open PacRules.Text

variable {g body inner line : Text} {p : Pattern}

namespace Glob

/-! ### Tokens -/

theorem token_of_isMeta {c : Char} (h : isMeta c = true) : token c = ['\\', c] := by
  have hstar : c ≠ '*' := by
    rintro rfl
    simp [isMeta] at h
  have hany : c ≠ anyOne := by
    rintro rfl
    simp [isMeta, anyOne] at h
  rw [token, if_neg hstar, if_neg hany, if_pos h]

/-- A token is a period, alone or with an asterisk, or an escape, or its character. -/
theorem token_cases (c : Char) :
    c = '*' ∧ token c = ['.', '*'] ∨ c = anyOne ∧ token c = ['.'] ∨
      isMeta c = true ∧ token c = ['\\', c] ∨
      (c ≠ '*' ∧ c ≠ anyOne ∧ isMeta c = false) ∧ token c = [c] := by
  unfold token
  by_cases hstar : c = '*'
  · simp [hstar]
  · by_cases hany : c = anyOne
    · simp [hany, anyOne]
    · cases hmeta : isMeta c <;> simp [hstar, hany]

/-- A character of the syntax other than the period and the backslash begins no token. -/
theorem head?_token_ne {c : Char} (hc : isMeta c = true ∨ c = '*') (hdot : c ≠ '.')
    (hback : c ≠ '\\') (d : Char) : (token d).head? ≠ some c := by
  rcases token_cases d with ⟨-, h⟩ | ⟨-, h⟩ | ⟨-, h⟩ | ⟨⟨hstar, -, hmeta⟩, h⟩
  · simpa [h] using Ne.symm hdot
  · simpa [h] using Ne.symm hdot
  · simpa [h] using Ne.symm hback
  · rw [h]
    rintro heq
    obtain rfl : d = c := Option.some.inj heq
    rcases hc with hc | hc
    · simp [hc] at hmeta
    · exact hstar hc

theorem head?_regexp_ne {c : Char} (hc : isMeta c = true ∨ c = '*') (hdot : c ≠ '.')
    (hback : c ≠ '\\') (g : Text) : (regexp g).head? ≠ some c := by
  cases g with
  | nil => simp
  | cons d g =>
      have htoken := head?_token_ne hc hdot hback d
      obtain ⟨e, t, ht⟩ : ∃ e t, token d = e :: t := by
        rcases token_cases d with ⟨-, h⟩ | ⟨-, h⟩ | ⟨-, h⟩ | ⟨-, h⟩ <;> exact ⟨_, _, h⟩
      rw [ht] at htoken
      rw [regexp_cons, ht]
      exact htoken

/-! ### Escaped carets -/

theorem head?_regexp_ne_caret (g : Text) : (regexp g).head? ≠ some '^' :=
  head?_regexp_ne (.inl (by decide)) (by decide) (by decide) g

/-- No escaped caret begins in the token of another character. -/
theorem replace_token {c : Char} (hc : c ≠ '^') (new g : Text) :
    replace ['\\', '^'] new (token c ++ regexp g) =
      token c ++ replace ['\\', '^'] new (regexp g) := by
  have hnext : ∀ d, replace ['\\', '^'] new (d :: regexp g) =
      d :: replace ['\\', '^'] new (regexp g) := fun d =>
    replace_cons_of_head? (head?_regexp_ne_caret g) [] new
  rcases token_cases c with ⟨-, h⟩ | ⟨-, h⟩ | ⟨-, h⟩ | ⟨-, h⟩
  · rw [h, List.cons_append, replace_cons_of_ne (by decide), List.singleton_append, hnext]
    rfl
  · rw [h, List.singleton_append, hnext]
    rfl
  · rw [h, List.cons_append, List.singleton_append, replace_cons_of_head? (by simpa using hc), hnext]
    rfl
  · rw [h, List.singleton_append, hnext]
    rfl

/-- What stands for an escaped caret stands for the caret of the glob. -/
theorem replace_regexp (new g : Text) :
    replace ['\\', '^'] new (regexp g) = g.flatMap fun c => if c = '^' then new else token c := by
  induction g with
  | nil => rfl
  | cons c g ih =>
      rw [regexp_cons, List.flatMap_cons, ← ih]
      by_cases hc : c = '^'
      · rw [if_pos hc, hc, token_of_isMeta (by decide)]
        exact replace_append_self '\\' ['^'] new (regexp g)
      · rw [if_neg hc, replace_token hc]

/-! ### Escaped pipes -/

theorem isPrefixOf?_regexp_cons (g : Text) :
    List.isPrefixOf? escapedPipe (regexp ('|' :: g)) = some (regexp g) :=
  isPrefixOf?_append escapedPipe (regexp g)

/-- An escaped pipe begins the expression only where a pipe begins the glob. -/
theorem isPrefixOf?_regexp_eq_none (h : g.head? ≠ some '|') :
    List.isPrefixOf? escapedPipe (regexp g) = none := by
  cases g with
  | nil => rfl
  | cons c g =>
      have hc : '|' ≠ c := by
        rintro rfl
        exact h rfl
      rw [regexp_cons, escapedPipe]
      rcases token_cases c with ⟨-, h⟩ | ⟨-, h⟩ | ⟨-, h⟩ | ⟨⟨-, -, hmeta⟩, h⟩
      · simp [h, List.isPrefixOf?]
      · simp [h, List.isPrefixOf?]
      · simp [h, List.isPrefixOf?, hc]
      · have hback : '\\' ≠ c := by
          rintro rfl
          simp [isMeta] at hmeta
        simp [h, List.isPrefixOf?, hback]

theorem isSuffixOf?_regexp_append (g : Text) :
    List.isSuffixOf? escapedPipe (regexp (g ++ ['|'])) = some (regexp g) := by
  rw [regexp_append]
  exact isSuffixOf?_append (regexp g) escapedPipe

/-- An escaped pipe ends the expression only where a pipe ends the glob. -/
theorem isSuffixOf?_regexp_eq_none (h : g.getLast? ≠ some '|') :
    List.isSuffixOf? escapedPipe (regexp g) = none := by
  rcases List.eq_nil_or_concat g with rfl | ⟨front, c, rfl⟩
  · rfl
  · have hc : '|' ≠ c := by
      rintro rfl
      simp at h
    obtain ⟨t, d, ht, hd⟩ : ∃ t d, token c = t ++ [d] ∧ '|' ≠ d := by
      rcases token_cases c with ⟨-, h⟩ | ⟨-, h⟩ | ⟨-, h⟩ | ⟨-, h⟩
      · exact ⟨['.'], '*', h, by decide⟩
      · exact ⟨[], '.', h, by decide⟩
      · exact ⟨['\\'], c, h, hc⟩
      · exact ⟨[], c, h, hc⟩
    have hregexp : regexp (front.concat c) = regexp front ++ t ++ [d] := by
      rw [List.concat_eq_append, regexp_append, regexp_cons, regexp_nil, List.append_nil, ht,
        List.append_assoc]
    rw [hregexp, List.isSuffixOf?, List.reverse_append, escapedPipe]
    simp [List.isPrefixOf?, hd]

/-! ### Reading back -/

/-- The glob of an expression that was written for one. -/
def ofRegexp : Text → Text
  | '.' :: '*' :: t => '*' :: ofRegexp t
  | '.' :: t => anyOne :: ofRegexp t
  | '\\' :: c :: t => c :: ofRegexp t
  | c :: t => c :: ofRegexp t
  | [] => []

theorem ofRegexp_dot {t : Text} (h : t.head? ≠ some '*') :
    ofRegexp ('.' :: t) = anyOne :: ofRegexp t := by
  rw [ofRegexp]
  rintro rest rfl
  exact h rfl

theorem ofRegexp_cons {c : Char} (hdot : c ≠ '.') (hback : c ≠ '\\') (t : Text) :
    ofRegexp (c :: t) = c :: ofRegexp t := by
  rw [ofRegexp]
  · rintro rest rfl
    exact absurd rfl hdot
  · exact hdot
  · rintro d rest rfl
    exact absurd rfl hback

/-- A glob is read back from its expression. -/
theorem ofRegexp_regexp (g : Text) : ofRegexp (regexp g) = g := by
  induction g with
  | nil => rfl
  | cons c g ih =>
      rw [regexp_cons]
      rcases token_cases c with ⟨rfl, h⟩ | ⟨rfl, h⟩ | ⟨-, h⟩ | ⟨⟨-, -, hmeta⟩, h⟩
      · rw [h, List.cons_append, List.singleton_append, ofRegexp, ih]
      · rw [h, List.singleton_append,
          ofRegexp_dot (head?_regexp_ne (.inr rfl) (by decide) (by decide) g), ih]
      · rw [h, List.cons_append, List.singleton_append, ofRegexp, ih]
      · have hdot : c ≠ '.' := by
          rintro rfl
          simp [isMeta] at hmeta
        have hback : c ≠ '\\' := by
          rintro rfl
          simp [isMeta] at hmeta
        rw [h, List.singleton_append, ofRegexp_cons hdot hback, ih]

theorem regexp_injective : Function.Injective regexp :=
  Function.LeftInverse.injective ofRegexp_regexp

end Glob

/-! ### Rules -/

/-- Edge pipes that are tied in the escaped text are those of the rule: one in front, and one behind
if any is left. -/
theorem tieEdges_cons (h : inner.getLast? ≠ some '|') :
    tieEdges (Glob.regexp ('|' :: inner)) = '^' :: Glob.regexp inner := by
  rw [tieEdges, Glob.isPrefixOf?_regexp_cons]
  simp only [Glob.isSuffixOf?_regexp_eq_none h]
  rfl

theorem tieEdges_append (h : inner.head? ≠ some '|') (hne : inner ≠ []) :
    tieEdges (Glob.regexp (inner ++ ['|'])) = Glob.regexp inner ++ ['$'] := by
  have hhead : (inner ++ ['|']).head? ≠ some '|' := by
    rwa [List.head?_append_of_ne_nil inner hne]
  rw [tieEdges, Glob.isPrefixOf?_regexp_eq_none hhead]
  simp only [Glob.isSuffixOf?_regexp_append]
  rfl

theorem tieEdges_both (inner : Text) :
    tieEdges (Glob.regexp ('|' :: (inner ++ ['|']))) = '^' :: (Glob.regexp inner ++ ['$']) := by
  rw [tieEdges, Glob.isPrefixOf?_regexp_cons]
  simp only [Glob.isSuffixOf?_regexp_append]
  rfl

theorem patternOfBody_caret (hliteral : regexpLiteral? body = none) (hcaret : '^' ∈ body) :
    patternOfBody body =
      (.regexp, body.flatMap fun c => if c = '^' then separator else Glob.token c) := by
  have hany : body.any (· = '^') = true := List.any_eq_true.2 ⟨'^', hcaret, by decide⟩
  simp only [patternOfBody, hliteral, hany, if_true, Glob.replace_regexp]

theorem patternOfBody_anchor (hliteral : regexpLiteral? ('|' :: '|' :: inner) = none)
    (hcaret : '^' ∉ '|' :: '|' :: inner) :
    patternOfBody ('|' :: '|' :: inner) = (.regexp, domainAnchor ++ Glob.regexp inner) := by
  have hstrip : List.isPrefixOf? ['|', '|'] ('|' :: '|' :: inner) = some inner :=
    isPrefixOf?_append ['|', '|'] inner
  simp only [patternOfBody, hliteral, any_eq_false_iff.2 hcaret, hstrip]
  rfl

theorem patternOfBody_edge (hliteral : regexpLiteral? body = none) (hcaret : '^' ∉ body)
    (hanchor : ∀ rest, body ≠ '|' :: '|' :: rest)
    (hedge : body.head? = some '|' ∨ body.getLast? = some '|') :
    patternOfBody body = (.regexp, tieEdges (Glob.regexp body)) := by
  have hstrip : List.isPrefixOf? ['|', '|'] body = none := by
    rw [isPrefixOf?_eq_none_iff]
    rintro ⟨rest, hrest⟩
    exact hanchor rest hrest.symm
  have hpipe : (body.head? = some '|' || body.getLast? = some '|') = true := by simpa using hedge
  simp only [patternOfBody, hliteral, any_eq_false_iff.2 hcaret, hstrip, hpipe]
  rfl

theorem eq_patternOfBody (h : Pattern.ofLine? line = some p) :
    (p.form, p.text) = patternOfBody (routed (trimmed line)).2 := by
  rw [Pattern.ofLine?] at h
  split at h
  · cases h
  · cases h
    rfl

/-- A rule that is no literal expression is translated character by character. If it holds a caret,
each caret becomes the separator and every other character its token. Otherwise two pipes in front
become the anchor and the rest its tokens; and a rule with a pipe at an edge becomes the tokens of
what is inside, with a caret for one pipe in front and a dollar sign for one pipe that is then left
behind. The tokens of different globs are different texts. -/
theorem ofLine?_translated :
    (∀ line p, Pattern.ofLine? line = some p → ∀ body, body = (routed (trimmed line)).2 →
      regexpLiteral? body = none →
      ('^' ∈ body → p.form = .regexp ∧
        p.text = body.flatMap fun c => if c = '^' then separator else Glob.token c) ∧
      ('^' ∉ body → ∀ inner, body = '|' :: '|' :: inner →
        p.form = .regexp ∧ p.text = domainAnchor ++ inner.flatMap Glob.token) ∧
      ('^' ∉ body → (∀ inner, body ≠ '|' :: '|' :: inner) → ∀ inner,
        (body = '|' :: inner → inner.getLast? ≠ some '|' →
          p.form = .regexp ∧ p.text = '^' :: inner.flatMap Glob.token) ∧
        (body = '|' :: (inner ++ ['|']) →
          p.form = .regexp ∧ p.text = '^' :: (inner.flatMap Glob.token ++ ['$'])) ∧
        (body = inner ++ ['|'] → inner ≠ [] → inner.head? ≠ some '|' →
          p.form = .regexp ∧ p.text = inner.flatMap Glob.token ++ ['$']))) ∧
    (∀ g, Glob.ofRegexp (Glob.regexp g) = g) ∧ Function.Injective Glob.regexp := by
  refine ⟨?_, Glob.ofRegexp_regexp, Glob.regexp_injective⟩
  intro line p hline body hbody hliteral
  have hpattern := eq_patternOfBody hline
  rw [← hbody] at hpattern
  refine ⟨?_, ?_, ?_⟩
  · intro hcaret
    rw [patternOfBody_caret hliteral hcaret] at hpattern
    exact Prod.mk.inj hpattern
  · rintro hcaret inner rfl
    rw [patternOfBody_anchor hliteral hcaret] at hpattern
    exact Prod.mk.inj hpattern
  · intro hcaret hanchor inner
    have hedge := patternOfBody_edge hliteral hcaret hanchor
    refine ⟨?_, ?_, ?_⟩
    · rintro rfl hlast
      rw [hedge (.inl rfl), tieEdges_cons hlast] at hpattern
      exact Prod.mk.inj hpattern
    · rintro rfl
      rw [hedge (.inl rfl), tieEdges_both] at hpattern
      exact Prod.mk.inj hpattern
    · rintro rfl hne hhead
      rw [hedge (.inr (by simp)), tieEdges_append hhead hne] at hpattern
      exact Prod.mk.inj hpattern

/-- A backslash stands in front of a caret in one rule, and in front of pipes in another. -/
theorem ofLine?_translated_backslashes :
    (∃ p, Pattern.ofLine? "a\\^.*".toList = some p ∧
      p.text = "a\\\\".toList ++ (separator ++ "\\..*".toList)) ∧
    ∃ p, Pattern.ofLine? "@@|a\\|b\\|".toList = some p ∧ p.text = "^a\\\\\\|b\\\\$".toList := by
  obtain ⟨p, hp⟩ : ∃ p, Pattern.ofLine? "a\\^.*".toList = some p := ⟨_, rfl⟩
  obtain ⟨q, hq⟩ : ∃ q, Pattern.ofLine? "@@|a\\|b\\|".toList = some q := ⟨_, rfl⟩
  have hcaret := (ofLine?_translated.1 _ p hp "a\\^.*".toList (by decide) (by decide)).1
    (by decide)
  have hedges := (ofLine?_translated.1 _ q hq "|a\\|b\\|".toList (by decide) (by decide)).2.2
    (by decide) (by rintro inner ⟨⟩) "a\\|b\\".toList
  refine ⟨⟨p, hp, hcaret.2.trans ?_⟩, ⟨q, hq, (hedges.2.1 (by decide)).2.trans ?_⟩⟩
  · decide
  · decide

end PacRules.Rule
