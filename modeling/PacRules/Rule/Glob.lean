import PacRules.Text.Basic

/-!
# Globs

In a rule an asterisk stands for any run of characters and a full-width question mark for any
one character; every other character, the ASCII question mark included, stands for itself. A
glob is written character by character as the source of a regular expression that has no
anchors: what has a meaning there is escaped.

What a glob takes is said apart from how it is written, by a relation between globs and texts.
The class of the characters that stand for any one character is left open, so that the same
relation tells what a glob takes in which the asterisk alone has a meaning.
-/

namespace PacRules.Rule.Glob

open PacRules.Text

/-- The full-width question mark, which matches one character. -/
def anyOne : Char := '？'

/-- The characters that are escaped in a regular expression. -/
def isMeta (c : Char) : Bool := "\\+|\x7b\x7d[]()^$.#".toList.contains c

/-- The regular expression for one character of a glob. -/
def token (c : Char) : Text :=
  if c = '*' then ['.', '*']
  else if c = anyOne then ['.']
  else if isMeta c then ['\\', c]
  else [c]

def regexp (glob : Text) : Text := glob.flatMap token

@[simp] theorem regexp_nil : regexp [] = [] := rfl

@[simp] theorem regexp_cons (c : Char) (glob : Text) :
    regexp (c :: glob) = token c ++ regexp glob := rfl

theorem regexp_append (g h : Text) : regexp (g ++ h) = regexp g ++ regexp h := by
  simp [regexp]

/-- `Matches single g s`: the glob `g` takes the whole of the text `s`, where an asterisk stands for
any run of characters, and a character of the class `single` for any one of them. -/
inductive Matches (single : Char → Bool) : Text → Text → Prop where
  | nil : Matches single [] []
  /-- the run of an asterisk ends -/
  | stop {g s : Text} : Matches single g s → Matches single ('*' :: g) s
  /-- the run of an asterisk goes on -/
  | more {g s : Text} (c : Char) : Matches single ('*' :: g) s → Matches single ('*' :: g) (c :: s)
  | any {g s : Text} {q : Char} (c : Char) :
      q ≠ '*' → single q = true → Matches single g s → Matches single (q :: g) (c :: s)
  | same {g s : Text} {c : Char} :
      c ≠ '*' → single c = false → Matches single g s → Matches single (c :: g) (c :: s)

@[simp] theorem matches_nil_iff {single : Char → Bool} {s : Text} :
    Matches single [] s ↔ s = [] := by
  constructor
  · rintro ⟨⟩
    rfl
  · rintro rfl
    exact .nil

/-- What an asterisk takes is any beginning of the text. -/
theorem matches_star_iff {single : Char → Bool} {g s : Text} :
    Matches single ('*' :: g) s ↔ ∃ a b, s = a ++ b ∧ Matches single g b := by
  constructor
  · intro h
    induction s with
    | nil =>
      cases h with
      | stop h => exact ⟨[], [], rfl, h⟩
    | cons c s ih =>
      cases h with
      | stop h => exact ⟨[], c :: s, rfl, h⟩
      | more _ h =>
        obtain ⟨a, b, rfl, hb⟩ := ih h
        exact ⟨c :: a, b, rfl, hb⟩
      | any _ hq => exact absurd rfl hq
      | same hc => exact absurd rfl hc
  · rintro ⟨a, b, rfl, hb⟩
    induction a with
    | nil => exact .stop hb
    | cons c a ih => exact .more c ih

/-- Any other character takes one character: any, or itself. -/
theorem matches_cons_iff {single : Char → Bool} {q : Char} (hq : q ≠ '*') {g s : Text} :
    Matches single (q :: g) s ↔
      ∃ c t, s = c :: t ∧ (single q = true ∨ c = q) ∧ Matches single g t := by
  constructor
  · intro h
    cases h with
    | stop => exact absurd rfl hq
    | more => exact absurd rfl hq
    | any c _ hs h => exact ⟨c, _, rfl, .inl hs, h⟩
    | same _ _ h => exact ⟨q, _, rfl, .inr rfl, h⟩
  · rintro ⟨c, t, rfl, hc, h⟩
    cases hs : single q with
    | true => exact .any c hq hs h
    | false =>
      rcases hc with hc | rfl
      · simp [hs] at hc
      · exact .same hq hs h

theorem matches_append_iff {single : Char → Bool} {g h s : Text} :
    Matches single (g ++ h) s ↔ ∃ a b, s = a ++ b ∧ Matches single g a ∧ Matches single h b := by
  induction g generalizing s with
  | nil =>
    simp only [List.nil_append, matches_nil_iff]
    constructor
    · intro hs
      exact ⟨[], s, rfl, rfl, hs⟩
    · rintro ⟨_, b, rfl, rfl, hb⟩
      exact hb
  | cons q g ih =>
    rw [List.cons_append]
    by_cases hq : q = '*'
    · subst hq
      simp only [matches_star_iff, ih]
      constructor
      · rintro ⟨a, b, rfl, c, d, rfl, hc, hd⟩
        exact ⟨a ++ c, d, by simp, ⟨a, c, rfl, hc⟩, hd⟩
      · rintro ⟨a, b, rfl, ⟨c, d, rfl, hd⟩, hb⟩
        exact ⟨c, d ++ b, by simp, d, b, rfl, hd, hb⟩
    · simp only [matches_cons_iff hq, ih]
      constructor
      · rintro ⟨c, t, rfl, hc, a, b, rfl, ha, hb⟩
        exact ⟨c :: a, b, rfl, ⟨c, a, rfl, hc, ha⟩, hb⟩
      · rintro ⟨a, b, rfl, ⟨c, t, rfl, hc, ht⟩, hb⟩
        exact ⟨c, t ++ b, rfl, hc, t, b, rfl, ht, hb⟩

end PacRules.Rule.Glob
