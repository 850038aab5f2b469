import PacRules.Text.Lines

/-!
# Regular expressions

The part of the syntax of regular expressions that has neither groups nor classes nor anchors:
a row of characters, escaped characters and dots, each of them alone, or followed by an
asterisk or a question mark, which a second question mark may make reluctant. What has no
place in this syntax is not read, and neither is an asterisk or a question mark with nothing
in front of it to repeat.

A row of terms takes a text if the terms take its parts in their order. Reluctance has no say
in whether a text is taken as a whole, so it is read and forgotten.
-/

namespace PacRules.Rule.Regexp

open PacRules.Text

/-- What takes one character. -/
inductive Atom where
  /-- any character that ends no line -/
  | dot
  | char (c : Char)
  deriving DecidableEq

def Atom.takes : Atom → Char → Bool
  | .dot, c => !isLineEnd c
  | .char d, c => c = d

/-- How often an atom is taken. -/
inductive Quantity where
  | once
  | atMostOnce
  | anyTimes
  deriving DecidableEq

/-- An atom with its quantity. -/
structure Term where
  atom : Atom
  quantity : Quantity := .once
  deriving DecidableEq

/-- `Matches terms s`: the terms take the whole of the text `s`. -/
inductive Matches : List Term → Text → Prop where
  | nil : Matches [] []
  | once {a : Atom} {r : List Term} {c : Char} {s : Text} :
      a.takes c = true → Matches r s → Matches (⟨a, .once⟩ :: r) (c :: s)
  | atMostOnce {a : Atom} {r : List Term} {c : Char} {s : Text} :
      a.takes c = true → Matches r s → Matches (⟨a, .atMostOnce⟩ :: r) (c :: s)
  | again {a : Atom} {r : List Term} {c : Char} {s : Text} :
      a.takes c = true → Matches (⟨a, .anyTimes⟩ :: r) s → Matches (⟨a, .anyTimes⟩ :: r) (c :: s)
  | leave {a : Atom} {q : Quantity} {r : List Term} {s : Text} :
      q ≠ .once → Matches r s → Matches (⟨a, q⟩ :: r) s

@[simp] theorem matches_nil_iff {s : Text} : Matches [] s ↔ s = [] := by
  constructor
  · rintro ⟨⟩
    rfl
  · rintro rfl
    exact .nil

theorem matches_once_iff {a : Atom} {r : List Term} {s : Text} :
    Matches (⟨a, .once⟩ :: r) s ↔ ∃ c t, s = c :: t ∧ a.takes c = true ∧ Matches r t := by
  constructor
  · intro h
    cases h with
    | once hc h => exact ⟨_, _, rfl, hc, h⟩
    | leave hq => exact absurd rfl hq
  · rintro ⟨c, t, rfl, hc, h⟩
    exact .once hc h

/-- An atom taken any number of times takes a beginning of the text, character by character. -/
theorem matches_anyTimes_iff {a : Atom} {r : List Term} {s : Text} :
    Matches (⟨a, .anyTimes⟩ :: r) s ↔
      ∃ x y, s = x ++ y ∧ x.all a.takes = true ∧ Matches r y := by
  constructor
  · intro h
    induction s with
    | nil =>
      cases h with
      | leave _ h => exact ⟨[], [], rfl, rfl, h⟩
    | cons c s ih =>
      cases h with
      | again hc h =>
        obtain ⟨x, y, rfl, hx, hy⟩ := ih h
        exact ⟨c :: x, y, rfl, by rw [List.all_cons, hc, hx, Bool.and_self], hy⟩
      | leave _ h => exact ⟨[], c :: s, rfl, rfl, h⟩
  · rintro ⟨x, y, rfl, hx, hy⟩
    induction x with
    | nil => exact .leave (by simp) hy
    | cons c x ih =>
      rw [List.all_cons, Bool.and_eq_true] at hx
      exact .again hx.1 (ih hx.2)

/-- The characters that have a meaning of their own in the full syntax. -/
def isSyntaxChar (c : Char) : Bool := "^$\\.*+?()[]\x7b\x7d|".toList.contains c

/-- The characters that stand for themselves behind a backslash: those of ASCII that are no
letters, no digits and no underscores. -/
def isEscapable (c : Char) : Bool := c < '\x7f' && ' ' < c && !c.isAlphanum && c ≠ '_'

/-- What a reader has read last, which what comes next may still say more about. -/
inductive Last where
  /-- nothing that could be repeated -/
  | nothing
  | atom (a : Atom)
  /-- an atom with a quantity, which may still be made reluctant -/
  | quantified (t : Term)

def Last.terms : Last → List Term
  | .nothing => []
  | .atom a => [{ atom := a }]
  | .quantified t => [t]

def readFrom (last : Last) : Text → Option (List Term)
  | [] => some last.terms
  | '*' :: s =>
    match last with
    | .atom a => readFrom (.quantified { atom := a, quantity := .anyTimes }) s
    | _ => none
  | '?' :: s =>
    match last with
    | .atom a => readFrom (.quantified { atom := a, quantity := .atMostOnce }) s
    | .quantified t => (readFrom .nothing s).map (t :: ·)
    | .nothing => none
  | '\\' :: c :: s =>
    if isEscapable c then (readFrom (.atom (.char c)) s).map (last.terms ++ ·) else none
  | '.' :: s => (readFrom (.atom .dot) s).map (last.terms ++ ·)
  | c :: s =>
    if isSyntaxChar c then none else (readFrom (.atom (.char c)) s).map (last.terms ++ ·)

def read? (source : Text) : Option (List Term) := readFrom .nothing source

@[simp] theorem readFrom_nil (last : Last) : readFrom last [] = some last.terms := rfl

theorem readFrom_dot (last : Last) (s : Text) :
    readFrom last ('.' :: s) = (readFrom (.atom .dot) s).map (last.terms ++ ·) := by
  rw [readFrom]

theorem readFrom_escape {c : Char} (h : isEscapable c = true) (last : Last) (s : Text) :
    readFrom last ('\\' :: c :: s) = (readFrom (.atom (.char c)) s).map (last.terms ++ ·) := by
  rw [readFrom, if_pos h]

/-- A character without a meaning of its own stands for itself. -/
theorem readFrom_cons {c : Char} (h : isSyntaxChar c = false) (last : Last) (s : Text) :
    readFrom last (c :: s) = (readFrom (.atom (.char c)) s).map (last.terms ++ ·) := by
  rw [readFrom]
  · simp [h]
  · rintro rfl
    exact absurd h (by decide)
  · rintro rfl
    exact absurd h (by decide)
  · rintro d t rfl
    exact absurd h (by decide)
  · rintro rfl
    exact absurd h (by decide)

/-- A question mark makes what stands before it optional. -/
theorem readFrom_atom_question (a : Atom) (s : Text) :
    readFrom (.atom a) ('?' :: s) =
      readFrom (.quantified { atom := a, quantity := .atMostOnce }) s := by
  rw [readFrom]

/-- A question mark behind a quantity makes the term reluctant, and nothing may follow that says
how often it is taken. -/
theorem readFrom_quantified_question (t : Term) (s : Text) :
    readFrom (.quantified t) ('?' :: s) = (readFrom .nothing s).map (t :: ·) := by
  rw [readFrom]

theorem readFrom_nothing_question (s : Text) : readFrom .nothing ('?' :: s) = none := by
  rw [readFrom]

@[simp] theorem read?_nil : read? [] = some [] := rfl

end PacRules.Rule.Regexp
