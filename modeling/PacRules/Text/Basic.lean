/-!
# Texts

A text is a list of characters, so that every rule about text is a recursion on a
list. This file holds the operations that the other modules share besides those of lists:
trimming an end by a class of characters, cutting at the first occurrence of a pattern, and
replacing every match of a pattern from left to right.

The matcher behind a substitution says how many characters a match at the front of a text takes
behind the first one, so a match is never empty. The recursion is then on the text alone,
with a count of the characters of the last match that are still to be passed over.
-/

namespace PacRules

abbrev Text := List Char

namespace Text

/-- The text without its leading characters of the class `p`. -/
def trimStart (p : Char → Bool) (t : Text) : Text := t.dropWhile p

/-- The text without its trailing characters of the class `p`. -/
def trimEnd (p : Char → Bool) (t : Text) : Text := (t.reverse.dropWhile p).reverse

/-- The text without the characters of the class `p` at either end. -/
def trim (p : Char → Bool) (t : Text) : Text := trimEnd p (trimStart p t)

@[simp] theorem trimStart_nil (p : Char → Bool) : trimStart p [] = [] := rfl

@[simp] theorem trimEnd_nil (p : Char → Bool) : trimEnd p [] = [] := rfl

theorem trimEnd_eq_reverse (p : Char → Bool) (t : Text) :
    trimEnd p t = (trimStart p t.reverse).reverse := rfl

/-- What stands before and after the first occurrence of `pattern`. -/
def cut? (pattern : Text) : Text → Option (Text × Text)
  | [] => (pattern.isPrefixOf? []).map fun rest => ([], rest)
  | c :: t =>
    match pattern.isPrefixOf? (c :: t) with
    | some rest => some ([], rest)
    | none => (cut? pattern t).map fun (before, after) => (c :: before, after)

def contains (pattern t : Text) : Bool := (cut? pattern t).isSome

/-- What a match at the front of a text says: how many characters it takes behind the first, and
what stands in its place. -/
abbrev Matcher := Text → Option (Nat × Text)

/-- The substitution in a text after `skip` more characters have been passed over. -/
def substituteFrom (m : Matcher) : (skip : Nat) → Text → Text
  | _, [] => []
  | skip + 1, _ :: t => substituteFrom m skip t
  | 0, c :: t =>
    match m (c :: t) with
    | some (more, new) => new ++ substituteFrom m more t
    | none => c :: substituteFrom m 0 t

/-- Every match, taken from left to right and without overlap, is replaced. What has been put in
is not looked at again. -/
def substitute (m : Matcher) (t : Text) : Text := substituteFrom m 0 t

@[simp] theorem substitute_nil (m : Matcher) : substitute m [] = [] := rfl

theorem substituteFrom_eq_drop (m : Matcher) (skip : Nat) (t : Text) :
    substituteFrom m skip t = substitute m (t.drop skip) := by
  induction t generalizing skip with
  | nil => cases skip <;> rfl
  | cons c t ih =>
    cases skip with
    | zero => rfl
    | succ skip => rw [substituteFrom, ih, List.drop_succ_cons]

/-- Where nothing matches, the first character is kept. -/
theorem substitute_cons_of_eq_none {m : Matcher} {c : Char} {t : Text} (h : m (c :: t) = none) :
    substitute m (c :: t) = c :: substitute m t := by
  simp [substitute, substituteFrom, h]

theorem substitute_cons_of_eq_some {m : Matcher} {c : Char} {t new : Text} {more : Nat}
    (h : m (c :: t) = some (more, new)) :
    substitute m (c :: t) = new ++ substitute m (t.drop more) := by
  rw [substitute, substituteFrom, h]
  simp only
  rw [substituteFrom_eq_drop]

/-- A fixed pattern, which is not empty, with a fixed replacement. -/
def literal (pattern new : Text) : Matcher := fun t =>
  if pattern.isPrefixOf t then some (pattern.length - 1, new) else none

def replace (pattern new t : Text) : Text := substitute (literal pattern new) t

/-- The longest beginning of characters of the class `p`, if it is not empty, and what
follows it. -/
def run? (p : Char → Bool) (t : Text) : Option (Text × Text) :=
  match t.takeWhile p with
  | [] => none
  | run => some (run, t.dropWhile p)

/-- The text in progress, read backwards, as a list of no or one field. -/
def flush : Text → List Text
  | [] => []
  | c :: backwards => [(c :: backwards).reverse]

/-- The fields of `t`, where `backwards` is what the current field holds so far. -/
def fieldsFrom (p : Char → Bool) (backwards : Text) : Text → List Text
  | [] => flush backwards
  | c :: t => if p c then flush backwards ++ fieldsFrom p [] t else fieldsFrom p (c :: backwards) t

/-- The longest runs of characters outside the class `p`, none of them empty. -/
def fields (p : Char → Bool) (t : Text) : List Text := fieldsFrom p [] t

end Text

end PacRules
