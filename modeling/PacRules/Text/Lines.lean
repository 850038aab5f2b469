import PacRules.Text.Basic

/-!
# Lines

A text as a list of lines. A line ends at a carriage return followed by a line feed, which
count as one, or at a single line feed, carriage return, next-line control, line separator or
paragraph separator. Empty lines are kept; the end of the text adds a line only if something
stands behind the last line end.
-/

namespace PacRules.Text

def isLineEnd (c : Char) : Bool :=
  c = '\n' || c = '\r' || c = '\u0085' || c = '\u2028' || c = '\u2029'

/-- The lines of a text, `backwards` being what the current line holds so far. -/
def linesFrom (backwards : Text) : Text → List Text
  | [] => flush backwards
  | '\r' :: '\n' :: t => backwards.reverse :: linesFrom [] t
  | c :: t =>
    if isLineEnd c then backwards.reverse :: linesFrom [] t else linesFrom (c :: backwards) t

/-- A carriage return and a line feed behind it end one line. -/
theorem linesFrom_return_feed (backwards t : Text) :
    linesFrom backwards ('\r' :: '\n' :: t) = backwards.reverse :: linesFrom [] t := by
  rw [linesFrom]

/-- A character that ends no line joins the current one. -/
theorem linesFrom_cons_of_not_end (backwards : Text) {c : Char} (h : isLineEnd c = false)
    (t : Text) : linesFrom backwards (c :: t) = linesFrom (c :: backwards) t := by
  rw [linesFrom]
  · simp [h]
  · rintro s rfl rfl
    simp [isLineEnd] at h

theorem linesFrom_cons_of_end (backwards : Text) {c : Char} (h : isLineEnd c = true) {t : Text}
    (hpair : c = '\r' → t.head? ≠ some '\n') :
    linesFrom backwards (c :: t) = backwards.reverse :: linesFrom [] t := by
  rw [linesFrom]
  · simp [h]
  · rintro s rfl rfl
    simp at hpair

def lines (t : Text) : List Text := linesFrom [] t

@[simp] theorem lines_nil : lines [] = [] := rfl

end PacRules.Text
