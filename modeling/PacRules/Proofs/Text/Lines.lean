import PacRules.Text.Lines

/-!
# Lines and their ends

A text can be written line by line with an end behind each line, and the lines are read back from
it, whichever ends were chosen and however they are mixed. One case is out of the ordinary: a
carriage return behind a line and a line feed behind the next, if that one is empty, are read as
one end, so the empty line is lost. No other line is.
-/

namespace PacRules.Text

/-- What ends a line. -/
inductive LineEnd where
  /-- a carriage return and a line feed -/
  | pair
  | lineFeed
  | carriageReturn
  | nextLine
  | lineSeparator
  | paragraphSeparator
  deriving DecidableEq

def LineEnd.text : LineEnd → Text
  | .pair => ['\r', '\n']
  | .lineFeed => ['\n']
  | .carriageReturn => ['\r']
  | .nextLine => ['\u0085']
  | .lineSeparator => ['\u2028']
  | .paragraphSeparator => ['\u2029']

/-- Whether a text holds no line end, so that it may be a line. -/
def IsUnbroken (t : Text) : Prop := ∀ c ∈ t, isLineEnd c = false

instance (t : Text) : Decidable (IsUnbroken t) :=
  List.decidableBAll (fun c => isLineEnd c = false) t

theorem isUnbroken_nil : IsUnbroken [] := fun _ hc => absurd hc List.not_mem_nil

/-- The text of lines with an end behind each of them, and behind all a last line that has none. -/
def ended : List (Text × LineEnd) → Option Text → Text
  | [], last => last.getD []
  | (line, lineEnd) :: rest, last => line ++ (lineEnd.text ++ ended rest last)

/-- The lines of which `ended` is made. -/
def unended (lines : List (Text × LineEnd)) (last : Option Text) : List Text :=
  lines.map Prod.fst ++ last.toList

variable {line t : Text}

/-- What holds no line end joins the current line. -/
theorem linesFrom_append (hline : IsUnbroken line) (backwards t : Text) :
    linesFrom backwards (line ++ t) = linesFrom (line.reverse ++ backwards) t := by
  induction line generalizing backwards with
  | nil => rfl
  | cons c line ih =>
      have hc := hline c List.mem_cons_self
      rw [List.cons_append, linesFrom_cons_of_not_end backwards hc,
        ih fun d hd => hline d (List.mem_cons_of_mem c hd)]
      simp

theorem lines_of_isUnbroken (hline : IsUnbroken line) : lines line = flush line.reverse := by
  have happ := linesFrom_append hline [] []
  rwa [List.append_nil, List.append_nil] at happ

/-- What the current line holds so far begins the next line that is read. -/
theorem exists_linesFrom {backwards : Text} (h : backwards ≠ []) (t : Text) :
    ∃ rest more, linesFrom backwards t = (backwards.reverse ++ rest) :: more := by
  fun_induction linesFrom backwards t with
  | case1 backwards =>
      cases backwards with
      | nil => exact absurd rfl h
      | cons c backwards => exact ⟨[], [], by simp [flush]⟩
  | case2 backwards t => exact ⟨[], linesFrom [] t, by simp⟩
  | case3 backwards c t _ _ _ => exact ⟨[], linesFrom [] t, by simp⟩
  | case4 backwards c t _ _ ih =>
      obtain ⟨rest, more, heq⟩ := ih (by simp)
      exact ⟨c :: rest, more, by simp [heq]⟩

theorem filter_flush_reverse {p : Text → Bool} (hp : p [] = false) (line : Text) :
    (flush line.reverse).filter p = [line].filter p := by
  rcases List.eq_nil_or_concat line with rfl | ⟨front, c, rfl⟩
  · simp [flush, hp]
  · simp [flush]

/-- An end behind a line is read as such, unless it is taken for the first half of a pair. -/
theorem lines_append_lineEnd (hline : IsUnbroken line) (lineEnd : LineEnd)
    (hpair : lineEnd = .carriageReturn → t.head? ≠ some '\n') :
    lines (line ++ (lineEnd.text ++ t)) = line :: lines t := by
  have hsingle : ∀ c, isLineEnd c = true → (c = '\r' → t.head? ≠ some '\n') →
      lines (line ++ c :: t) = line :: lines t := by
    intro c hc hreturn
    rw [lines, linesFrom_append hline, linesFrom_cons_of_end _ hc hreturn]
    simp [lines]
  cases lineEnd with
  | pair =>
      change linesFrom [] (line ++ '\r' :: '\n' :: t) = _
      rw [linesFrom_append hline, linesFrom_return_feed]
      simp [lines]
  | lineFeed => exact hsingle '\n' rfl (absurd · (by decide))
  | carriageReturn => exact hsingle '\r' rfl fun _ => hpair rfl
  | nextLine => exact hsingle '\u0085' rfl (absurd · (by decide))
  | lineSeparator => exact hsingle '\u2028' rfl (absurd · (by decide))
  | paragraphSeparator => exact hsingle '\u2029' rfl (absurd · (by decide))

/-- A class of lines to which the empty one does not belong: of these a line and its end add the
line alone, whatever follows. -/
theorem filter_lines_append {p : Text → Bool} (hp : p [] = false) (hline : IsUnbroken line)
    (lineEnd : LineEnd) (t : Text) :
    (lines (line ++ (lineEnd.text ++ t))).filter p = (line :: lines t).filter p := by
  by_cases hsplit : lineEnd = .carriageReturn ∧ t.head? = some '\n'
  · obtain ⟨rfl, hfeed⟩ := hsplit
    obtain ⟨rest, rfl⟩ := List.head?_eq_some_iff.1 hfeed
    -- the line feed ends an empty line, or this line together with the carriage return
    have hempty : lines ('\n' :: rest) = [] :: lines rest :=
      lines_append_lineEnd isUnbroken_nil .lineFeed (by simp)
    have hboth : lines (line ++ '\r' :: '\n' :: rest) = line :: lines rest :=
      lines_append_lineEnd hline .pair (by simp)
    have hskip : ([] :: lines rest).filter p = (lines rest).filter p :=
      List.filter_cons_of_neg (by simp [hp])
    calc (lines (line ++ '\r' :: '\n' :: rest)).filter p
        = (line :: lines rest).filter p := by rw [hboth]
      _ = (line :: [] :: lines rest).filter p := by rw [List.filter_cons, List.filter_cons, hskip]
      _ = (line :: lines ('\n' :: rest)).filter p := by rw [hempty]
  · rw [lines_append_lineEnd hline lineEnd fun hreturn hfeed => hsplit ⟨hreturn, hfeed⟩]

/-- The lines that are read back are those that were written, empty ones aside. -/
theorem filter_lines_ended {p : Text → Bool} (hp : p [] = false) {written : List (Text × LineEnd)}
    {last : Option Text} (h : ∀ line ∈ unended written last, IsUnbroken line) :
    (lines (ended written last)).filter p = (unended written last).filter p := by
  induction written with
  | nil =>
      cases last with
      | none => rfl
      | some line =>
          have hline : IsUnbroken line := h line (by simp [unended])
          rw [ended, Option.getD_some, lines_of_isUnbroken hline]
          exact filter_flush_reverse hp line
  | cons entry written ih =>
      obtain ⟨line, lineEnd⟩ := entry
      have hline : IsUnbroken line := h line (by simp [unended])
      have hrest := ih fun line' hline' => h line' (List.mem_cons_of_mem line hline')
      change _ = (line :: unended written last).filter p
      rw [ended, filter_lines_append hp hline, List.filter_cons, List.filter_cons, hrest]

end PacRules.Text
