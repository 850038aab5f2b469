import Mathlib.Logic.ExistsUnique
import PacRules.Proofs.Text.Front
import PacRules.Proofs.Text.Lines

/-!
# The division of a text into lines

A division of a text writes it as lines with an end behind each of them, and perhaps a last line
that has none. No line holds a character that ends lines, the last line is not empty, and no
carriage return that ends a line stands in front of a line feed. Every text has exactly one
division, and its lines are those that are read from the text.
-/

namespace PacRules.Text

/-- A text taken apart into lines with their ends and a last line without one. -/
structure IsDivision (t : Text) (written : List (Text × LineEnd)) (last : Option Text) : Prop where
  ended_eq : ended written last = t
  isUnbroken : ∀ line ∈ unended written last, IsUnbroken line
  last_ne : last ≠ some []
  head?_ne : ∀ front line rest, written = front ++ (line, LineEnd.carriageReturn) :: rest →
    (ended rest last).head? ≠ some '\n'

variable {t line rest : Text} {lineEnd : LineEnd} {written : List (Text × LineEnd)}
  {last : Option Text}

/-! ### Characters that end lines -/

theorem LineEnd.exists_text (lineEnd : LineEnd) :
    ∃ c rest, lineEnd.text = c :: rest ∧ isLineEnd c = true := by
  cases lineEnd <;> exact ⟨_, _, rfl, rfl⟩

/-- A character that ends lines is a line end by itself. -/
theorem LineEnd.exists_eq_text {c : Char} (h : isLineEnd c = true) :
    ∃ lineEnd : LineEnd, lineEnd.text = [c] ∧ (lineEnd = .carriageReturn → c = '\r') := by
  simp only [isLineEnd, Bool.or_eq_true, decide_eq_true_eq] at h
  rcases h with (((rfl | rfl) | rfl) | rfl) | rfl
  · exact ⟨.lineFeed, rfl, by simp⟩
  · exact ⟨.carriageReturn, rfl, fun _ => rfl⟩
  · exact ⟨.nextLine, rfl, by simp⟩
  · exact ⟨.lineSeparator, rfl, by simp⟩
  · exact ⟨.paragraphSeparator, rfl, by simp⟩

/-- What stands behind a line tells its end, since no carriage return is followed by a line feed. -/
theorem LineEnd.text_append_inj {lineEnd' : LineEnd} {rest' : Text}
    (hpair : lineEnd = .carriageReturn → rest.head? ≠ some '\n')
    (hpair' : lineEnd' = .carriageReturn → rest'.head? ≠ some '\n')
    (h : lineEnd.text ++ rest = lineEnd'.text ++ rest') : lineEnd = lineEnd' ∧ rest = rest' := by
  -- of two different ends only a pair and a carriage return begin alike
  cases lineEnd <;> cases lineEnd' <;> grind [LineEnd.text]

/-! ### Unbroken texts -/

theorem IsUnbroken.filter_eq_self (h : IsUnbroken t) : t.filter (fun c => !isLineEnd c) = t := by
  refine List.filter_eq_self.2 ?_
  intro c hc
  rw [h c hc]
  rfl

/-- A line reaches up to the first character that ends lines. -/
theorem span_line (hline : IsUnbroken line) (lineEnd : LineEnd) (rest : Text) :
    (line ++ (lineEnd.text ++ rest)).takeWhile (fun c => !isLineEnd c) = line ∧
      (line ++ (lineEnd.text ++ rest)).dropWhile (fun c => !isLineEnd c) =
        lineEnd.text ++ rest := by
  obtain ⟨c, more, htext, hc⟩ := lineEnd.exists_text
  rw [htext, List.cons_append]
  exact span_append_cons (fun d hd => by simp [hline d hd]) (by simp [hc]) _

theorem line_append_inj {line' rest' : Text} {lineEnd' : LineEnd} (hline : IsUnbroken line)
    (hline' : IsUnbroken line')
    (h : line ++ (lineEnd.text ++ rest) = line' ++ (lineEnd'.text ++ rest')) :
    line = line' ∧ lineEnd.text ++ rest = lineEnd'.text ++ rest' := by
  obtain ⟨htake, hdrop⟩ := span_line hline lineEnd rest
  obtain ⟨htake', hdrop'⟩ := span_line hline' lineEnd' rest'
  rw [h] at htake hdrop
  exact ⟨htake.symm.trans htake', hdrop.symm.trans hdrop'⟩

/-! ### Divisions -/

namespace IsDivision

theorem nil_iff : IsDivision t [] last ↔ last.getD [] = t ∧ IsUnbroken t ∧ last ≠ some [] := by
  constructor
  · intro h
    have ht : last.getD [] = t := h.ended_eq
    refine ⟨ht, ?_, h.last_ne⟩
    cases last with
    | none =>
        rw [← ht]
        exact isUnbroken_nil
    | some line =>
        rw [← ht]
        exact h.isUnbroken line (by simp [unended])
  · rintro ⟨rfl, hunbroken, hlast⟩
    refine ⟨rfl, ?_, hlast, by simp⟩
    intro line hline
    obtain rfl : last = some line := by simpa [unended] using hline
    exact hunbroken

/-- One more line in front, its end not being taken for the first half of a pair. -/
theorem cons (hline : IsUnbroken line) (lineEnd : LineEnd)
    (hpair : lineEnd = .carriageReturn → t.head? ≠ some '\n') (h : IsDivision t written last) :
    IsDivision (line ++ (lineEnd.text ++ t)) ((line, lineEnd) :: written) last where
  ended_eq := by rw [ended, h.ended_eq]
  isUnbroken := List.forall_mem_cons.2 ⟨hline, h.isUnbroken⟩
  last_ne := h.last_ne
  head?_ne := by
    intro front line' rest heq
    cases front with
    | nil =>
        obtain ⟨hfirst, rfl⟩ := List.cons.inj heq
        rw [h.ended_eq]
        exact hpair (Prod.mk.inj hfirst).2
    | cons entry front => exact h.head?_ne front line' rest (List.cons.inj heq).2

theorem of_cons (h : IsDivision t ((line, lineEnd) :: written) last) :
    ∃ rest, t = line ++ (lineEnd.text ++ rest) ∧ IsUnbroken line ∧
      (lineEnd = .carriageReturn → rest.head? ≠ some '\n') ∧ IsDivision rest written last := by
  refine ⟨ended written last, h.ended_eq.symm, h.isUnbroken line List.mem_cons_self, ?_, ?_⟩
  · rintro rfl
    exact h.head?_ne [] line written rfl
  · refine ⟨rfl, fun line' hline' => h.isUnbroken line' (List.mem_cons_of_mem line hline'),
      h.last_ne, ?_⟩
    rintro front line' rest rfl
    exact h.head?_ne ((line, lineEnd) :: front) line' rest rfl

/-- The lines of a division are those that are read from the text. -/
theorem lines_eq (h : IsDivision t written last) : lines t = unended written last := by
  induction written generalizing t with
  | nil =>
      obtain ⟨rfl, hunbroken, hlast⟩ := nil_iff.1 h
      rw [lines_of_isUnbroken hunbroken]
      cases last with
      | none => rfl
      | some line =>
          rcases List.eq_nil_or_concat line with rfl | ⟨front, c, rfl⟩
          · exact absurd rfl hlast
          · simp [flush, unended]
  | cons entry written ih =>
      obtain ⟨line, lineEnd⟩ := entry
      obtain ⟨rest, rfl, hline, hpair, hrest⟩ := h.of_cons
      rw [lines_append_lineEnd hline lineEnd hpair, ih hrest]
      rfl

/-- Behind what the current line holds so far, whatever follows can be divided. -/
theorem exists_append (backwards : Text) (hbackwards : IsUnbroken backwards.reverse) (t : Text) :
    ∃ written last, IsDivision (backwards.reverse ++ t) written last := by
  -- along the reading of the lines, which tells where the next of them ends
  fun_induction linesFrom backwards t with
  | case1 backwards =>
      cases backwards with
      | nil => exact ⟨[], none, nil_iff.2 ⟨rfl, hbackwards, by simp⟩⟩
      | cons c backwards =>
          refine ⟨[], some (c :: backwards).reverse, nil_iff.2 ⟨?_, ?_, by simp⟩⟩
          · rw [Option.getD_some, List.append_nil]
          · rwa [List.append_nil]
  | case2 backwards t ih =>
      obtain ⟨written, last, h⟩ := ih isUnbroken_nil
      exact ⟨_, last, h.cons hbackwards .pair (by simp)⟩
  | case3 backwards c t hnopair hend ih =>
      obtain ⟨written, last, h⟩ := ih isUnbroken_nil
      obtain ⟨lineEnd, htext, hreturn⟩ := LineEnd.exists_eq_text hend
      have hcons := h.cons hbackwards lineEnd ?_
      · rw [htext] at hcons
        exact ⟨_, last, hcons⟩
      · intro hlineEnd hfeed
        obtain ⟨rest, hrest⟩ := List.head?_eq_some_iff.1 hfeed
        exact hnopair rest (hreturn hlineEnd) hrest
  | case4 backwards c t _ hend ih =>
      have hunbroken : IsUnbroken (c :: backwards).reverse := by
        intro d hd
        rw [List.reverse_cons, List.mem_append, List.mem_singleton] at hd
        rcases hd with hd | rfl
        · exact hbackwards d hd
        · exact Bool.eq_false_iff.2 hend
      simpa using ih hunbroken

/-- What ends lines stands in a text that is divided into more than a last line. -/
theorem not_isUnbroken (h : IsDivision t ((line, lineEnd) :: written) last) : ¬IsUnbroken t := by
  obtain ⟨rest, rfl, -, -, -⟩ := h.of_cons
  obtain ⟨c, more, htext, hc⟩ := lineEnd.exists_text
  intro hunbroken
  have hnot := hunbroken c (by simp [htext])
  rw [hc] at hnot
  exact Bool.noConfusion hnot

/-- A text has no second division. -/
theorem unique {written' : List (Text × LineEnd)} {last' : Option Text}
    (h : IsDivision t written last) (h' : IsDivision t written' last') :
    written = written' ∧ last = last' := by
  induction written generalizing t written' with
  | nil =>
      cases written' with
      | nil =>
          obtain ⟨hget, -, hlast⟩ := nil_iff.1 h
          obtain ⟨hget', -, hlast'⟩ := nil_iff.1 h'
          refine ⟨rfl, ?_⟩
          cases last <;> cases last' <;> simp_all
      | cons entry' written' => exact absurd (nil_iff.1 h).2.1 h'.not_isUnbroken
  | cons entry written ih =>
      cases written' with
      | nil => exact absurd (nil_iff.1 h').2.1 h.not_isUnbroken
      | cons entry' written' =>
          obtain ⟨line, lineEnd⟩ := entry
          obtain ⟨line', lineEnd'⟩ := entry'
          obtain ⟨rest, rfl, hline, hpair, hrest⟩ := h.of_cons
          obtain ⟨rest', heq, hline', hpair', hrest'⟩ := h'.of_cons
          obtain ⟨rfl, hends⟩ := line_append_inj hline hline' heq
          obtain ⟨rfl, rfl⟩ := LineEnd.text_append_inj hpair hpair' hends
          obtain ⟨rfl, rfl⟩ := ih hrest hrest'
          exact ⟨rfl, rfl⟩

/-- The lines hold every character of the text but those that end lines. -/
theorem flatten_unended (h : IsDivision t written last) :
    (unended written last).flatten = t.filter fun c => !isLineEnd c := by
  induction written generalizing t with
  | nil =>
      obtain ⟨rfl, hunbroken, -⟩ := nil_iff.1 h
      rw [hunbroken.filter_eq_self]
      cases last <;> simp [unended]
  | cons entry written ih =>
      obtain ⟨line, lineEnd⟩ := entry
      obtain ⟨rest, rfl, hline, -, hrest⟩ := h.of_cons
      have hends : lineEnd.text.filter (fun c => !isLineEnd c) = [] := by cases lineEnd <;> rfl
      rw [List.filter_append, List.filter_append, hline.filter_eq_self, hends, ← ih hrest]
      rfl

end IsDivision

/-- Every text is divided into lines and their ends in exactly one way. What is read from it is the
list of these lines, the empty ones among them, so that of its characters only those that end
lines are missing. -/
theorem existsUnique_isDivision (t : Text) :
    (∃! division : List (Text × LineEnd) × Option Text, IsDivision t division.1 division.2) ∧
    (∀ ls, lines t = ls ↔ ∃ written last, IsDivision t written last ∧ unended written last = ls) ∧
    (lines t).flatten = t.filter fun c => !isLineEnd c := by
  obtain ⟨written, last, h⟩ : ∃ written last, IsDivision t written last :=
    IsDivision.exists_append [] isUnbroken_nil t
  refine ⟨⟨(written, last), h, ?_⟩, ?_, ?_⟩
  · rintro ⟨written', last'⟩ h'
    obtain ⟨rfl, rfl⟩ := h.unique h'
    rfl
  · intro ls
    constructor
    · rintro rfl
      exact ⟨written, last, h, h.lines_eq.symm⟩
    · rintro ⟨written', last', h', rfl⟩
      exact h'.lines_eq
  · rw [h.lines_eq, h.flatten_unended]

/-- A carriage return in front of a pair ends a line of its own. -/
example : lines "a\r\r\n\u2028b\r".toList = ["a".toList, [], [], "b".toList] := by decide

end PacRules.Text
