import Mathlib.Data.List.Basic
import PacRules.Proofs.Suffix.LongestMatch
import PacRules.Proofs.Text.LowerCase
import PacRules.Proofs.Text.Words

/-!
# Listings of suffix rules

A text lists one rule a line. Only the first word of a line is read, in lower case, and a line
that is blank or begins with two slashes lists nothing. The rules are looked up by name, so of
a listing nothing counts but which names it lists: two texts with the same lines up to order,
repetition, comments, indentation and ASCII case give one answer for every host.
-/

namespace PacRules.Suffix

open PacRules.Text

/-! ### The first word of a line -/

/-- `word` is what stands behind the leading blanks of a line and in front of the next one. -/
def IsFirstWord (word line : Text) : Prop :=
  ∃ indent rest, line = indent ++ word ++ rest ∧ (∀ c ∈ indent, isBlank c = true) ∧
    word ≠ [] ∧ (∀ c ∈ word, isBlank c = false) ∧ ∀ c, rest.head? = some c → isBlank c = true

theorem IsFirstWord.firstWord?_eq {word line : Text} (h : IsFirstWord word line) :
    firstWord? line = some word := by
  obtain ⟨indent, rest, rfl, hindent, hne, hword, hrest⟩ := h
  obtain ⟨c, word, rfl⟩ := List.exists_cons_of_ne_nil hne
  have hstart : trimStart isBlank (indent ++ (c :: word) ++ rest) = c :: word ++ rest := by
    rw [List.append_assoc, trimStart_append_of_all hindent]
    exact trimStart_of_not (hword c List.mem_cons_self) (word ++ rest)
  have hstop : rest.takeWhile (fun c => !isBlank c) = [] := by
    cases rest with
    | nil => rfl
    | cons d rest => simp [hrest d rfl]
  have hrun : (c :: word ++ rest).takeWhile (fun c => !isBlank c) = c :: word := by
    rw [List.takeWhile_append_of_pos fun d hd => by simp [hword d hd], hstop, List.append_nil]
  rw [firstWord?, head?_fields, hstart, run?, hrun]
  rfl

theorem exists_isFirstWord {line : Text} {c : Char} (hc : c ∈ line) (hblank : isBlank c = false) :
    ∃ word, IsFirstWord word line := by
  obtain ⟨d, rest, hstart, hd⟩ := exists_trimStart_cons hc hblank
  refine ⟨(d :: rest).takeWhile (fun c => !isBlank c), line.takeWhile isBlank,
    (d :: rest).dropWhile (fun c => !isBlank c), ?_, ?_, ?_, ?_, ?_⟩
  · rw [List.append_assoc, List.takeWhile_append_dropWhile, ← hstart, trimStart,
      List.takeWhile_append_dropWhile]
  · intro e he
    exact List.mem_takeWhile_imp he
  · simp [hd]
  · intro e he
    simpa using List.mem_takeWhile_imp he
  · intro e he
    have hhead := List.head?_dropWhile_not (fun c => !isBlank c) (d :: rest)
    simpa [he] using hhead

theorem firstWord?_eq_some_iff {word line : Text} :
    firstWord? line = some word ↔ IsFirstWord word line := by
  constructor
  · intro h
    by_cases hall : ∀ c ∈ line, isBlank c = true
    · have hstart : trimStart isBlank line = [] := List.dropWhile_eq_nil_iff.2 hall
      rw [firstWord?, head?_fields, hstart] at h
      cases h
    · push Not at hall
      obtain ⟨c, hc, hblank⟩ := hall
      obtain ⟨found, hfound⟩ := exists_isFirstWord hc (by simpa using hblank)
      rw [hfound.firstWord?_eq] at h
      cases h
      exact hfound
  · exact IsFirstWord.firstWord?_eq

theorem isBlank_toLower (c : Char) : isBlank c.toLower = isBlank c :=
  forall_toLower (P := fun d c => isBlank d = isBlank c) (fun _ => rfl) (by decide) c

theorem firstWord?_map_toLower (line : Text) :
    firstWord? (line.map Char.toLower) = (firstWord? line).map (List.map Char.toLower) := by
  have hblank : isBlank ∘ Char.toLower = isBlank := funext isBlank_toLower
  have hkept : (fun c => !isBlank c) ∘ Char.toLower = fun c => !isBlank c := by
    funext c
    simp [isBlank_toLower]
  rw [firstWord?, firstWord?, head?_fields, head?_fields, trimStart, trimStart,
    List.dropWhile_map, hblank, run?, run?, List.takeWhile_map, List.dropWhile_map, hkept]
  cases (List.dropWhile isBlank line).takeWhile fun c => !isBlank c with
  | nil => rfl
  | cons c word => rfl

theorem firstWord?_indented {indent : Text} (h : ∀ c ∈ indent, isBlank c = true) (line : Text) :
    firstWord? (indent ++ line) = firstWord? line := by
  rw [firstWord?, firstWord?, head?_fields, head?_fields, trimStart_append_of_all h]

theorem IsFirstWord.append_cons {word line : Text} {c : Char} (h : IsFirstWord word line)
    (hc : isBlank c = true) (remark : Text) : IsFirstWord word (line ++ c :: remark) := by
  obtain ⟨indent, rest, rfl, hindent, hne, hword, hrest⟩ := h
  refine ⟨indent, rest ++ c :: remark, by simp, hindent, hne, hword, ?_⟩
  intro d hd
  cases rest with
  | nil =>
      obtain rfl : c = d := by simpa using hd
      exact hc
  | cons e rest => exact hrest d (by simpa using hd)

/-! ### The rule on a line -/

namespace SuffixRules

theorem isPrefixOf_slashes_append {word rest : Text} (hne : word ≠ [])
    (hrest : ∀ c, rest.head? = some c → isBlank c = true) :
    List.isPrefixOf ['/', '/'] (word ++ rest) = List.isPrefixOf ['/', '/'] word := by
  cases word with
  | nil => exact absurd rfl hne
  | cons a word =>
      by_cases ha : a = '/'
      · cases word with
        | nil =>
            cases rest with
            | nil => rfl
            | cons c rest =>
                have hblank := hrest c rfl
                have hc : c ≠ '/' := by
                  rintro rfl
                  exact absurd hblank (by decide)
                simp [List.isPrefixOf, ha, hc.symm]
        | cons b word =>
            by_cases hb : b = '/'
            · simp [ha, hb]
            · simp [List.isPrefixOf, ha]
      · have hslash : ('/' == a) = false := beq_false_of_ne (Ne.symm ha)
        rw [List.cons_append, List.isPrefixOf, List.isPrefixOf, hslash, Bool.false_and,
          Bool.false_and]

theorem trimBlanks_eq {word indent rest : Text} (hindent : ∀ c ∈ indent, isBlank c = true)
    (hne : word ≠ []) (hword : ∀ c ∈ word, isBlank c = false) :
    trimBlanks (indent ++ word ++ rest) = word ++ trimEnd isBlank rest := by
  have hstart : trimStart isBlank (indent ++ word ++ rest) = word ++ rest := by
    rw [List.append_assoc, trimStart_append_of_all hindent]
    refine trimStart_eq_self ?_
    intro c hc
    rw [List.head?_append_of_ne_nil word hne] at hc
    exact hword c (List.mem_of_head? hc)
  obtain ⟨front, c, rfl⟩ := (List.eq_nil_or_concat word).resolve_left hne
  rw [trimBlanks, trim, hstart, List.concat_eq_append, List.append_assoc, List.append_assoc]
  exact trimEnd_append_cons (hword c (by simp)) front rest

theorem ruleOfLine?_of_blank {line : Text} (h : ∀ c ∈ line, isBlank c = true) :
    ruleOfLine? line = none := by
  have hstart : trimStart isBlank line = [] := List.dropWhile_eq_nil_iff.2 h
  rw [ruleOfLine?, trimBlanks, trim, hstart]
  rfl

/-- A line lists its first word, unless that begins with two slashes. -/
theorem ruleOfLine?_eq (line : Text) :
    ruleOfLine? line = (firstWord? line).bind fun word =>
      if List.isPrefixOf ['/', '/'] word then none else some (lower word) := by
  -- trimming keeps the first word and what decides where it ends
  cases hfirst : firstWord? line with
  | none =>
      have hall : ∀ c ∈ line, isBlank c = true := by
        intro c hc
        by_contra hblank
        obtain ⟨word, hword⟩ := exists_isFirstWord hc (by simpa using hblank)
        rw [hword.firstWord?_eq] at hfirst
        cases hfirst
      rw [ruleOfLine?_of_blank hall]
      rfl
  | some word =>
      obtain ⟨indent, rest, rfl, hindent, hne, hword, hrest⟩ := firstWord?_eq_some_iff.1 hfirst
      have hend : ∀ c, (trimEnd isBlank rest).head? = some c → isBlank c = true :=
        fun c hc => hrest c (head?_of_head?_trimEnd hc)
      have htrimmed : IsFirstWord word (word ++ trimEnd isBlank rest) :=
        ⟨[], trimEnd isBlank rest, rfl, by simp, hne, hword, hend⟩
      rw [ruleOfLine?, trimBlanks_eq hindent hne hword]
      simp only [isPrefixOf_slashes_append hne hend, htrimmed.firstWord?_eq]
      rfl

/-! ### Lines that list one rule -/

theorem slash_beq_toLower (c : Char) : ('/' == c.toLower) = ('/' == c) :=
  forall_toLower (P := fun d c => ('/' == d) = ('/' == c)) (fun _ => rfl) (by decide) c

theorem isPrefixOf_slashes_map_toLower (t : Text) :
    List.isPrefixOf ['/', '/'] (t.map Char.toLower) = List.isPrefixOf ['/', '/'] t := by
  match t with
  | [] => rfl
  | [a] => simp only [List.map_cons, List.map_nil, List.isPrefixOf, slash_beq_toLower]
  | a :: b :: t => simp only [List.map_cons, List.isPrefixOf, slash_beq_toLower]

/-- The rule is read in lower case. -/
theorem ruleOfLine?_map_toLower (line : Text) :
    ruleOfLine? (line.map Char.toLower) = ruleOfLine? line := by
  rw [ruleOfLine?_eq, ruleOfLine?_eq, firstWord?_map_toLower]
  cases firstWord? line with
  | none => rfl
  | some word =>
      simp only [Option.map_some, Option.bind_some, isPrefixOf_slashes_map_toLower,
        lower_map_toLower]

/-- Lines that differ in ASCII case, in indentation or in what follows the rule. -/
inductive Respelled : Text → Text → Prop where
  | case {line line' : Text} : line.map Char.toLower = line'.map Char.toLower →
      Respelled line line'
  | indented {indent line : Text} : (∀ c ∈ indent, isBlank c = true) →
      Respelled (indent ++ line) line
  | remarked {line remark : Text} {c : Char} : (∃ d ∈ line, isBlank d = false) →
      isBlank c = true → Respelled (line ++ c :: remark) line

/-- A line that lists nothing: it is blank, or begins, indentation aside, with two slashes. -/
inductive IsComment : Text → Prop where
  | blank {line : Text} : (∀ c ∈ line, isBlank c = true) → IsComment line
  | slashes {indent rest : Text} : (∀ c ∈ indent, isBlank c = true) →
      IsComment (indent ++ '/' :: '/' :: rest)

theorem Respelled.ruleOfLine?_eq {line line' : Text} (h : Respelled line line') :
    ruleOfLine? line = ruleOfLine? line' := by
  cases h with
  | case h => rw [← ruleOfLine?_map_toLower line, h, ruleOfLine?_map_toLower]
  | indented h =>
      rw [SuffixRules.ruleOfLine?_eq, SuffixRules.ruleOfLine?_eq, firstWord?_indented h]
  | remarked hne hc =>
      obtain ⟨d, hd, hblank⟩ := hne
      obtain ⟨word, hword⟩ := exists_isFirstWord hd hblank
      rw [SuffixRules.ruleOfLine?_eq, SuffixRules.ruleOfLine?_eq, hword.firstWord?_eq,
        (hword.append_cons hc _).firstWord?_eq]

theorem IsComment.ruleOfLine?_eq_none {line : Text} (h : IsComment line) :
    ruleOfLine? line = none := by
  cases h with
  | blank h => exact ruleOfLine?_of_blank h
  | @slashes indent rest h =>
      have hvisible : ∀ c ∈ ['/', '/'], isBlank c = false := by
        intro c hc
        obtain rfl : c = '/' := by simpa using hc
        decide
      have hslashes : trimBlanks (indent ++ ['/', '/'] ++ rest) =
          ['/', '/'] ++ trimEnd isBlank rest := trimBlanks_eq h (by simp) hvisible
      rw [List.append_assoc] at hslashes
      have hstart : List.isPrefixOf ['/', '/'] (['/', '/'] ++ trimEnd isBlank rest) = true := by
        simp
      rw [ruleOfLine?]
      simp only [show indent ++ '/' :: '/' :: rest = indent ++ (['/', '/'] ++ rest) from rfl,
        hslashes, hstart, if_true]

end SuffixRules

end PacRules.Suffix
