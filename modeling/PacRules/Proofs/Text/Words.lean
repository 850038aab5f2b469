import Mathlib.Data.List.TakeWhile
import PacRules.Proofs.Text.Front
import PacRules.Text.Blank

/-!
# Fields and words

The fields of a text at a separator are the pieces that are not empty. The first word of a
line is what stands behind its leading blanks and in front of the next one, so neither the
blanks around it nor what follows a blank behind it plays a part.
-/

namespace PacRules.Text

theorem flush_eq (backwards : Text) :
    flush backwards = [backwards.reverse].filter fun piece => !piece.isEmpty := by
  cases backwards with
  | nil => rfl
  | cons c backwards => simp [flush]

theorem fieldsFrom_eq (separator : Char) (backwards t : Text) {first : Text} {rest : List Text}
    (h : List.splitOn separator t = first :: rest) :
    fieldsFrom (· = separator) backwards t =
      ((backwards.reverse ++ first) :: rest).filter fun piece => !piece.isEmpty := by
  -- what `backwards` holds stands in front of the first piece
  induction t generalizing backwards first rest with
  | nil =>
      obtain ⟨rfl, rfl⟩ := List.cons.inj h
      simp [fieldsFrom, flush_eq]
  | cons c t ih =>
      obtain ⟨next, others, hsplit⟩ := List.exists_cons_of_ne_nil (List.splitOn_ne_nil separator t)
      rw [List.splitOn_cons_eq_if_modifyHead] at h
      by_cases hc : c = separator
      · rw [if_pos (beq_iff_eq.2 hc), hsplit] at h
        obtain ⟨rfl, rfl⟩ := List.cons.inj h
        simp only [fieldsFrom, hc, decide_true, if_true]
        rw [ih [] hsplit, flush_eq, ← List.filter_append]
        simp
      · rw [if_neg (mt beq_iff_eq.1 hc), hsplit] at h
        obtain ⟨rfl, rfl⟩ := List.cons.inj h
        simp only [fieldsFrom, hc, decide_false]
        simpa using ih (c :: backwards) hsplit

/-- The fields at a separator are the pieces with something in them. -/
theorem fields_eq_filter_splitOn (separator : Char) (t : Text) :
    fields (· = separator) t = (List.splitOn separator t).filter fun piece => !piece.isEmpty := by
  obtain ⟨first, rest, hsplit⟩ := List.exists_cons_of_ne_nil (List.splitOn_ne_nil separator t)
  rw [fields, fieldsFrom_eq separator [] t hsplit, hsplit]
  rfl

theorem head?_fieldsFrom_cons (p : Char → Bool) (c : Char) (backwards t : Text) :
    (fieldsFrom p (c :: backwards) t).head? =
      some ((c :: backwards).reverse ++ t.takeWhile fun d => !p d) := by
  induction t generalizing c backwards with
  | nil => simp [fieldsFrom, flush]
  | cons d t ih =>
      cases hd : p d with
      | true => simp [fieldsFrom, hd, flush]
      | false => simp [fieldsFrom, hd, ih]

/-- The first field is the first run of other characters. -/
theorem head?_fields (p : Char → Bool) (t : Text) :
    (fields p t).head? = (run? (fun c => !p c) (trimStart p t)).map Prod.fst := by
  induction t with
  | nil => rfl
  | cons c t ih =>
      cases hc : p c with
      | true =>
          have hfields : fields p (c :: t) = fields p t := by simp [fields, fieldsFrom, hc, flush]
          have htrim : trimStart p (c :: t) = trimStart p t := by simp [trimStart, hc]
          rw [hfields, htrim, ih]
      | false =>
          have hfields : fields p (c :: t) = fieldsFrom p [c] t := by
            simp [fields, fieldsFrom, hc]
          rw [hfields, head?_fieldsFrom_cons, trimStart_of_not hc]
          simp [run?, hc]

end PacRules.Text
