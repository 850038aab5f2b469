import PacRules.Proofs.Json.ReadBack
import PacRules.Text.Blank

/-!
# The compact form

The indented form of nested lists is the compact one with blanks in it. All of them stand outside of
the texts, where nothing else is a blank; a blank inside of a text is one of its characters and stays.
-/

namespace PacRules.Json

open PacRules.Text

/-- A JSON text without the blanks outside of its texts. It is told whether a text is open. -/
def unspacedFrom : (inText : Bool) → Text → Text
  | _, [] => []
  | false, c :: t => if isBlank c then unspacedFrom false t else c :: unspacedFrom (c = '"') t
  | true, '\\' :: c :: t => '\\' :: c :: unspacedFrom true t
  | true, c :: t => c :: unspacedFrom (c ≠ '"') t

/-- A JSON text without the blanks outside of its texts. -/
def unspaced (t : Text) : Text := unspacedFrom false t

theorem unspacedFrom_blanks {front : Text} (h : ∀ c ∈ front, isBlank c = true) (t : Text) :
    unspacedFrom false (front ++ t) = unspacedFrom false t := by
  induction front with
  | nil => rfl
  | cons c front ih =>
      rw [List.forall_mem_cons] at h
      rw [List.cons_append, unspacedFrom, if_pos h.1, ih h.2]

theorem unspacedFrom_newLine (layout : Layout) (depth : Nat) (t : Text) :
    unspacedFrom false (layout.newLine depth ++ t) = unspacedFrom false t := by
  cases layout with
  | compact => rfl
  | indented =>
      refine unspacedFrom_blanks ?_ t
      intro c hc
      rcases List.mem_cons.1 hc with rfl | hc
      · decide
      · rw [List.eq_of_mem_replicate hc]
        decide

theorem unspacedFrom_plain {front : Text} (h : ∀ c ∈ front, c ≠ '"' ∧ c ≠ '\\') (t : Text) :
    unspacedFrom true (front ++ t) = front ++ unspacedFrom true t := by
  induction front with
  | nil => rfl
  | cons c front ih =>
      rw [List.forall_mem_cons] at h
      obtain ⟨⟨hquote, hback⟩, hfront⟩ := h
      have hopen : decide (c ≠ '"') = true := decide_eq_true hquote
      rw [List.cons_append, unspacedFrom, hopen, ih hfront]
      · rfl
      · rintro d rest rfl
        exact absurd rfl hback

/-- Nothing is taken out of a text, and its closing quote closes it. -/
theorem unspacedFrom_escaped (t rest : Text) :
    unspacedFrom true (t.flatMap escaped ++ '"' :: rest) =
      t.flatMap escaped ++ '"' :: unspacedFrom false rest := by
  induction t with
  | nil => rfl
  | cons c t ih =>
      rw [List.flatMap_cons, List.append_assoc, List.append_assoc, ← ih]
      rcases escaped_cases c with ⟨h, hquote, hback, -⟩ | ⟨letter, digits, h, hdigits, -⟩
      · rw [h]
        exact unspacedFrom_plain (by simpa using And.intro hquote hback) _
      · rw [h, List.cons_append, List.cons_append, unspacedFrom, unspacedFrom_plain hdigits]
        rfl

theorem unspacedFrom_quoted (t rest : Text) :
    unspacedFrom false (quoted t ++ rest) = quoted t ++ unspacedFrom false rest := by
  have hquoted : ∀ s, quoted t ++ s = '"' :: (t.flatMap escaped ++ '"' :: s) := by simp [quoted]
  rw [hquoted, hquoted, ← unspacedFrom_escaped]
  rfl

mutual

theorem unspacedFrom_write (layout : Layout) :
    ∀ (v : Nested) (depth depth' : Nat) (rest : Text),
      unspacedFrom false (v.write layout depth ++ rest) =
        v.write .compact depth' ++ unspacedFrom false rest
  | .text t, depth, depth', rest => unspacedFrom_quoted t rest
  | .list [], depth, depth', rest => rfl
  | .list (item :: items), depth, depth', rest => by
      have hitem := unspacedFrom_write layout item (depth + 1) (depth' + 1)
        (Nested.writeRest layout (depth + 1) items ++ (layout.newLine depth ++ ']' :: rest))
      have hitems := unspacedFrom_writeRest layout items (depth + 1) (depth' + 1)
        (layout.newLine depth ++ ']' :: rest)
      have hbracket : ∀ s, unspacedFrom false ('[' :: s) = '[' :: unspacedFrom false s :=
        fun _ => rfl
      have hclose : unspacedFrom false (']' :: rest) = ']' :: unspacedFrom false rest := rfl
      rw [write_cons_append, write_cons_append, hbracket, unspacedFrom_newLine, hitem, hitems,
        unspacedFrom_newLine, hclose]
      rfl

theorem unspacedFrom_writeRest (layout : Layout) :
    ∀ (items : List Nested) (depth depth' : Nat) (rest : Text),
      unspacedFrom false (Nested.writeRest layout depth items ++ rest) =
        Nested.writeRest .compact depth' items ++ unspacedFrom false rest
  | [], depth, depth', rest => rfl
  | item :: items, depth, depth', rest => by
      have hitem := unspacedFrom_write layout item depth depth'
        (Nested.writeRest layout depth items ++ rest)
      have hitems := unspacedFrom_writeRest layout items depth depth' rest
      have hcomma : ∀ s, unspacedFrom false (',' :: s) = ',' :: unspacedFrom false s :=
        fun _ => rfl
      rw [writeRest_cons_append, writeRest_cons_append, hcomma, unspacedFrom_newLine, hitem, hitems]
      rfl

end

/-- Without its blanks the indented form is the compact one. -/
theorem unspaced_write (layout : Layout) (v : Nested) :
    unspaced (v.write layout 0) = v.write .compact 0 := by
  have hwrite := unspacedFrom_write layout v 0 0 []
  rwa [List.append_nil, unspacedFrom, List.append_nil] at hwrite

end PacRules.Json
