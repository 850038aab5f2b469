import Mathlib.Data.List.Forall2
import PacRules.Proofs.Text.Front
import PacRules.Script.Render

/-!
# Filled templates

A template is made of pieces without an underscore and the names of its slots between them. All
names begin with an underscore and none begins another, so filling finds each name in its place and
nothing else, whatever the values are: what comes out is the same pieces with values between them.
-/

namespace PacRules.Script

open PacRules.Text

variable {slots : List (Text × Text)} {names values pieces : List Text} {template : Text}

/-- Pieces with a filling behind each but the last. -/
def interleaved : (pieces fillings : List Text) → Text
  | piece :: pieces, filling :: fillings => piece ++ (filling ++ interleaved pieces fillings)
  | pieces, _ => pieces.flatten

theorem interleaved_append {fronts fillings : List Text} (h : fronts.length = fillings.length)
    (pieces values : List Text) :
    interleaved (fronts ++ pieces) (fillings ++ values) =
      interleaved fronts fillings ++ interleaved pieces values := by
  induction fronts generalizing fillings with
  | nil =>
      obtain rfl : fillings = [] := List.eq_nil_of_length_eq_zero h.symm
      simp [interleaved]
  | cons front fronts ih =>
      match fillings with
      | filling :: fillings =>
          simp only [List.cons_append, interleaved, ih (by simpa using h), List.append_assoc]

/-- The template is made of the pieces and, between them, the names. -/
structure IsMadeOf (template : Text) (pieces names : List Text) : Prop where
  eq : template = interleaved pieces names
  length_eq : pieces.length = names.length + 1
  plain : ∀ piece ∈ pieces, '_' ∉ piece

/-! ### Taking a template apart -/

/-- What stands between names, each of which is looked for behind the one before. -/
def piecesBetween : (names : List Text) → Text → List Text
  | [], t => [t]
  | name :: names, t =>
    match cut? name t with
    | some (before, after) => before :: piecesBetween names after
    | none => [t]

/-- Where all names are found, the pieces make the text with them. -/
theorem interleaved_piecesBetween {t : Text}
    (h : (piecesBetween names t).length = names.length + 1) :
    t = interleaved (piecesBetween names t) names := by
  induction names generalizing t with
  | nil => simp [piecesBetween, interleaved]
  | cons name names ih =>
      rw [piecesBetween] at h ⊢
      cases hcut : cut? name t with
      | none => simp [hcut] at h
      | some cut =>
          obtain ⟨before, after⟩ := cut
          simp only [hcut, List.length_cons, Nat.add_right_cancel_iff] at h ⊢
          rw [interleaved, ← ih h, ← List.append_assoc]
          exact eq_append_of_cut? hcut

theorem isMadeOf_piecesBetween
    (hlength : (piecesBetween names template).length = names.length + 1)
    (hplain : (piecesBetween names template).all (fun piece => !List.contains piece '_') = true) :
    IsMadeOf template (piecesBetween names template) names := by
  refine ⟨interleaved_piecesBetween hlength, hlength, ?_⟩
  intro piece hpiece
  simpa using List.all_eq_true.1 hplain piece hpiece

/-! ### Filling -/

/-- The names can be told apart, and told from text without an underscore. -/
structure AreDistinct (names : List Text) : Prop where
  head? : ∀ name ∈ names, name.head? = some '_'
  pairwise : names.Pairwise fun name name' => ¬ name <+: name' ∧ ¬ name' <+: name

theorem slotAt_eq_none (h : AreDistinct (slots.map Prod.fst)) {c : Char} (hc : c ≠ '_')
    (t : Text) : slotAt slots (c :: t) = none := by
  refine List.findSome?_eq_none_iff.2 ?_
  rintro ⟨name, value⟩ hslot
  obtain ⟨rest, hname⟩ := List.head?_eq_some_iff.1 (h.head? name (List.mem_map_of_mem hslot))
  obtain rfl : name = '_' :: rest := hname
  simp [literal, hc.symm]

/-- At the name of a slot its value is found. -/
theorem slotAt_append
    (h : (slots.map Prod.fst).Pairwise fun name name' => ¬ name <+: name' ∧ ¬ name' <+: name)
    {name value : Text} (hslot : (name, value) ∈ slots) (t : Text) :
    slotAt slots (name ++ t) = some (name.length - 1, value) := by
  induction slots with
  | nil => cases hslot
  | cons slot slots ih =>
      obtain ⟨hhead, htail⟩ := List.pairwise_cons.1 h
      rw [slotAt, List.findSome?_cons]
      rcases List.mem_cons.1 hslot with rfl | hslot
      · simp [literal]
      · have hmiss : literal slot.1 slot.2 (name ++ t) = none := by
          obtain ⟨hno, hno'⟩ := hhead name (List.mem_map_of_mem hslot)
          rw [literal, if_neg]
          intro hstart
          have hbegins : slot.1 <+: name ++ t := List.isPrefixOf_iff_prefix.1 hstart
          rcases List.prefix_or_prefix_of_prefix hbegins (List.prefix_append name t) with
            hprefix | hprefix
          · exact hno hprefix
          · exact hno' hprefix
        simp only [hmiss]
        exact ih htail hslot

theorem fillSlots_append_plain (h : AreDistinct (slots.map Prod.fst)) {piece : Text}
    (hpiece : '_' ∉ piece) (t : Text) :
    fillSlots (piece ++ t) slots = piece ++ fillSlots t slots := by
  refine substitute_append ?_
  intro c rest hsuffix
  have hc : c ≠ '_' := by
    rintro rfl
    exact hpiece (hsuffix.subset List.mem_cons_self)
  exact slotAt_eq_none h hc _

theorem fillSlots_append_name (h : AreDistinct (slots.map Prod.fst)) {name value : Text}
    (hslot : (name, value) ∈ slots) (t : Text) :
    fillSlots (name ++ t) slots = value ++ fillSlots t slots := by
  obtain ⟨rest, hname⟩ := List.head?_eq_some_iff.1 (h.head? name (List.mem_map_of_mem hslot))
  obtain rfl : name = '_' :: rest := hname
  have hat := slotAt_append h.pairwise hslot t
  rw [List.cons_append] at hat
  rw [fillSlots, List.cons_append, substitute_cons_of_eq_some hat]
  simp [fillSlots]

theorem forall₂_slots (slots : List (Text × Text)) :
    List.Forall₂ (fun name value => (name, value) ∈ slots) (slots.map Prod.fst)
      (slots.map Prod.snd) := by
  rw [List.forall₂_map_left_iff, List.forall₂_map_right_iff]
  exact List.forall₂_same.2 fun _ hslot => hslot

/-- Filling a template puts values in the places of the names and changes nothing else. -/
theorem fillSlots_eq (hmade : IsMadeOf template pieces names)
    (hvalues : List.Forall₂ (fun name value => (name, value) ∈ slots) names values)
    (h : AreDistinct (slots.map Prod.fst)) :
    fillSlots template slots = interleaved pieces values := by
  obtain ⟨rfl, hlength, hplain⟩ := hmade
  induction hvalues generalizing pieces with
  | nil =>
      match pieces with
      | [piece] =>
          have hfilled := fillSlots_append_plain h (hplain piece List.mem_cons_self) []
          simpa [interleaved, fillSlots] using hfilled
  | cons hslot _ ih =>
      match pieces with
      | piece :: pieces =>
          rw [List.forall_mem_cons] at hplain
          rw [interleaved, interleaved, fillSlots_append_plain h hplain.1,
            fillSlots_append_name h hslot, ih (by simpa using hlength) hplain.2]

end PacRules.Script
