import Mathlib.Data.List.Lex
import PacRules.Proofs.Domain.UnitOrder
import PacRules.Script.Answer

/-!
# The search by halves

What a search between two places finds is a member there. The converse is a matter of order: the
members between two places are all found exactly if they ascend by their units. Both sides take the
same step, from the places to those before and behind the middle, so one induction on the number
of places shows that they agree. For an ascending list of domains the order by units fails exactly
where two members are inverted.
-/

namespace PacRules.Script

open PacRules.Text PacRules.Domain

variable {list : List Text} {item : Text} {low high middle : Nat}

/-! ### One step of the search -/

theorem search_of_le (h : high ≤ low) : search list item low high = false := by
  rw [search, if_neg (Nat.not_lt.2 h)]

theorem search_of_eq (hlt : low < high) (hmiddle : (low + high - 1) / 2 = middle)
    (h : list[middle]? = some item) : search list item low high = true := by
  rw [search, if_pos hlt]
  simp [hmiddle, h]

theorem search_of_lt {found : Text} (hlt : low < high) (hmiddle : (low + high - 1) / 2 = middle)
    (hfound : list[middle]? = some found) (h : units found < units item) :
    search list item low high = search list item (middle + 1) high := by
  have hne : units found ≠ units item := fun heq => List.lt_irrefl _ (heq ▸ h)
  rw [search, if_pos hlt]
  simp [hmiddle, hfound, hne, h]

theorem search_of_gt {found : Text} (hlt : low < high) (hmiddle : (low + high - 1) / 2 = middle)
    (hfound : list[middle]? = some found) (h : units item < units found) :
    search list item low high = search list item low middle := by
  have hne : units found ≠ units item := fun heq => List.lt_irrefl _ (heq ▸ h)
  have hnot : ¬units found < units item := fun hback => List.lt_asymm h hback
  rw [search, if_pos hlt]
  simp [hmiddle, hfound, hne, hnot]

/-! ### The two sides -/

/-- All members between two places are found there. -/
def FindsBetween (list : List Text) (low high : Nat) : Prop :=
  ∀ i item, low ≤ i → i < high → list[i]? = some item → search list item low high = true

/-- The members between two places ascend by their units. -/
def AscendsBetween (list : List Text) (low high : Nat) : Prop :=
  ∀ i j s t, low ≤ i → i < j → j < high → list[i]? = some s → list[j]? = some t → units s < units t

/-- The members between two places are less than a member there if they stand before it, and
greater if they stand behind it. -/
structure PartsBetween (list : List Text) (found : Text) (low middle high : Nat) : Prop where
  before_lt : ∀ i s, low ≤ i → i < middle → list[i]? = some s → units s < units found
  lt_behind : ∀ j t, middle < j → j < high → list[j]? = some t → units found < units t

theorem ascendsBetween_step {found : Text} (hlow : low ≤ middle) (hhigh : middle < high)
    (hfound : list[middle]? = some found) :
    AscendsBetween list low high ↔ PartsBetween list found low middle high ∧
      AscendsBetween list low middle ∧ AscendsBetween list (middle + 1) high := by
  constructor
  · intro h
    refine ⟨⟨?_, ?_⟩, ?_, ?_⟩
    · intro i s hi hlt hs
      exact h i middle s found hi hlt hhigh hs hfound
    · intro j t hlt hj ht
      exact h middle j found t hlow hlt hj hfound ht
    · intro i j s t hi hlt hj
      exact h i j s t hi hlt (Nat.lt_trans hj hhigh)
    · intro i j s t hi hlt hj
      exact h i j s t (by omega) hlt hj
  · rintro ⟨hparts, hbefore, hbehind⟩ i j s t hi hlt hj hs ht
    rcases Nat.lt_trichotomy i middle with hi' | rfl | hi'
    · have hless := hparts.before_lt i s hi hi' hs
      rcases Nat.lt_trichotomy j middle with hj' | rfl | hj'
      · exact hbefore i j s t hi hlt hj' hs ht
      · obtain rfl : found = t := Option.some.inj (hfound.symm.trans ht)
        exact hless
      · exact List.lt_trans hless (hparts.lt_behind j t hj' hj ht)
    · obtain rfl : found = s := Option.some.inj (hfound.symm.trans hs)
      exact hparts.lt_behind j t hlt hj ht
    · exact hbehind i j s t hi' hlt hj hs ht

/-- In a list without repetitions an item that stands before the middle is found only if it is less
than the member in the middle: behind the middle there is no other. -/
theorem units_lt_of_search {found : Text} {i : Nat} (hnodup : list.Nodup)
    (hlength : high ≤ list.length) (hlt : low < high) (hmiddle : (low + high - 1) / 2 = middle)
    (hfound : list[middle]? = some found) (hi : i < middle) (hitem : list[i]? = some item)
    (h : search list item low high = true) : units item < units found := by
  rcases lt_trichotomy (units item) (units found) with hless | heq | hgreater
  · exact hless
  · have hsame : list[i]? = list[middle]? := by rw [hitem, hfound, units_injective heq]
    have hplace : i = middle := (List.getElem?_inj (by omega) hnodup).1 hsame
    omega
  · rw [search_of_lt hlt hmiddle hfound hgreater] at h
    obtain ⟨j, hj, -, hitem'⟩ := exists_of_search hlength h
    have hplace : i = j := (List.getElem?_inj (by omega) hnodup).1 (hitem.trans hitem'.symm)
    omega

/-- An item that stands behind the middle is found only if it is greater than the member there. -/
theorem lt_units_of_search {found : Text} {j : Nat} (hnodup : list.Nodup)
    (hlength : high ≤ list.length) (hlt : low < high) (hmiddle : (low + high - 1) / 2 = middle)
    (hfound : list[middle]? = some found) (hj : middle < j) (hhigh : j < high)
    (hitem : list[j]? = some item) (h : search list item low high = true) :
    units found < units item := by
  rcases lt_trichotomy (units found) (units item) with hless | heq | hgreater
  · exact hless
  · have hsame : list[j]? = list[middle]? := by rw [hitem, hfound, units_injective heq]
    have hplace : j = middle := (List.getElem?_inj (by omega) hnodup).1 hsame
    omega
  · rw [search_of_gt hlt hmiddle hfound hgreater] at h
    obtain ⟨i, -, hi, hitem'⟩ := exists_of_search (by omega) h
    have hplace : j = i := (List.getElem?_inj (by omega) hnodup).1 (hitem.trans hitem'.symm)
    omega

theorem findsBetween_step {found : Text} (hnodup : list.Nodup) (hlength : high ≤ list.length)
    (hlt : low < high) (hmiddle : (low + high - 1) / 2 = middle)
    (hfound : list[middle]? = some found) :
    FindsBetween list low high ↔ PartsBetween list found low middle high ∧
      FindsBetween list low middle ∧ FindsBetween list (middle + 1) high := by
  have hlow : low ≤ middle := by omega
  have hhigh : middle < high := by omega
  constructor
  · intro h
    have hparts : PartsBetween list found low middle high := by
      refine ⟨?_, ?_⟩
      · intro i s hi hlt' hs
        exact units_lt_of_search hnodup hlength hlt hmiddle hfound hlt' hs
          (h i s hi (Nat.lt_trans hlt' hhigh) hs)
      · intro j t hlt' hj ht
        exact lt_units_of_search hnodup hlength hlt hmiddle hfound hlt' hj ht
          (h j t (Nat.le_trans hlow hlt'.le) hj ht)
    refine ⟨hparts, ?_, ?_⟩
    · intro i s hi hlt' hs
      rw [← search_of_gt hlt hmiddle hfound (hparts.before_lt i s hi hlt' hs)]
      exact h i s hi (Nat.lt_trans hlt' hhigh) hs
    · intro j t hlt' hj ht
      rw [← search_of_lt hlt hmiddle hfound (hparts.lt_behind j t hlt' hj ht)]
      exact h j t (Nat.le_trans hlow (Nat.le_of_succ_le hlt')) hj ht
  · rintro ⟨hparts, hbefore, hbehind⟩ i item hi hi' hitem
    rcases Nat.lt_trichotomy i middle with hless | rfl | hgreater
    · rw [search_of_gt hlt hmiddle hfound (hparts.before_lt i item hi hless hitem)]
      exact hbefore i item hi hless hitem
    · exact search_of_eq hlt hmiddle hitem
    · rw [search_of_lt hlt hmiddle hfound (hparts.lt_behind i item hgreater hi' hitem)]
      exact hbehind i item hgreater hi' hitem

/-- The members between two places of a list without repetitions are all found there exactly if
they ascend by units. -/
theorem findsBetween_iff_ascendsBetween (hnodup : list.Nodup) (hlength : high ≤ list.length) :
    FindsBetween list low high ↔ AscendsBetween list low high := by
  induction hplaces : high - low using Nat.strong_induction_on generalizing low high with
  | h places ih =>
      by_cases hlt : low < high
      · obtain ⟨middle, hmiddle⟩ : ∃ middle, (low + high - 1) / 2 = middle := ⟨_, rfl⟩
        obtain ⟨found, hfound⟩ : ∃ found, list[middle]? = some found :=
          ⟨_, List.getElem?_eq_getElem (by omega)⟩
        have hbefore : FindsBetween list low middle ↔ AscendsBetween list low middle :=
          ih (middle - low) (by omega) (by omega) rfl
        have hbehind : FindsBetween list (middle + 1) high ↔
            AscendsBetween list (middle + 1) high :=
          ih (high - (middle + 1)) (by omega) hlength rfl
        rw [findsBetween_step hnodup hlength hlt hmiddle hfound,
          ascendsBetween_step (by omega) (by omega) hfound, hbefore, hbehind]
      · constructor
        · intro _ i j s t hi hij hj
          omega
        · intro _ i item hi hi'
          omega

theorem ascendsBetween_iff_pairwise :
    AscendsBetween list 0 list.length ↔ (list.map units).Pairwise (· < ·) := by
  rw [List.pairwise_map, List.pairwise_iff_getElem]
  constructor
  · intro h i j hi hj hlt
    exact h i j _ _ (Nat.zero_le i) hlt hj (List.getElem?_eq_getElem hi)
      (List.getElem?_eq_getElem hj)
  · intro h i j s t _ hlt _ hs ht
    obtain ⟨hi, rfl⟩ := List.getElem?_eq_some_iff.1 hs
    obtain ⟨hj, rfl⟩ := List.getElem?_eq_some_iff.1 ht
    exact h i j hi hj hlt

/-- Of an ascending list the search finds the members, all of them and nothing else, exactly if
no two of them are inverted. -/
theorem finds_iff_mem_iff {ds : List Text} (h : Ascending ds) :
    (∀ d, finds ds d = true ↔ d ∈ ds) ↔ ∀ s ∈ ds, ∀ t ∈ ds, inverts s t = false := by
  have hall : (∀ d, finds ds d = true ↔ d ∈ ds) ↔ FindsBetween ds 0 ds.length := by
    constructor
    · intro hmem i item _ _ hitem
      exact (hmem item).2 (List.mem_of_getElem? hitem)
    · intro hfinds d
      refine ⟨mem_of_finds, ?_⟩
      intro hd
      obtain ⟨i, hi, rfl⟩ := List.mem_iff_getElem.1 hd
      exact hfinds i _ (Nat.zero_le i) hi (List.getElem?_eq_getElem hi)
  rw [hall, findsBetween_iff_ascendsBetween h.nodup (Nat.le_refl _), ascendsBetween_iff_pairwise,
    h.pairwise_units_iff]

end PacRules.Script
