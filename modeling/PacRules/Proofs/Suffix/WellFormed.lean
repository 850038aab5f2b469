import Mathlib.Data.List.Infix
import PacRules.Proofs.Suffix.LongestMatch
import PacRules.Proofs.Text.Capitals
import PacRules.Proofs.Text.Front

/-!
# Well-formed domains

Whatever the rules, a lookup answers with some of the last labels of the host that it was asked
for. The host has been checked and is in lower case, so the labels of an answer are in order one
by one, the answer is no longer than the host and holds no capital. An answer with a dot in it is
therefore a well-formed domain.
-/

namespace PacRules.Text

variable {separator : Char}

/-- The last of the pieces, joined, end the text that all of them make. -/
theorem intercalate_drop_suffix (separator : Char) (pieces : List Text) (n : Nat) :
    List.intercalate [separator] (pieces.drop n) <:+ List.intercalate [separator] pieces := by
  induction pieces generalizing n with
  | nil => simp
  | cons piece pieces ih =>
      cases n with
      | zero => exact List.suffix_refl _
      | succ n =>
          refine (ih n).trans ?_
          cases pieces with
          | nil => simp
          | cons next pieces =>
              rw [List.intercalate_cons_cons]
              exact List.suffix_append _ _

theorem utf8Size_le_of_suffix {s t : Text} (h : s <:+ t) : utf8Size s ≤ utf8Size t := by
  obtain ⟨front, rfl⟩ := h
  simp [utf8Size, utf8_append]

/-- A text does not end in the separator if none of its pieces is empty. -/
theorem getLast?_ne_of_splitOn {t : Text} (h : ∀ piece ∈ List.splitOn separator t, piece ≠ []) :
    t.getLast? ≠ some separator := by
  intro hlast
  obtain ⟨front, rfl⟩ := List.getLast?_eq_some_iff.1 hlast
  refine h [] ?_ rfl
  rw [List.splitOn_append_cons_self front []]
  simp

theorem two_le_length_splitOn {t : Text} (h : separator ∈ t) :
    2 ≤ (List.splitOn separator t).length := by
  obtain ⟨front, rest, rfl⟩ := List.append_of_mem h
  have hfront := List.length_pos_of_ne_nil (List.splitOn_ne_nil separator front)
  have hrest := List.length_pos_of_ne_nil (List.splitOn_ne_nil separator rest)
  rw [List.splitOn_append_cons_self, List.length_append]
  omega

end PacRules.Text

namespace PacRules.Suffix

open PacRules.Text

/-- A domain of two or more labels, each of them of at most 63 octets, made of letters, numbers,
hyphens and underscores, in lower case and of at most 253 octets. -/
structure IsWellFormed (domain : Text) : Prop where
  two_le_labels : 2 ≤ (List.splitOn '.' domain).length
  label_ne_nil : ∀ label ∈ List.splitOn '.' domain, label ≠ []
  label_size_le : ∀ label ∈ List.splitOn '.' domain, utf8Size label ≤ 63
  label_chars : ∀ label ∈ List.splitOn '.' domain, ∀ c ∈ label,
    isAlphanumeric c = true ∨ c = '-' ∨ c = '_'
  size_le : utf8Size domain ≤ 253
  getLast?_ne : domain.getLast? ≠ some '.'
  lower_eq : lower domain = domain

/-! ### Checked hosts -/

theorem labelError?_eq_none_iff {host label : Text} :
    labelError? host label = none ↔
      label ≠ [] ∧ utf8Size label ≤ labelLimit ∧ ∀ c ∈ label, isLabelChar c = true := by
  unfold labelError?
  by_cases hempty : label = []
  · simp [hempty]
  · by_cases hsize : labelLimit < utf8Size label
    · simp [hempty, hsize, Nat.not_le.2 hsize]
    · simp [hempty, hsize, Nat.le_of_not_lt hsize]

/-- A host that passes the check is in lower case and keeps the limits, label by label. -/
theorem of_checkedHost_eq_ok {host checked : Text} (h : checkedHost host = .ok checked) :
    checked = examined host ∧ utf8Size checked ≤ hostLimit ∧
      ∀ label ∈ List.splitOn '.' checked, labelError? checked label = none := by
  simp only [checkedHost] at h
  split at h
  · cases h
  · split at h
    · cases h
    · next hsize =>
        split at h
        · cases h
        · next hlabels =>
            cases h
            exact ⟨rfl, Nat.le_of_not_lt hsize, List.findSome?_eq_none_iff.1 hlabels⟩

/-! ### Answers -/

namespace SuffixRules

variable {rules : SuffixRules} {host domain : Text}

theorem Registrable.exists_eq_lastLabels {labels : List Text}
    (h : Registrable rules labels (some domain)) : ∃ n, domain = lastLabels n labels := by
  cases h with
  | excepted _ _ => exact ⟨_, rfl⟩
  | below _ _ _ _ => exact ⟨_, rfl⟩
  | unlisted _ _ => exact ⟨_, rfl⟩

/-- The common suffixes answer with the last labels too. -/
theorem exists_eq_lastLabels_of_fallback? {labels : List Text}
    (h : fallback? labels = some domain) : ∃ n, domain = lastLabels n labels := by
  unfold fallback? at h
  split at h
  · split at h
    · cases h
    · exact ⟨3, (Option.some.inj h).symm⟩
  · exact ⟨2, (Option.some.inj h).symm⟩

/-- An answer is made of the last labels of the host, whatever the rules. -/
theorem exists_eq_lastLabels (h : rules.registrable? host = some domain) :
    ∃ n, domain = lastLabels n (List.splitOn '.' host) := by
  cases hrules : rules.isEmpty with
  | true =>
      simp only [registrable?, hrules, if_true] at h
      split at h
      · cases h
      · exact exists_eq_lastLabels_of_fallback? h
  | false =>
      have hanswer := registrable?_registrable hrules host
      rw [h] at hanswer
      exact hanswer.exists_eq_lastLabels

/-- The labels of an answer are last labels of the host, if there are any. -/
theorem exists_splitOn_eq_drop (h : rules.registrable? host = some domain) (hne : domain ≠ []) :
    domain <:+ host ∧ ∃ n, List.splitOn '.' domain = (List.splitOn '.' host).drop n := by
  obtain ⟨n, rfl⟩ := exists_eq_lastLabels h
  rw [lastLabels] at hne ⊢
  have hsuffix := intercalate_drop_suffix '.' (List.splitOn '.' host)
    ((List.splitOn '.' host).length - n)
  rw [List.intercalate_splitOn] at hsuffix
  refine ⟨hsuffix, _, List.splitOn_intercalate '.' ?_ ?_⟩
  · intro label hlabel
    exact not_mem_of_mem_splitOn (List.mem_of_mem_drop hlabel)
  · intro hnil
    rw [hnil] at hne
    exact hne rfl

/-- A lookup that has an answer is one of a checked host. -/
theorem of_lookup_eq_ok {answer : Option Text} (h : rules.lookup host = .ok answer) :
    checkedHost host = .ok (examined host) ∧ rules.registrable? (examined host) = answer := by
  cases hchecked : checkedHost host with
  | error e => rw [lookup, Resolver.checking, hchecked] at h; cases h
  | ok checked =>
      rw [lookup_of_checkedHost rules hchecked] at h
      obtain rfl := (of_checkedHost_eq_ok hchecked).1
      exact ⟨rfl, Except.ok.inj h⟩

/-- An answer with a dot is a well-formed domain. -/
theorem isWellFormed_of_lookup (h : rules.lookup host = .ok (some domain)) (hdot : '.' ∈ domain) :
    IsWellFormed domain := by
  obtain ⟨hchecked, hanswer⟩ := of_lookup_eq_ok h
  obtain ⟨-, hsize, herror⟩ := of_checkedHost_eq_ok hchecked
  obtain ⟨hsuffix, n, hlabels⟩ := exists_splitOn_eq_drop hanswer (List.ne_nil_of_mem hdot)
  have hlabel : ∀ label ∈ List.splitOn '.' domain,
      label ≠ [] ∧ utf8Size label ≤ labelLimit ∧ ∀ c ∈ label, isLabelChar c = true := by
    intro label hmem
    rw [hlabels] at hmem
    exact labelError?_eq_none_iff.1 (herror label (List.mem_of_mem_drop hmem))
  refine ⟨two_le_length_splitOn hdot, fun label hmem => (hlabel label hmem).1,
    fun label hmem => (hlabel label hmem).2.1, ?_,
    (utf8Size_le_of_suffix hsuffix).trans hsize,
    getLast?_ne_of_splitOn fun label hmem => (hlabel label hmem).1, ?_⟩
  · intro label hmem c hc
    have hchar := (hlabel label hmem).2.2 c hc
    simpa [isLabelChar, or_assoc] using hchar
  · refine lower_eq_self ?_
    intro c hc
    exact isCapital_of_mem_lower (hsuffix.subset hc)

end SuffixRules

end PacRules.Suffix
