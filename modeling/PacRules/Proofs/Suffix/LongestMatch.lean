import Mathlib.Data.List.Infix
import PacRules.Proofs.Text.Front
import PacRules.Suffix.Prevailing

/-!
# The scan finds the prevailing rule

The labels of a host are dropped one after another from the front, and the first suffix that a
rule matches decides. The invariant of the scan is that no rule has more labels than the suffix
that is looked at: so a rule found there has the most labels of all that match, and an
exception is looked for first. A wildcard rule is looked up without its asterisk, by one label
less than it has.
-/

namespace PacRules.Suffix

open PacRules.Text

namespace SuffixRules

variable {rules : SuffixRules} {labels front rest : List Text} {label : Text}

theorem lastLabels_suffix (hlabels : labels = front ++ label :: rest) :
    lastLabels (rest.length + 1) labels = List.intercalate ['.'] (label :: rest) := by
  simp [lastLabels, hlabels]

theorem lastLabels_parent (hlabels : labels = front ++ label :: rest) :
    lastLabels rest.length labels = List.intercalate ['.'] rest := by
  have hsplit : labels = (front ++ [label]) ++ rest := by simp [hlabels]
  have hlength : labels.length - rest.length = (front ++ [label]).length := by
    rw [hsplit, List.length_append, Nat.add_sub_cancel]
  rw [lastLabels, hlength, hsplit, List.drop_left]

theorem length_suffix_le (hlabels : labels = front ++ label :: rest) :
    rest.length + 1 ≤ labels.length := by
  simp [hlabels]

/-- The last labels of a host, joined, are split into these labels again. -/
theorem splitOn_lastLabels {host : Text} {n : Nat} (hpos : 0 < n)
    (hle : n ≤ (List.splitOn '.' host).length) :
    List.splitOn '.' (lastLabels n (List.splitOn '.' host)) =
      (List.splitOn '.' host).drop ((List.splitOn '.' host).length - n) := by
  refine List.splitOn_intercalate '.' ?_ ?_
  · intro label hlabel
    exact not_mem_of_mem_splitOn (List.mem_of_mem_drop hlabel)
  · refine List.ne_nil_of_length_pos ?_
    rw [List.length_drop]
    omega

theorem length_splitOn_lastLabels {host : Text} {n : Nat} (hpos : 0 < n)
    (hle : n ≤ (List.splitOn '.' host).length) :
    (List.splitOn '.' (lastLabels n (List.splitOn '.' host))).length = n := by
  rw [splitOn_lastLabels hpos hle, List.length_drop]
  omega

/-! ### What is looked up at a suffix -/

theorem matches_exact_iff (rules : SuffixRules) (hlabels : labels = front ++ label :: rest) :
    Matches rules labels .exact (rest.length + 1) ↔
      List.intercalate ['.'] (label :: rest) ∈ rules.exact := by
  rw [← lastLabels_suffix hlabels]
  constructor
  · intro hmatch
    cases hmatch with
    | exact hpos hle hmem => exact hmem
  · intro hmem
    exact .exact (Nat.succ_pos _) (length_suffix_le hlabels) hmem

theorem matches_exception_iff (rules : SuffixRules) (hlabels : labels = front ++ label :: rest) :
    Matches rules labels .exception (rest.length + 1) ↔
      List.intercalate ['.'] (label :: rest) ∈ rules.exception := by
  rw [← lastLabels_suffix hlabels]
  constructor
  · intro hmatch
    cases hmatch with
    | exception hpos hle hmem => exact hmem
  · intro hmem
    exact .exception (Nat.succ_pos _) (length_suffix_le hlabels) hmem

/-- A wildcard rule has one label more than the name that is looked up. -/
theorem matches_wildcard_iff (rules : SuffixRules) (hlabels : labels = front ++ label :: rest) :
    Matches rules labels .wildcard (rest.length + 1) ↔
      rest ≠ [] ∧ List.intercalate ['.'] rest ∈ rules.wildcard := by
  rw [← lastLabels_parent hlabels]
  constructor
  · intro hmatch
    cases hmatch with
    | wildcard hpos hle hmem => exact ⟨List.ne_nil_of_length_pos hpos, hmem⟩
  · rintro ⟨hne, hmem⟩
    exact .wildcard (List.length_pos_of_ne_nil hne) (length_suffix_le hlabels) hmem

/-! ### The invariant -/

/-- No rule that matches has more labels. -/
def NoLonger (rules : SuffixRules) (labels : List Text) (n : Nat) : Prop :=
  ∀ kind size, Matches rules labels kind size → size ≤ n

theorem NoLonger.prevails_exception {n : Nat} (h : NoLonger rules labels n)
    (hmatch : Matches rules labels .exception n) : Prevails rules labels .exception n := by
  refine ⟨hmatch, ?_⟩
  intro other size hother
  rcases Nat.lt_or_eq_of_le (h other size hother) with hlt | heq
  · exact .inl hlt
  · exact .inr ⟨heq, .inl rfl⟩

theorem NoLonger.prevails {kind : RuleKind} {n : Nat} (h : NoLonger rules labels n)
    (hmatch : Matches rules labels kind n) (hexc : ¬Matches rules labels .exception n) :
    Prevails rules labels kind n := by
  refine ⟨hmatch, ?_⟩
  intro other size hother
  rcases Nat.lt_or_eq_of_le (h other size hother) with hlt | rfl
  · exact .inl hlt
  · refine .inr ⟨rfl, .inr ?_⟩
    rintro rfl
    exact hexc hother

theorem NoLonger.of_succ {n : Nat} (h : NoLonger rules labels (n + 1))
    (hnone : ∀ kind, ¬Matches rules labels kind (n + 1)) : NoLonger rules labels n := by
  intro kind size hmatch
  refine Nat.le_of_lt_succ (Nat.lt_of_le_of_ne (h kind size hmatch) ?_)
  rintro rfl
  exact hnone kind hmatch

/-- The answer of a rule that is no exception: its suffix with one more label, if there is one. -/
theorem NoLonger.registrable {kind : RuleKind} (htwo : 2 ≤ labels.length)
    (hlabels : labels = front ++ label :: rest)
    (h : NoLonger rules labels (rest.length + 1)) (hkind : kind ≠ .exception)
    (hmatch : Matches rules labels kind (rest.length + 1))
    (hexc : ¬Matches rules labels .exception (rest.length + 1)) :
    Registrable rules labels (front.getLast?.map fun before =>
      before ++ '.' :: List.intercalate ['.'] (label :: rest)) := by
  have hprevails := h.prevails hmatch hexc
  rcases List.eq_nil_or_concat front with rfl | ⟨front, before, rfl⟩
  · have hlength : rest.length + 1 = labels.length := by simp [hlabels]
    rw [hlength] at hprevails
    exact .suffix htwo hkind hprevails
  · have hsplit : labels = front ++ before :: label :: rest := by simp [hlabels]
    have hlast := lastLabels_suffix hsplit
    rw [List.length_cons, List.intercalate_cons_cons, List.append_assoc,
      List.singleton_append] at hlast
    have hlt : rest.length + 1 < labels.length := length_suffix_le hsplit
    rw [List.concat_eq_append, List.getLast?_concat, Option.map_some, ← hlast]
    exact .below htwo hkind hprevails hlt

/-- The scan of the labels behind `front`: its answer is the registrable domain, and it has no
answer only if no rule matches. -/
theorem scan_registrable (htwo : 2 ≤ labels.length) (front suffix : List Text)
    (hlabels : labels = front ++ suffix) (hlonger : NoLonger rules labels suffix.length) :
    match rules.scan front.getLast? suffix with
    | some answer => Registrable rules labels answer
    | none => NoLonger rules labels 0 := by
  -- a label goes to the front only when no rule has as many labels as the suffix
  induction suffix generalizing front with
  | nil => exact hlonger
  | cons label rest ih =>
      have hexception := matches_exception_iff rules hlabels
      have hexact := matches_exact_iff rules hlabels
      have hwildcard := matches_wildcard_iff rules hlabels
      rw [List.length_cons] at hlonger
      rw [scan]
      by_cases hexc : List.intercalate ['.'] (label :: rest) ∈ rules.exception
      · have hanswer := Registrable.excepted htwo
          (hlonger.prevails_exception (hexception.2 hexc))
        rw [lastLabels_suffix hlabels] at hanswer
        simpa [hexc] using hanswer
      · have hnot := mt hexception.1 hexc
        by_cases hex : List.intercalate ['.'] (label :: rest) ∈ rules.exact
        · have hanswer := hlonger.registrable htwo hlabels (by simp) (hexact.2 hex) hnot
          simpa [hexc, hex] using hanswer
        · by_cases hwild : rest ≠ [] ∧ List.intercalate ['.'] rest ∈ rules.wildcard
          · have hanswer := hlonger.registrable htwo hlabels (by simp) (hwildcard.2 hwild) hnot
            simpa [hexc, hex, hwild] using hanswer
          · have hnone : ∀ kind, ¬Matches rules labels kind (rest.length + 1) := by
              intro kind hmatch
              cases kind with
              | exact => exact hex (hexact.1 hmatch)
              | wildcard => exact hwild (hwildcard.1 hmatch)
              | exception => exact hexc (hexception.1 hmatch)
            have hrest := ih (front ++ [label]) (by simp [hlabels]) (hlonger.of_succ hnone)
            rw [List.getLast?_concat] at hrest
            simpa [hexc, hex, hwild] using hrest

/-- The registrable domain of a host is what the prevailing rule says. -/
theorem registrable?_registrable (hrules : rules.isEmpty = false) (host : Text) :
    Registrable rules (List.splitOn '.' host) (rules.registrable? host) := by
  unfold registrable?
  by_cases hone : (List.splitOn '.' host).length ≤ 1
  · simpa [hone] using Registrable.single hone
  · have htwo : 2 ≤ (List.splitOn '.' host).length := Nat.lt_of_not_le hone
    have hlonger : NoLonger rules (List.splitOn '.' host) (List.splitOn '.' host).length :=
      fun kind size hmatch => hmatch.size_range.2
    have hscan := scan_registrable htwo [] (List.splitOn '.' host) rfl hlonger
    rw [List.getLast?_nil] at hscan
    cases hanswer : rules.scan none (List.splitOn '.' host) with
    | some answer => simpa [hone, hrules, hanswer] using hscan
    | none =>
        rw [hanswer] at hscan
        have hunlisted : ∀ kind n, ¬Matches rules (List.splitOn '.' host) kind n := by
          intro kind n hmatch
          exact absurd hmatch.size_range.1 (Nat.not_lt.2 (hscan kind n hmatch))
        simpa [hone, hrules, hanswer] using Registrable.unlisted htwo hunlisted

/-- What a rule of the kind with `n` labels says where it prevails. -/
def verdict (labels : List Text) : RuleKind → Nat → Option Text
  | .exception, n => some (lastLabels n labels)
  | _, n => if n < labels.length then some (lastLabels (n + 1) labels) else none

theorem verdict_of_ne {kind : RuleKind} (hkind : kind ≠ .exception) (n : Nat) :
    verdict labels kind n =
      if n < labels.length then some (lastLabels (n + 1) labels) else none := by
  cases kind with
  | exact => rfl
  | wildcard => rfl
  | exception => exact absurd rfl hkind

theorem Registrable.eq_verdict {answer : Option Text} (h : Registrable rules labels answer)
    (htwo : 2 ≤ labels.length) {kind : RuleKind} {n : Nat}
    (hprevails : Prevails rules labels kind n) : answer = verdict labels kind n := by
  cases h with
  | single hone => exact absurd htwo (Nat.not_le.2 (Nat.lt_succ_of_le hone))
  | excepted _ hother =>
      obtain rfl := hprevails.size_unique hother
      obtain rfl := (hprevails.exception_iff hother).2 rfl
      rfl
  | below _ hkind hother hlt =>
      obtain rfl := hprevails.size_unique hother
      rw [verdict_of_ne (mt (hprevails.exception_iff hother).1 hkind), if_pos hlt]
  | suffix _ hkind hother =>
      obtain rfl := hprevails.size_unique hother
      rw [verdict_of_ne (mt (hprevails.exception_iff hother).1 hkind), if_neg (Nat.lt_irrefl _)]
  | unlisted _ hnone => exact absurd hprevails.1 (hnone kind n)

/-- The rules allow one answer. -/
theorem Registrable.unique {answer other : Option Text} (h : Registrable rules labels answer)
    (h' : Registrable rules labels other) : answer = other := by
  cases h' with
  | single hone =>
      cases h with
      | single _ => rfl
      | excepted htwo _ | below htwo _ _ _ | suffix htwo _ _ | unlisted htwo _ =>
          exact absurd htwo (Nat.not_le.2 (Nat.lt_succ_of_le hone))
  | excepted htwo hprevails => exact h.eq_verdict htwo hprevails
  | below htwo hkind hprevails hlt =>
      rw [h.eq_verdict htwo hprevails, verdict_of_ne hkind, if_pos hlt]
  | suffix htwo hkind hprevails =>
      rw [h.eq_verdict htwo hprevails, verdict_of_ne hkind, if_neg (Nat.lt_irrefl _)]
  | unlisted htwo hnone =>
      cases h with
      | single hone => exact absurd htwo (Nat.not_le.2 (Nat.lt_succ_of_le hone))
      | excepted _ hprevails | below _ _ hprevails _ | suffix _ _ hprevails =>
          exact absurd hprevails.1 (hnone _ _)
      | unlisted _ _ => rfl

end SuffixRules

end PacRules.Suffix
