import PacRules.Proofs.Domain.Search
import PacRules.Proofs.Suffix.WellFormed

/-!
# Groups

A group is written as labels with dots between them, a dot, and two or more alternatives in
parentheses with pipes between them. The text from the first label to the closing parenthesis can
be told from its characters, so a text is expanded in one way at most where a group begins. The
search takes the first place where one does. A label of a group that stands behind another label
begins a group too: so a text has a group exactly if one label stands right in front of some
alternatives.
-/

namespace PacRules.Domain

open PacRules.Text PacRules.Host

/-- The labels of a group and its alternatives, none of them empty. -/
structure IsGroup (labels names : List Text) : Prop where
  labels_ne_nil : labels ≠ []
  label_chars : ∀ label ∈ labels, label ≠ [] ∧ ∀ c ∈ label, isLabelChar c = true
  two_le_names : 2 ≤ names.length
  name_chars : ∀ name ∈ names, name ≠ [] ∧ ∀ c ∈ name, isNameChar c = true

/-- The check that there is a group of the given parts. -/
def isGroup (labels names : List Text) : Bool :=
  !labels.isEmpty && labels.all (fun label => !label.isEmpty && label.all isLabelChar) &&
    2 ≤ names.length && names.all fun name => !name.isEmpty && name.all isNameChar

theorem isGroup_iff {labels names : List Text} :
    isGroup labels names = true ↔ IsGroup labels names := by
  simp only [isGroup, Bool.and_eq_true, Bool.not_eq_true', List.isEmpty_eq_false_iff,
    List.all_eq_true, decide_eq_true_eq]
  constructor
  · rintro ⟨⟨⟨hne, hlabels⟩, htwo⟩, hnames⟩
    exact ⟨hne, hlabels, htwo, hnames⟩
  · rintro ⟨hne, hlabels, htwo, hnames⟩
    exact ⟨⟨⟨hne, hlabels⟩, htwo⟩, hnames⟩

instance (labels names : List Text) : Decidable (IsGroup labels names) :=
  decidable_of_iff _ isGroup_iff

/-- A group as it stands in a rule. -/
def groupText (labels names : List Text) : Text :=
  List.intercalate ['.'] labels ++ ('.' :: '(' :: (List.intercalate ['|'] names ++ [')']))

variable {labels names : List Text} {lead rest t : Text}

/-! ### The parts of a group -/

theorem isNameChar_of_isLabelChar {c : Char} (h : isLabelChar c = true) : isNameChar c = true := by
  simp [isNameChar, h]

theorem groupLabels?_eq_some_iff {front found : Text} :
    groupLabels? front = some found ↔
      front = found ++ ['.'] ∧ ∀ label ∈ List.splitOn '.' found, label ≠ [] := by
  rw [groupLabels?]
  constructor
  · intro h
    obtain ⟨kept, hkept, hfound⟩ := Option.bind_eq_some_iff.1 h
    split at hfound
    · next hlabels =>
        obtain rfl : kept = found := Option.some.inj hfound
        exact ⟨(List.isSuffixOf?_eq_some_iff_append_eq.1 hkept).symm, by simpa using hlabels⟩
    · cases hfound
  · rintro ⟨rfl, hlabels⟩
    refine Option.bind_eq_some_iff.2 ⟨found, isSuffixOf?_append found ['.'], if_pos ?_⟩
    simpa using hlabels

theorem alternatives?_eq_some_iff {content : Text} :
    alternatives? content = some names ↔
      List.splitOn '|' content = names ∧ 2 ≤ names.length ∧ ∀ name ∈ names, name ≠ [] := by
  rw [alternatives?]
  constructor
  · intro h
    split at h
    · next hnames =>
        obtain rfl : List.splitOn '|' content = names := Option.some.inj h
        exact ⟨rfl, by simpa using hnames⟩
    · cases h
  · rintro ⟨rfl, hnames⟩
    refine if_pos ?_
    simpa using hnames

namespace IsGroup

theorem dot_not_mem (h : IsGroup labels names) {label : Text} (hlabel : label ∈ labels) :
    '.' ∉ label := by
  intro hdot
  exact absurd ((h.label_chars label hlabel).2 '.' hdot) (by decide)

theorem pipe_not_mem (h : IsGroup labels names) {name : Text} (hname : name ∈ names) :
    '|' ∉ name := by
  intro hpipe
  exact absurd ((h.name_chars name hname).2 '|' hpipe) (by decide)

theorem splitOn_labels (h : IsGroup labels names) :
    List.splitOn '.' (List.intercalate ['.'] labels) = labels :=
  List.splitOn_intercalate '.' (fun _ hlabel => h.dot_not_mem hlabel) h.labels_ne_nil

theorem splitOn_names (h : IsGroup labels names) :
    List.splitOn '|' (List.intercalate ['|'] names) = names := by
  refine List.splitOn_intercalate '|' (fun _ hname => h.pipe_not_mem hname) ?_
  intro hnil
  have htwo := h.two_le_names
  simp [hnil] at htwo

theorem isNameChar_of_mem_labels (h : IsGroup labels names) {c : Char}
    (hc : c ∈ List.intercalate ['.'] labels ++ ['.']) : isNameChar c = true := by
  rcases List.mem_append.1 hc with hc | hc
  · rcases eq_or_mem_of_mem_intercalate hc with rfl | ⟨label, hlabel, hmem⟩
    · rfl
    · exact isNameChar_of_isLabelChar ((h.label_chars label hlabel).2 c hmem)
  · rw [List.mem_singleton.1 hc]
    rfl

theorem chars_names (h : IsGroup labels names) {c : Char} (hc : c ∈ List.intercalate ['|'] names) :
    (isNameChar c || c = '|') = true := by
  rcases eq_or_mem_of_mem_intercalate hc with rfl | ⟨name, hname, hmem⟩
  · rfl
  · rw [(h.name_chars name hname).2 c hmem]
    rfl

end IsGroup

/-! ### A group at the front of a text -/

/-- A text is expanded where it begins exactly if a group begins there, and then by its
alternatives. -/
theorem expandHere?_eq_some_iff {expansion : List Text} :
    expandHere? t = some expansion ↔
      ∃ labels names rest, t = groupText labels names ++ rest ∧ IsGroup labels names ∧
        expansion =
          names.map fun name => List.intercalate ['.'] labels ++ '.' :: (name ++ rest) := by
  constructor
  · intro h
    rw [expandHere?] at h
    obtain ⟨found, hfound, h⟩ := Option.bind_eq_some_iff.1 h
    obtain ⟨content, hcontent, h⟩ := Option.bind_eq_some_iff.1 h
    obtain ⟨names, hnames, h⟩ := Option.bind_eq_some_iff.1 h
    obtain ⟨rest, hrest, h⟩ := Option.bind_eq_some_iff.1 h
    obtain ⟨hfront, hlabels⟩ := groupLabels?_eq_some_iff.1 hfound
    obtain ⟨hsplit, htwo, hne⟩ := alternatives?_eq_some_iff.1 hnames
    rw [List.isPrefixOf?_eq_some_iff_append_eq, eq_comm] at hcontent hrest
    refine ⟨List.splitOn '.' found, names, rest, ?_,
      ⟨List.splitOn_ne_nil '.' found, ?_, htwo, ?_⟩, ?_⟩
    · have hjoin : List.intercalate ['|'] names =
          content.takeWhile fun c => isNameChar c || c = '|' := by
        rw [← hsplit, List.intercalate_splitOn]
      calc t = t.takeWhile isNameChar ++ t.dropWhile isNameChar :=
            List.takeWhile_append_dropWhile.symm
        _ = found ++ ['.'] ++ (['('] ++ (List.intercalate ['|'] names ++ ([')'] ++ rest))) := by
            rw [hfront, hcontent, hjoin, ← hrest, List.takeWhile_append_dropWhile]
        _ = groupText (List.splitOn '.' found) names ++ rest := by
            rw [groupText, List.intercalate_splitOn]
            simp
    · intro label hlabel
      refine ⟨hlabels label hlabel, ?_⟩
      intro c hc
      have hmem : c ∈ t.takeWhile isNameChar := by
        rw [hfront]
        exact List.mem_append_left _ (mem_of_mem_splitOn hlabel hc)
      have hname : isNameChar c = true := List.mem_takeWhile_imp hmem
      have hdot : c ≠ '.' := ne_of_mem_of_not_mem hc (not_mem_of_mem_splitOn hlabel)
      simpa [isNameChar, hdot] using hname
    · intro name hname
      refine ⟨hne name hname, ?_⟩
      intro c hc
      rw [← hsplit] at hname
      have hmem := mem_of_mem_splitOn hname hc
      have hchar : (isNameChar c || c = '|') = true :=
        List.mem_takeWhile_imp (p := fun c => isNameChar c || c = '|') hmem
      have hpipe : c ≠ '|' := ne_of_mem_of_not_mem hc (not_mem_of_mem_splitOn hname)
      simpa [hpipe] using hchar
    · rw [List.intercalate_splitOn, ← Option.some.inj h]
      simp
  · rintro ⟨labels, names, rest, rfl, hgroup, rfl⟩
    have hlabels := span_append_cons (fun _ hc => hgroup.isNameChar_of_mem_labels hc)
      (show isNameChar '(' = false by decide) (List.intercalate ['|'] names ++ ')' :: rest)
    have hnames := span_append_cons (fun _ hc => hgroup.chars_names hc)
      (show (isNameChar ')' || ')' = '|') = false by decide) rest
    have htext : groupText labels names ++ rest =
        List.intercalate ['.'] labels ++ ['.'] ++
          '(' :: (List.intercalate ['|'] names ++ ')' :: rest) := by
      simp [groupText]
    have hfound : groupLabels? (List.intercalate ['.'] labels ++ ['.']) =
        some (List.intercalate ['.'] labels) := by
      refine groupLabels?_eq_some_iff.2 ⟨rfl, ?_⟩
      rw [hgroup.splitOn_labels]
      exact fun label hlabel => (hgroup.label_chars label hlabel).1
    have halternatives : alternatives? (List.intercalate ['|'] names) = some names :=
      alternatives?_eq_some_iff.2
        ⟨hgroup.splitOn_names, hgroup.two_le_names,
          fun name hname => (hgroup.name_chars name hname).1⟩
    have hopen : List.isPrefixOf? ['('] ('(' :: (List.intercalate ['|'] names ++ ')' :: rest)) =
        some (List.intercalate ['|'] names ++ ')' :: rest) := isPrefixOf?_append ['('] _
    have hclose : List.isPrefixOf? [')'] (')' :: rest) = some rest := isPrefixOf?_append [')'] rest
    rw [htext, expandHere?, hlabels.1, hlabels.2, hfound]
    simp only [Option.bind_eq_bind, Option.bind_some, hopen, hnames.1, hnames.2, halternatives,
      hclose]
    simp

/-! ### The search for a group -/

theorem expandHere?_nil : expandHere? [] = none := by decide

/-- A text without an expansion has none from any place on. -/
theorem expand?_eq_none_iff_suffix :
    expand? t = none ↔ ∀ after, after <:+ t → expandHere? after = none := by
  induction t with
  | nil =>
      constructor
      · intro _ after hafter
        rw [List.suffix_nil.1 hafter]
        exact expandHere?_nil
      · intro _
        rfl
  | cons c t ih =>
      constructor
      · intro h after hafter
        cases hhere : expandHere? (c :: t) with
        | some expansion => simp [expand?, hhere] at h
        | none =>
            rw [expand?_cons_of_eq_none hhere] at h
            rcases List.suffix_cons_iff.1 hafter with rfl | hafter
            · exact hhere
            · exact ih.1 h after hafter
      · intro h
        rw [expand?_cons_of_eq_none (h (c :: t) (List.suffix_refl _))]
        exact ih.2 fun after hafter => h after (hafter.trans (List.suffix_cons c t))

/-- The last label of a group begins a group of its own, behind the labels in front of it. -/
theorem IsGroup.exists_last (h : IsGroup labels names) :
    ∃ before label, groupText labels names = before ++ groupText [label] names ∧
      IsGroup [label] names := by
  obtain ⟨front, label, rfl⟩ := List.eq_nil_or_concat labels |>.resolve_left h.labels_ne_nil
  have hlast : label ∈ front.concat label := by simp
  obtain ⟨before, hbefore⟩ : label <:+ List.intercalate ['.'] (front.concat label) := by
    have hdrop := intercalate_drop_suffix '.' (front.concat label) front.length
    simpa using hdrop
  refine ⟨before, label, ?_, ?_⟩
  · rw [groupText, groupText, ← hbefore, List.intercalate_singleton, List.append_assoc]
  · exact { h with
      labels_ne_nil := by simp
      label_chars := by simpa using h.label_chars label hlast }

/-- Of a text in which a group stands behind a front without an opening parenthesis, which ends
where no label goes on, the expansion is the group's: its labels with each alternative behind them
in turn, in front of the rest. A text is without an expansion exactly if nowhere in it a label
stands right in front of some alternatives. -/
theorem expand?_group :
    (∀ lead labels names rest, '(' ∉ lead →
      (∀ c, lead.getLast? = some c → isNameChar c = false) → IsGroup labels names →
      expand? (lead ++ (groupText labels names ++ rest)) =
        some (names.map fun name => List.intercalate ['.'] labels ++ '.' :: (name ++ rest))) ∧
    ∀ body, expand? body = none ↔
      ¬∃ before label names after,
        body = before ++ (groupText [label] names ++ after) ∧ IsGroup [label] names := by
  refine ⟨?_, ?_⟩
  · intro lead labels names rest hopen hlast hgroup
    have hhere := expandHere?_eq_some_iff.2 ⟨labels, names, rest, rfl, hgroup, rfl⟩
    obtain ⟨c, t, ht⟩ : ∃ c t, groupText labels names ++ rest = c :: t := by
      refine List.exists_cons_of_ne_nil ?_
      simp [groupText]
    rw [expand?_append hopen hlast, ht, expand?, ← ht, hhere]
  · intro body
    rw [expand?_eq_none_iff_suffix]
    constructor
    · rintro hnone ⟨before, label, names, after, rfl, hgroup⟩
      have hhere := expandHere?_eq_some_iff.2 ⟨[label], names, after, rfl, hgroup, rfl⟩
      rw [hnone _ (List.suffix_append before _)] at hhere
      cases hhere
    · intro hnone after hafter
      refine Option.eq_none_iff_forall_ne_some.2 ?_
      intro expansion hhere
      obtain ⟨labels, names, rest, rfl, hgroup, -⟩ := expandHere?_eq_some_iff.1 hhere
      obtain ⟨front, rfl⟩ := hafter
      obtain ⟨before, label, htext, hlabel⟩ := hgroup.exists_last
      refine hnone ⟨front ++ before, label, names, rest, ?_, hlabel⟩
      rw [htext]
      simp

/-- Dots stand in a label's front and in an alternative, and the path holds a group of its own. -/
theorem expand?_group_address :
    '(' ∉ "|http://".toList ∧
    (∀ c, "|http://".toList.getLast? = some c → isNameChar c = false) ∧
    IsGroup ["my-site".toList, "co".toList] ["jp".toList, "k.r".toList] ∧
    expand? "|http://my-site.co.(jp|k.r)/x.(c|d)".toList =
      some ["my-site.co.jp/x.(c|d)".toList, "my-site.co.k.r/x.(c|d)".toList] := by
  have hopen : '(' ∉ "|http://".toList := by decide
  have hlast : ∀ c, "|http://".toList.getLast? = some c → isNameChar c = false := by
    intro c hc
    obtain rfl : '/' = c := Option.some.inj hc
    decide
  have hgroup : IsGroup ["my-site".toList, "co".toList] ["jp".toList, "k.r".toList] := by decide
  exact ⟨hopen, hlast, hgroup,
    expand?_group.1 "|http://".toList _ _ "/x.(c|d)".toList hopen hlast hgroup⟩

end PacRules.Domain
