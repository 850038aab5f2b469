import Mathlib.Data.List.DropRight
import Mathlib.Data.List.TakeWhile
import PacRules.Proofs.Text.Utf8
import PacRules.Text.Percent

/-!
# The front of a text

Trimming, cutting, substituting and decoding are done to a whole text. These lemmas say when
they leave the front of a text as it is and go on behind it: an end is trimmed no further than
the last character that is kept, a substitution passes over places where nothing matches, and
decoding passes over what has no percent sign.
-/

namespace PacRules.Text

/-! ### Trimming -/

theorem trimStart_of_not {p : Char → Bool} {c : Char} (h : p c = false) (t : Text) :
    trimStart p (c :: t) = c :: t := by
  simp [trimStart, h]

theorem trimStart_append_of_all {p : Char → Bool} {front : Text} (h : ∀ c ∈ front, p c = true)
    (t : Text) : trimStart p (front ++ t) = trimStart p t :=
  List.dropWhile_append_of_pos h

theorem exists_trimStart_cons {p : Char → Bool} {t : Text} {c : Char} (hc : c ∈ t)
    (h : p c = false) : ∃ d rest, trimStart p t = d :: rest ∧ p d = false := by
  induction t with
  | nil => cases hc
  | cons e t ih =>
      cases he : p e with
      | true =>
          have hne : c ≠ e := by
            rintro rfl
            simp [h] at he
          obtain ⟨d, rest, hstart, hd⟩ := ih ((List.mem_cons.1 hc).resolve_left hne)
          exact ⟨d, rest, by simpa [trimStart, he] using hstart, hd⟩
      | false => exact ⟨e, t, trimStart_of_not he t, he⟩

/-- Nothing in front of a character that is kept is trimmed from the end. -/
theorem trimEnd_append_cons {p : Char → Bool} {c : Char} (h : p c = false) (front t : Text) :
    trimEnd p (front ++ c :: t) = front ++ c :: trimEnd p t := by
  have hrev : (front ++ c :: t).reverse = t.reverse ++ (c :: front.reverse) := by simp
  rw [trimEnd, hrev, List.dropWhile_append]
  split
  · next hempty =>
      have htrim : trimEnd p t = [] := by simpa [trimEnd] using hempty
      rw [htrim]
      simp [h]
  · simp [trimEnd]

theorem trimEnd_append_singleton {p : Char → Bool} {c : Char} (h : p c = false) (front : Text) :
    trimEnd p (front ++ [c]) = front ++ [c] := by
  simpa using trimEnd_append_cons h front []

/-- A text whose last character is kept is not trimmed at the end. -/
theorem trimEnd_eq_self {p : Char → Bool} {t : Text} (h : ∀ c, t.getLast? = some c → p c = false) :
    trimEnd p t = t := by
  rcases List.eq_nil_or_concat t with rfl | ⟨front, c, rfl⟩
  · rfl
  · rw [List.concat_eq_append] at h ⊢
    exact trimEnd_append_singleton (h c (by simp)) front

theorem head?_of_head?_trimEnd {p : Char → Bool} {t : Text} {c : Char}
    (h : (trimEnd p t).head? = some c) : t.head? = some c := by
  obtain ⟨rest, hrest⟩ : trimEnd p t <+: t := List.rdropWhile_prefix p t
  rw [← hrest, List.head?_append, h]
  rfl

theorem trimStart_eq_self {p : Char → Bool} {t : Text} (h : ∀ c, t.head? = some c → p c = false) :
    trimStart p t = t := by
  cases t with
  | nil => rfl
  | cons c t => exact trimStart_of_not (h c rfl) t

theorem exists_trimStart_eq (c : Char) (t : Text) :
    ∃ n, t = List.replicate n c ++ trimStart (· = c) t := by
  refine ⟨(t.takeWhile (· = c)).length, ?_⟩
  have hrun : t.takeWhile (· = c) = List.replicate (t.takeWhile (· = c)).length c := by
    refine List.eq_replicate_iff.2 ⟨rfl, ?_⟩
    intro d hd
    simpa using List.mem_takeWhile_imp hd
  rw [← hrun]
  exact List.takeWhile_append_dropWhile.symm

theorem trimStart_replicate_append {p : Char → Bool} {c : Char} (h : p c = true) (n : Nat)
    (t : Text) : trimStart p (List.replicate n c ++ t) = trimStart p t :=
  trimStart_append_of_all (fun d hd => by rw [List.eq_of_mem_replicate hd, h]) t

theorem trimStart_replicate_of_not {p : Char → Bool} {c : Char} (h : p c = false) (n : Nat)
    (t : Text) (ht : trimStart p t = t) :
    trimStart p (List.replicate n c ++ t) = List.replicate n c ++ t := by
  cases n with
  | zero => exact ht
  | succ n => exact trimStart_of_not h _

theorem trimEnd_append_of_all {p : Char → Bool} {outer : Text} (h : ∀ c ∈ outer, p c = true)
    (t : Text) : trimEnd p (t ++ outer) = trimEnd p t := by
  rw [trimEnd_eq_reverse, List.reverse_append, trimStart_append_of_all, trimEnd_eq_reverse]
  intro c hc
  exact h c (List.mem_reverse.1 hc)

theorem exists_trimEnd_append (p : Char → Bool) (t : Text) :
    ∃ outer, t = trimEnd p t ++ outer ∧ ∀ c ∈ outer, p c = true := by
  refine ⟨(t.reverse.takeWhile p).reverse, ?_, ?_⟩
  · rw [trimEnd, ← List.reverse_append, List.takeWhile_append_dropWhile, List.reverse_reverse]
  · intro c hc
    exact List.mem_takeWhile_imp (List.mem_reverse.1 hc)

theorem trimStart_sublist (p : Char → Bool) (t : Text) : (trimStart p t).Sublist t :=
  List.dropWhile_sublist p

theorem trimEnd_sublist (p : Char → Bool) (t : Text) : (trimEnd p t).Sublist t :=
  (List.rdropWhile_prefix p t).sublist

/-- More of what is trimmed makes no difference at either end. -/
theorem trim_append {p : Char → Bool} {front back : Text} (hfront : ∀ c ∈ front, p c = true)
    (hback : ∀ c ∈ back, p c = true) (t : Text) : trim p (front ++ (t ++ back)) = trim p t := by
  rw [trim, trim, trimStart_append_of_all hfront, trimStart, trimStart, List.dropWhile_append]
  split
  · next hempty =>
      have hback : back.dropWhile p = [] := List.dropWhile_eq_nil_iff.2 hback
      rw [hback, List.isEmpty_iff.1 hempty]
  · exact trimEnd_append_of_all hback _

theorem trim_sublist (p : Char → Bool) (t : Text) : (trim p t).Sublist t :=
  (trimEnd_sublist p _).trans (trimStart_sublist p t)

theorem exists_trim_append (p : Char → Bool) (t : Text) :
    ∃ front back, t = front ++ (trim p t ++ back) ∧
      (∀ c ∈ front, p c = true) ∧ ∀ c ∈ back, p c = true := by
  obtain ⟨back, hback, hall⟩ := exists_trimEnd_append p (trimStart p t)
  refine ⟨t.takeWhile p, back, ?_, fun _ hc => List.mem_takeWhile_imp hc, hall⟩
  rw [trim, ← hback]
  exact List.takeWhile_append_dropWhile.symm

/-- What has been trimmed is not trimmed further. -/
theorem trim_trim (p : Char → Bool) (t : Text) : trim p (trim p t) = trim p t := by
  obtain ⟨front, back, heq, hfront, hback⟩ := exists_trim_append p t
  calc trim p (trim p t) = trim p (front ++ (trim p t ++ back)) :=
        (trim_append hfront hback _).symm
    _ = trim p t := by rw [← heq]

/-! ### Runs -/

theorem run?_eq_some {p : Char → Bool} {t run rest : Text} (h : run? p t = some (run, rest)) :
    t = run ++ rest ∧ run ≠ [] ∧ ∀ c ∈ run, p c = true := by
  unfold run? at h
  split at h
  · cases h
  · next hne =>
      cases h
      refine ⟨List.takeWhile_append_dropWhile.symm, hne, ?_⟩
      intro c hc
      exact List.mem_takeWhile_imp hc

/-- Characters of a class are parted from what follows them at the first one outside it. -/
theorem span_append {p : Char → Bool} {run rest : Text} (hrun : ∀ c ∈ run, p c = true)
    (hrest : ∀ c, rest.head? = some c → p c = false) :
    (run ++ rest).takeWhile p = run ∧ (run ++ rest).dropWhile p = rest := by
  rw [List.takeWhile_append_of_pos hrun, List.dropWhile_append_of_pos hrun]
  cases rest with
  | nil => simp
  | cons c rest => simp [hrest c rfl]

theorem span_append_cons {p : Char → Bool} {run : Text} {stop : Char} (hrun : ∀ c ∈ run, p c = true)
    (hstop : p stop = false) (t : Text) :
    (run ++ stop :: t).takeWhile p = run ∧ (run ++ stop :: t).dropWhile p = stop :: t := by
  refine span_append hrun fun c hc => ?_
  rwa [← Option.some.inj hc]

theorem run?_append {p : Char → Bool} {run rest : Text} (hne : run ≠ [])
    (hrun : ∀ c ∈ run, p c = true) (hrest : ∀ c, rest.head? = some c → p c = false) :
    run? p (run ++ rest) = some (run, rest) := by
  have hspan := span_append hrun hrest
  rw [run?, hspan.1, hspan.2]
  cases run with
  | nil => exact absurd rfl hne
  | cons c run => rfl

/-- A character outside the class ends a run at the latest. -/
theorem run?_append_cons {p : Char → Bool} {stop : Char} (h : p stop = false) (front t : Text) :
    run? p (front ++ stop :: t) =
      (run? p front).map fun (run, rest) => (run, rest ++ stop :: t) := by
  have hspan : (front ++ stop :: t).takeWhile p = front.takeWhile p ∧
      (front ++ stop :: t).dropWhile p = front.dropWhile p ++ stop :: t := by
    induction front with
    | nil => simp [h]
    | cons c front ih => cases hc : p c <;> simp [hc, ih]
  rw [run?, run?, hspan.1, hspan.2]
  cases front.takeWhile p with
  | nil => rfl
  | cons c run => rfl

/-- A character that stands behind text without the stop stands in front of the stop. -/
theorem mem_front_of_append_eq {stop d : Char} {front t before rest : Text}
    (heq : front ++ stop :: t = before ++ d :: rest) (hstop : stop ∉ before) (hne : d ≠ stop) :
    d ∈ front := by
  rcases List.append_eq_append_iff.1 heq with ⟨more, hbefore, hrest⟩ | ⟨more, hfront, hrest⟩
  · cases more with
    | nil => exact absurd (List.cons.inj hrest).1.symm hne
    | cons a more =>
        refine absurd ?_ hstop
        rw [hbefore, (List.cons.inj hrest).1]
        simp
  · cases more with
    | nil => exact absurd (List.cons.inj hrest).1 hne
    | cons a more =>
        rw [hfront, (List.cons.inj hrest).1]
        simp

/-- A run that starts in `front` ends at the latest in front of the stop behind it, so a
character that is neither in `front` nor the stop does not follow it. -/
theorem run?_ne_of_not_mem {p : Char → Bool} {stop d : Char} {front : Text} (hstop : p stop = false)
    (hd : d ∉ front) (hne : d ≠ stop) (t run rest : Text) :
    run? p (front ++ stop :: t) ≠ some (run, d :: rest) := by
  intro h
  obtain ⟨heq, -, hall⟩ := run?_eq_some h
  refine hd (mem_front_of_append_eq heq ?_ hne)
  intro hmem
  simp [hall stop hmem] at hstop

theorem any_eq_false_iff {c : Char} {t : Text} : (t.any (· = c)) = false ↔ c ∉ t := by
  simp [List.any_eq_false, List.forall_mem_ne']

/-! ### Cutting -/

theorem isPrefixOf?_append (front t : Text) : List.isPrefixOf? front (front ++ t) = some t :=
  List.isPrefixOf?_eq_some_iff_append_eq.2 rfl

theorem isPrefixOf?_eq_none_iff {front t : Text} :
    List.isPrefixOf? front t = none ↔ ¬front <+: t := by
  rw [Option.eq_none_iff_forall_ne_some, List.IsPrefix, not_exists]
  exact forall_congr' fun rest => not_congr List.isPrefixOf?_eq_some_iff_append_eq

theorem isPrefixOf?_cons_of_ne {a b : Char} (h : a ≠ b) (front t : Text) :
    List.isPrefixOf? (a :: front) (b :: t) = none := by
  simp [List.isPrefixOf?, h]

theorem isPrefixOf?_cons_of_head?_ne {a : Char} {t : Text} (h : t.head? ≠ some a) (front : Text) :
    List.isPrefixOf? (a :: front) t = none := by
  cases t with
  | nil => rfl
  | cons b t => exact isPrefixOf?_cons_of_ne (fun hab => h (congrArg some hab.symm)) front t

theorem isSuffixOf?_append (t ending : Text) : List.isSuffixOf? ending (t ++ ending) = some t :=
  List.isSuffixOf?_eq_some_iff_append_eq.2 rfl

theorem eq_append_of_cut? {pattern t before after : Text}
    (h : cut? pattern t = some (before, after)) : t = before ++ pattern ++ after := by
  induction t generalizing before with
  | nil =>
      obtain ⟨rest, hrest, heq⟩ := Option.map_eq_some_iff.1 h
      cases heq
      simpa using (List.isPrefixOf?_eq_some_iff_append_eq.1 hrest).symm
  | cons c t ih =>
      rw [cut?] at h
      split at h
      · next rest hrest =>
          cases h
          simpa using (List.isPrefixOf?_eq_some_iff_append_eq.1 hrest).symm
      · obtain ⟨⟨b, a⟩, hba, heq⟩ := Option.map_eq_some_iff.1 h
        cases heq
        rw [ih hba]
        simp

theorem cut?_singleton_append {c : Char} {front : Text} (h : c ∉ front) (t : Text) :
    cut? [c] (front ++ c :: t) = some (front, t) := by
  induction front with
  | nil => simp [cut?, List.isPrefixOf?]
  | cons a front ih =>
      rw [List.mem_cons, not_or] at h
      rw [List.cons_append, cut?, isPrefixOf?_cons_of_ne h.1, ih h.2]
      rfl

theorem cut?_eq_none_of_not_mem {c : Char} {pattern t : Text} (hc : c ∈ pattern) (h : c ∉ t) :
    cut? pattern t = none := by
  refine Option.eq_none_iff_forall_ne_some.2 ?_
  rintro ⟨before, after⟩ hcut
  apply h
  rw [eq_append_of_cut? hcut]
  simp [hc]

/-- A text is cut at a character exactly where that stands for the first time. -/
theorem cut?_singleton_eq_some_iff {c : Char} {t before after : Text} :
    cut? [c] t = some (before, after) ↔ t = before ++ c :: after ∧ c ∉ before := by
  constructor
  · intro hcut
    by_cases hc : c ∈ t
    · obtain ⟨front, rest, rfl, hfront⟩ := List.eq_append_cons_of_mem hc
      rw [cut?_singleton_append hfront, Option.some.injEq, Prod.mk.injEq] at hcut
      obtain ⟨rfl, rfl⟩ := hcut
      exact ⟨rfl, hfront⟩
    · rw [cut?_eq_none_of_not_mem (List.mem_singleton_self c) hc] at hcut
      cases hcut
  · rintro ⟨rfl, hbefore⟩
    exact cut?_singleton_append hbefore after

theorem contains_eq_false_of_not_mem {c : Char} {pattern t : Text} (hc : c ∈ pattern)
    (h : c ∉ t) : contains pattern t = false := by
  rw [contains, cut?_eq_none_of_not_mem hc h]
  rfl

/-- A pattern of two characters is not found in a front without its second one. -/
theorem contains_pair_append {a b c : Char} {front : Text} (hb : b ∉ front) (hc : b ≠ c)
    (ha : a ≠ c) (t : Text) : contains [a, b] (front ++ c :: t) = contains [a, b] t := by
  have hskip : ∀ d rest, List.isPrefixOf? [a, b] (d :: rest) = none →
      contains [a, b] (d :: rest) = contains [a, b] rest := by
    intro d rest hnone
    rw [contains, cut?, hnone, contains]
    exact Option.isSome_map
  induction front with
  | nil => exact hskip c t (isPrefixOf?_cons_of_ne ha [b] t)
  | cons d front ih =>
      rw [List.mem_cons, not_or] at hb
      rw [List.cons_append, hskip, ih hb.2]
      cases front with
      | nil => simp [List.isPrefixOf?, hc]
      | cons e front =>
          have he : b ≠ e := List.ne_of_not_mem_cons hb.2
          simp [List.isPrefixOf?, he]

/-! ### Splitting -/

theorem mem_intercalate_of_mem {separator c : Char} {pieces : List Text} {piece : Text}
    (hpiece : piece ∈ pieces) (hc : c ∈ piece) : c ∈ List.intercalate [separator] pieces := by
  induction pieces with
  | nil => cases hpiece
  | cons first pieces ih =>
      cases pieces with
      | nil =>
          obtain rfl := List.mem_singleton.1 hpiece
          rwa [List.intercalate_singleton]
      | cons next pieces =>
          rw [List.intercalate_cons_cons, List.append_assoc, List.mem_append]
          rcases List.mem_cons.1 hpiece with rfl | hpiece
          · exact .inl hc
          · exact .inr (List.mem_append_right _ (ih hpiece))

theorem eq_or_mem_of_mem_intercalate {separator c : Char} {pieces : List Text}
    (h : c ∈ List.intercalate [separator] pieces) :
    c = separator ∨ ∃ piece ∈ pieces, c ∈ piece := by
  induction pieces with
  | nil => cases h
  | cons first pieces ih =>
      cases pieces with
      | nil =>
          rw [List.intercalate_singleton] at h
          exact .inr ⟨first, List.mem_cons_self, h⟩
      | cons next pieces =>
          rw [List.intercalate_cons_cons, List.mem_append, List.mem_append,
            List.mem_singleton] at h
          rcases h with (h | h) | h
          · exact .inr ⟨first, List.mem_cons_self, h⟩
          · exact .inl h
          · refine (ih h).imp_right ?_
            rintro ⟨piece, hpiece, hc⟩
            exact ⟨piece, List.mem_cons_of_mem first hpiece, hc⟩

/-- A character of a text is the separator or stands in a piece. -/
theorem eq_or_mem_splitOn (separator : Char) {c : Char} {t : Text} (h : c ∈ t) :
    c = separator ∨ ∃ piece ∈ List.splitOn separator t, c ∈ piece := by
  have hjoined : List.intercalate [separator] (List.splitOn separator t) = t :=
    List.intercalate_splitOn separator
  rw [← hjoined] at h
  exact eq_or_mem_of_mem_intercalate h

theorem mem_of_mem_splitOn {separator c : Char} {t piece : Text}
    (hpiece : piece ∈ List.splitOn separator t) (hc : c ∈ piece) : c ∈ t := by
  have hmem : c ∈ List.intercalate [separator] (List.splitOn separator t) :=
    mem_intercalate_of_mem hpiece hc
  rwa [List.intercalate_splitOn] at hmem

theorem not_mem_of_mem_splitOn {separator : Char} {t piece : Text}
    (h : piece ∈ List.splitOn separator t) : separator ∉ piece := by
  induction t generalizing piece with
  | nil =>
      obtain rfl : piece = [] := by simpa using h
      exact List.not_mem_nil
  | cons c t ih =>
      obtain ⟨first, pieces, hsplit⟩ :=
        List.exists_cons_of_ne_nil (List.splitOn_ne_nil separator t)
      rw [List.splitOn_cons_eq_if_modifyHead, hsplit] at h
      rw [hsplit] at ih
      split at h
      · rcases List.mem_cons.1 h with rfl | h
        · exact List.not_mem_nil
        · exact ih h
      · next hc =>
          rcases List.mem_cons.1 h with rfl | h
          · have hne : c ≠ separator := by simpa using hc
            exact List.not_mem_cons_of_ne_of_not_mem hne.symm (ih List.mem_cons_self)
          · exact ih (List.mem_cons_of_mem first h)

/-! ### Substituting -/

/-- A substitution passes over a front in which no match begins. -/
theorem substitute_append {m : Matcher} {front t : Text}
    (h : ∀ c rest, c :: rest <:+ front → m (c :: (rest ++ t)) = none) :
    substitute m (front ++ t) = front ++ substitute m t := by
  induction front with
  | nil => rfl
  | cons c front ih =>
      have hhead := h c front (List.suffix_refl _)
      have htail := ih fun d rest hrest => h d rest (hrest.trans (List.suffix_cons c front))
      rw [List.cons_append, substitute_cons_of_eq_none hhead, htail, List.cons_append]

theorem substitute_eq_self {m : Matcher} {t : Text}
    (h : ∀ c rest, c :: rest <:+ t → m (c :: rest) = none) : substitute m t = t := by
  have happ : substitute m (t ++ []) = t ++ substitute m [] := substitute_append (by simpa using h)
  simpa using happ

/-- A match of a fixed pattern asks for its first two characters. -/
theorem literal_eq_none {a b c : Char} {pattern new t : Text} (h : t.head? ≠ some b) :
    literal (a :: b :: pattern) new (c :: t) = none := by
  cases t with
  | nil => simp [literal]
  | cons d t =>
      have hd : b ≠ d := by
        rintro rfl
        exact h rfl
      simp [literal, hd]

theorem replace_cons_of_ne {a c : Char} (hc : a ≠ c) (pattern new t : Text) :
    replace (a :: pattern) new (c :: t) = c :: replace (a :: pattern) new t := by
  have hmatch : literal (a :: pattern) new (c :: t) = none := by
    simp [literal, hc]
  rw [replace, substitute_cons_of_eq_none hmatch]
  rfl

theorem replace_cons_of_head? {a b c : Char} {t : Text} (h : t.head? ≠ some b)
    (pattern new : Text) :
    replace (a :: b :: pattern) new (c :: t) = c :: replace (a :: b :: pattern) new t :=
  substitute_cons_of_eq_none (literal_eq_none h)

/-- A pattern in front is replaced, and what stands behind it is looked at on its own. -/
theorem replace_append_self (a : Char) (pattern new t : Text) :
    replace (a :: pattern) new (a :: pattern ++ t) = new ++ replace (a :: pattern) new t := by
  have hmatch : literal (a :: pattern) new (a :: (pattern ++ t)) = some (pattern.length, new) := by
    simp [literal]
  rw [replace, List.cons_append, substitute_cons_of_eq_some hmatch, List.drop_left]
  rfl

/-! ### Decoding -/

theorem percentOctets_cons_of_ne {c : Char} (h : c ≠ '%') (t : Text) :
    percentOctets (c :: t) = String.utf8EncodeChar c ++ percentOctets t := by
  rw [percentOctets]
  rintro a b rest rfl
  exact absurd rfl h

/-- A front without a percent sign is decoded to itself. -/
theorem percentDecoded_append {front : Text} (h : '%' ∉ front) (t : Text) :
    percentDecoded (front ++ t) = front ++ percentDecoded t := by
  induction front with
  | nil => rfl
  | cons c front ih =>
      rw [List.mem_cons, not_or] at h
      rw [List.cons_append, percentDecoded, percentOctets_cons_of_ne (Ne.symm h.1),
        ofUtf8Lossy_append]
      exact congrArg (c :: ·) (ih h.2)

theorem percentDecoded_eq_self {t : Text} (h : '%' ∉ t) : percentDecoded t = t := by
  simpa [percentDecoded, percentOctets, ofUtf8Lossy, utf8Items, utf8ItemsFrom] using
    percentDecoded_append h []

end PacRules.Text
