import PacRules.Domain.OfRule
import PacRules.Proofs.Text.CodePoints
import PacRules.Proofs.Text.Front

/-!
# Hosts that addresses hold as they are

A named host is written with two labels or more over small letters, figures and hyphens. It is
a web host if its last label begins with a letter and none of its labels is an encoded one:
then it is neither an IPv4 address nor a name that has to be decoded, and a web address with
such a host has exactly this host, whatever path it has.
-/

namespace PacRules.Host

open PacRules.Text PacRules.Domain

/-- The characters of a label of a named host. -/
def isHostChar (c : Char) : Bool := isRunChar c || c = '-'

/-- Two labels or more, none of them empty, over small letters, figures and hyphens. -/
structure IsNamedHost (h : Text) : Prop where
  two_le_labels : 2 ≤ (List.splitOn '.' h).length
  label_ne_nil : ∀ label ∈ List.splitOn '.' h, label ≠ []
  label_chars : ∀ label ∈ List.splitOn '.' h, ∀ c ∈ label, isHostChar c = true

/-- A named host that is neither an address in figures nor holds an encoded label. -/
structure IsWebHost (h : Text) : Prop extends IsNamedHost h where
  last_letter : ((List.splitOn '.' h).getLast?.bind List.head?).any Char.isLower = true
  not_encoded : ∀ label ∈ List.splitOn '.' h, List.isPrefixOf encodedPrefix label = false

/-- The check that a host is a web host. -/
def isWebHost (h : Text) : Bool :=
  2 ≤ (List.splitOn '.' h).length &&
    (List.splitOn '.' h).all (fun label =>
      !label.isEmpty && label.all isHostChar && !List.isPrefixOf encodedPrefix label) &&
    ((List.splitOn '.' h).getLast?.bind List.head?).any Char.isLower

theorem isWebHost_iff {h : Text} : isWebHost h = true ↔ IsWebHost h := by
  simp only [isWebHost, Bool.and_eq_true, decide_eq_true_eq, List.all_eq_true,
    Bool.not_eq_true', List.isEmpty_eq_false_iff]
  constructor
  · rintro ⟨⟨htwo, hlabels⟩, hletter⟩
    exact ⟨⟨htwo, fun label hlabel => (hlabels label hlabel).1.1,
      fun label hlabel => (hlabels label hlabel).1.2⟩, hletter,
      fun label hlabel => (hlabels label hlabel).2⟩
  · intro hh
    exact ⟨⟨hh.two_le_labels, fun label hlabel => ⟨⟨hh.label_ne_nil label hlabel,
      hh.label_chars label hlabel⟩, hh.not_encoded label hlabel⟩⟩, hh.last_letter⟩

instance (h : Text) : Decidable (IsWebHost h) := decidable_of_iff _ isWebHost_iff

/-! ### Characters -/

/-- The characters of a named host: the host characters and the dot. -/
def isNamedChar (c : Char) : Bool := isHostChar c || c = '.'

theorem isNamedChar_of_isHostChar {c : Char} (h : isHostChar c = true) : isNamedChar c = true := by
  simp [isNamedChar, h]

theorem toNat_lt_of_isNamedChar {c : Char} (h : isNamedChar c = true) : c.toNat < 123 := by
  simp only [isNamedChar, isHostChar, isRunChar, Bool.or_eq_true, decide_eq_true_eq] at h
  rcases h with ((h | h) | rfl) | rfl
  · have hle : c ≤ 'z' := of_decide_eq_true (Bool.and_eq_true_iff.1 h).2
    exact Nat.lt_of_le_of_lt (UInt32.le_iff_toNat_le.1 hle) (by decide)
  · have hle : c ≤ '9' := of_decide_eq_true (Bool.and_eq_true_iff.1 h).2
    exact Nat.lt_of_le_of_lt (UInt32.le_iff_toNat_le.1 hle) (by decide)
  · decide
  · decide

/-- What holds of every named character below 123 holds of all of them. -/
theorem forall_namedChar {P : Char → Prop}
    (h : ∀ n < 123, isNamedChar (Char.ofNat n) = true → P (Char.ofNat n)) {c : Char}
    (hc : isNamedChar c = true) : P c :=
  forall_char_lt (P := fun c => isNamedChar c = true → P c) h (toNat_lt_of_isNamedChar hc) hc

theorem toLower_namedChar {c : Char} (hc : isNamedChar c = true) : c.toLower = c :=
  forall_namedChar (P := fun c => c.toLower = c) (by decide) hc

theorem isForbidden_namedChar {c : Char} (hc : isNamedChar c = true) : isForbidden c = false :=
  forall_namedChar (P := fun c => isForbidden c = false) (by decide) hc

theorem space_lt_namedChar {c : Char} (hc : isNamedChar c = true) : ' ' < c :=
  forall_namedChar (P := fun c => ' ' < c) (by decide) hc

theorem endsAuthority_namedChar {c : Char} (hc : isNamedChar c = true) :
    endsAuthority c = false :=
  forall_namedChar (P := fun c => endsAuthority c = false) (by decide) hc

theorem not_digit_of_isLower {c : Char} (hc : c.isLower = true) :
    c.isDigit = false ∧ isDigitOf 10 c = false := by
  have hnamed : isNamedChar c = true := by simp [isNamedChar, isHostChar, isRunChar, hc]
  exact forall_namedChar
    (P := fun c => c.isLower = true → c.isDigit = false ∧ isDigitOf 10 c = false) (by decide)
    hnamed hc

namespace IsNamedHost

variable {h : Text}

theorem chars (hh : IsNamedHost h) {c : Char} (hc : c ∈ h) : isNamedChar c = true := by
  rcases eq_or_mem_splitOn '.' hc with rfl | ⟨label, hlabel, hc⟩
  · rfl
  · simp [isNamedChar, hh.label_chars label hlabel c hc]

theorem not_mem (hh : IsNamedHost h) {c : Char} (hc : isNamedChar c = false) : c ∉ h := by
  intro hmem
  simp [hh.chars hmem] at hc

theorem ascii (hh : IsNamedHost h) {c : Char} (hc : c ∈ h) : c.toNat < 0x80 :=
  Nat.lt_trans (toNat_lt_of_isNamedChar (hh.chars hc)) (by decide)

/-- The first label, the dot behind it and the rest, which has a label. -/
theorem exists_first (hh : IsNamedHost h) :
    ∃ first rest, first ≠ [] ∧ (∀ c ∈ first, isHostChar c = true) ∧ rest ≠ [] ∧
      h = first ++ '.' :: List.intercalate ['.'] rest ∧ List.splitOn '.' h = first :: rest := by
  have hlabels : List.intercalate ['.'] (List.splitOn '.' h) = h := List.intercalate_splitOn '.'
  have htwo := hh.two_le_labels
  match hsplit : List.splitOn '.' h with
  | [] => simp [hsplit] at htwo
  | [_] => simp [hsplit] at htwo
  | first :: second :: rest =>
      have hmem : first ∈ List.splitOn '.' h := by simp [hsplit]
      rw [hsplit, List.intercalate_cons_cons, List.append_assoc, List.singleton_append] at hlabels
      exact ⟨first, second :: rest, hh.label_ne_nil first hmem, hh.label_chars first hmem,
        by simp, hlabels.symm, rfl⟩

theorem exists_cons (hh : IsNamedHost h) : ∃ c t, h = c :: t ∧ isHostChar c = true := by
  obtain ⟨first, rest, hne, hchars, -, heq, -⟩ := hh.exists_first
  obtain ⟨c, label, rfl⟩ := List.exists_cons_of_ne_nil hne
  exact ⟨c, _, heq, hchars c List.mem_cons_self⟩

theorem dot_mem (hh : IsNamedHost h) : '.' ∈ h := by
  obtain ⟨first, rest, -, -, -, heq, -⟩ := hh.exists_first
  rw [heq]
  simp

end IsNamedHost

/-! ### Addresses -/

theorem splitAtColon_of_not_mem {t : Text} (hcolon : ':' ∉ t) (hbracket : '[' ∉ t) :
    splitAtColon false t = (t, []) := by
  induction t with
  | nil => rfl
  | cons c t ih =>
      rw [List.mem_cons, not_or] at hcolon hbracket
      have hc : c ≠ ':' := Ne.symm hcolon.1
      have hc' : c ≠ '[' := Ne.symm hbracket.1
      rw [splitAtColon]
      simp [hc, hc', ih hcolon.2 hbracket.2]

theorem afterUser_of_not_mem {authority : Text} (h : '@' ∉ authority) :
    afterUser authority = authority := by
  have hall : authority.reverse.takeWhile (· ≠ '@') = authority.reverse := by
    refine List.takeWhile_eq_self_iff.2 ?_
    intro c hc
    rw [List.mem_reverse] at hc
    simpa using ne_of_mem_of_not_mem hc h
  rw [afterUser, hall, List.reverse_reverse]

/-- Tabs, line ends and trailing blanks are taken out behind a visible front only. -/
theorem withoutLayout_append {front : Text} (h : ∀ c ∈ front, ' ' < c) (path : Text) :
    ∃ path', withoutLayout (front ++ '/' :: path) = front ++ '/' :: path' := by
  refine ⟨(trimEnd (· ≤ ' ') path).filter fun c => c ≠ '\t' && c ≠ '\n' && c ≠ '\r', ?_⟩
  have hkept : (front.filter fun c => c ≠ '\t' && c ≠ '\n' && c ≠ '\r') = front := by
    refine List.filter_eq_self.2 ?_
    intro c hc
    have hvisible := h c hc
    have hne : ∀ d : Char, d ≤ ' ' → c ≠ d := by
      rintro d hd rfl
      exact absurd hvisible (Char.not_lt.2 hd)
    simp [hne '\t' (by decide), hne '\n' (by decide), hne '\r' (by decide)]
  rw [withoutLayout, trimEnd_append_cons (by decide), List.filter_append, hkept]
  simp

namespace IsWebHost

variable {h : Text}

theorem exists_last (hh : IsWebHost h) :
    ∃ c label, (List.splitOn '.' h).getLast? = some (c :: label) ∧ c.isLower = true := by
  have hletter := hh.last_letter
  cases hlast : (List.splitOn '.' h).getLast? with
  | none => simp [hlast] at hletter
  | some label =>
      cases label with
      | nil => simp [hlast] at hletter
      | cons c label => exact ⟨c, label, rfl, by simpa [hlast] using hletter⟩

theorem endsInNumber_eq_false (hh : IsWebHost h) : Ipv4.endsInNumber h = false := by
  obtain ⟨c, label, hlast, hc⟩ := hh.exists_last
  have hdigit := (not_digit_of_isLower hc).2
  have hzero : c ≠ '0' := by
    rintro rfl
    simp at hc
  have hnumber : Ipv4.number? (c :: label) = none := by simp [Ipv4.number?, hzero, hdigit]
  simp [Ipv4.endsInNumber, Ipv4.parts, hlast, hdigit, hnumber]

theorem isDottedQuad_eq_false (hh : IsWebHost h) : isDottedQuad h = false := by
  obtain ⟨c, label, hlast, hc⟩ := hh.exists_last
  by_contra hquad
  simp only [isDottedQuad, Bool.not_eq_false, Bool.and_eq_true, List.all_eq_true] at hquad
  have hdigits := (hquad.2 (c :: label) (List.mem_of_getLast? hlast)).2
  have hdigit := hdigits c List.mem_cons_self
  simp [(not_digit_of_isLower hc).1] at hdigit

theorem isPlainAscii (hh : IsWebHost h) : isPlainAscii h = true := by
  have hascii : h.all isAscii = true := by
    refine List.all_eq_true.2 ?_
    intro c hc
    simpa [isAscii] using hh.ascii hc
  have hlower : ∀ label ∈ List.splitOn '.' h, label.map Char.toLower = label := by
    intro label hlabel
    have hchars := hh.label_chars label hlabel
    have hmap := List.map_congr_left fun c hc =>
      toLower_namedChar (isNamedChar_of_isHostChar (hchars c hc))
    rw [hmap, List.map_id']
  have hlabels : (List.splitOn '.' h).all (fun label =>
      !List.isPrefixOf encodedPrefix (label.map Char.toLower)) = true := by
    refine List.all_eq_true.2 ?_
    intro label hlabel
    rw [hlower label hlabel, hh.not_encoded label hlabel]
    rfl
  rw [Host.isPlainAscii, hascii, hlabels]
  rfl

theorem asciiName?_eq (hh : IsWebHost h) : asciiName? h = some h := by
  have hlower : h.map Char.toLower = h := by
    rw [List.map_congr_left fun c hc => toLower_namedChar (hh.chars hc), List.map_id']
  have hallowed : h.any isForbidden = false := by
    refine List.any_eq_false.2 ?_
    intro c hc
    simp [isForbidden_namedChar (hh.chars hc)]
  simp [asciiName?, uncheckedAscii?, hh.isPlainAscii, hlower, hallowed]

theorem writtenHost_eq (hh : IsWebHost h) : writtenHost h = .ok h := by
  have hdecoded : percentDecoded h = h := percentDecoded_eq_self (hh.not_mem (by decide))
  have hname := hh.asciiName?_eq
  have hnumber := hh.endsInNumber_eq_false
  obtain ⟨c, t, rfl, hc⟩ := hh.exists_cons
  have hbracket : c ≠ '[' := by
    rintro rfl
    simp [isHostChar, isRunChar] at hc
  rw [writtenHost]
  · simp [hdecoded, hname, hnumber]
  · simp
  · rintro bracketed hcons
    exact hbracket (List.cons.inj hcons).1

theorem hostOfAuthority_eq (hh : IsWebHost h) : hostOfAuthority h = .ok h := by
  have huser : afterUser h = h := afterUser_of_not_mem (hh.not_mem (by decide))
  have hcolon := splitAtColon_of_not_mem (hh.not_mem (c := ':') (by decide))
    (hh.not_mem (c := '[') (by decide))
  simp [hostOfAuthority, huser, hcolon, hh.writtenHost_eq, numberAllowed, bind, Except.bind]

/-- What begins in a label with a run that the label ends behind is a web host too. -/
theorem of_append {before run rest : Text} (hh : IsWebHost (before ++ (run ++ '.' :: rest)))
    (hne : run ≠ []) (hrun : ∀ c ∈ run, isRunChar c = true) : IsWebHost (run ++ '.' :: rest) := by
  have hdot : '.' ∉ run := fun hmem => absurd (hrun '.' hmem) (by decide)
  have hhyphen : '-' ∉ run := fun hmem => absurd (hrun '-' hmem) (by decide)
  have hlabels := List.splitOn_append_cons_self_of_not_mem hdot rest
  have hwhole : List.splitOn '.' (before ++ (run ++ '.' :: rest)) =
      List.splitOn '.' (before ++ run) ++ List.splitOn '.' rest := by
    rw [← List.append_assoc, List.splitOn_append_cons_self]
  have hrest : ∀ label ∈ List.splitOn '.' rest,
      label ∈ List.splitOn '.' (before ++ (run ++ '.' :: rest)) := by
    intro label hlabel
    rw [hwhole]
    exact List.mem_append_right _ hlabel
  obtain ⟨first, others, hfirst⟩ := List.exists_cons_of_ne_nil (List.splitOn_ne_nil '.' rest)
  refine ⟨⟨?_, ?_, ?_⟩, ?_, ?_⟩
  · simp [hlabels, hfirst]
  · intro label hlabel
    rw [hlabels, List.mem_cons] at hlabel
    rcases hlabel with rfl | hlabel
    · exact hne
    · exact hh.label_ne_nil label (hrest label hlabel)
  · intro label hlabel c hc
    rw [hlabels, List.mem_cons] at hlabel
    rcases hlabel with rfl | hlabel
    · simp [isHostChar, hrun c hc]
    · exact hh.label_chars label (hrest label hlabel) c hc
  · have hletter := hh.last_letter
    rw [hwhole, hfirst, List.getLast?_append_of_ne_nil _ (by simp)] at hletter
    rw [hlabels, hfirst, List.getLast?_cons_cons]
    exact hletter
  · intro label hlabel
    rw [hlabels, List.mem_cons] at hlabel
    rcases hlabel with rfl | hlabel
    · rw [Bool.eq_false_iff]
      intro hbegins
      obtain ⟨more, hmore⟩ := List.isPrefixOf_iff_prefix.1 hbegins
      apply hhyphen
      rw [← hmore]
      simp [encodedPrefix]
    · exact hh.not_encoded label (hrest label hlabel)

/-- The host of a web address with a web host is this host, whatever its path. -/
theorem hostAfterScheme_eq (hh : IsWebHost h) (path : Text) :
    hostAfterScheme ('/' :: '/' :: (h ++ '/' :: path)) = .ok h := by
  have hvisible : ∀ c ∈ '/' :: '/' :: h, ' ' < c := by
    intro c hc
    rw [List.mem_cons, List.mem_cons] at hc
    rcases hc with rfl | rfl | hc
    · decide
    · decide
    · exact space_lt_namedChar (hh.chars hc)
  obtain ⟨path', hlayout⟩ := withoutLayout_append hvisible path
  have hslashes : trimStart (fun c => c = '/' || c = '\\') ('/' :: '/' :: (h ++ '/' :: path')) =
      h ++ '/' :: path' := by
    obtain ⟨c, t, rfl, hc⟩ := hh.exists_cons
    have hslash := endsAuthority_namedChar (isNamedChar_of_isHostChar hc)
    simp only [endsAuthority, Bool.or_eq_false_iff, decide_eq_false_iff_not] at hslash
    simp [trimStart, hslash]
  have hauthority : (h ++ '/' :: path').takeWhile (fun c => !endsAuthority c) = h := by
    rw [List.takeWhile_append_of_pos fun c hc => by simp [endsAuthority_namedChar (hh.chars hc)]]
    simp [endsAuthority]
  rw [hostAfterScheme, ← List.cons_append, ← List.cons_append, hlayout]
  simp only [List.cons_append, hslashes, hauthority, hh.hostOfAuthority_eq]

end IsWebHost

end PacRules.Host
