import PacRules.Feed.Decode
import PacRules.Proofs.Script.Sources
import PacRules.Proofs.Text.Base64
import PacRules.Proofs.Text.Front

/-!
# What feeds are decoded to

A feed is decoded exactly if it is what is written for some octets with blanks put in at will, and
what it is decoded to is the lines of the octets' text behind the mark of a comment. No blank is a
symbol, so the blanks do not matter. The mark is never taken apart: a first line begins with it,
and neither reader of rules finds a rule there.
-/

namespace PacRules.Feed

open PacRules.Text PacRules.Rule PacRules.Script

/-! ### Blanks put into a text -/

/-- A text with blanks put in, in front of, between and behind its characters. -/
inductive Wrapped : Text → Text → Prop where
  | nil : Wrapped [] []
  | keep (c : Char) {t raw : Text} : Wrapped t raw → Wrapped (c :: t) (c :: raw)
  | blank {b : Char} {t raw : Text} : isBlank b = true → Wrapped t raw → Wrapped t (b :: raw)

theorem Wrapped.withoutBlanks_eq {t raw : Text} (h : Wrapped t raw) :
    withoutBlanks raw = withoutBlanks t := by
  induction h with
  | nil => rfl
  | keep c h ih =>
      rw [withoutBlanks, withoutBlanks, List.filter_cons, List.filter_cons]
      split
      · exact congrArg _ ih
      · exact ih
  | blank hb h ih =>
      rw [withoutBlanks, List.filter_cons_of_neg (by simp [hb])]
      exact ih

/-- Any text is what it is without blanks with blanks put in. -/
theorem wrapped_withoutBlanks (raw : Text) : Wrapped (withoutBlanks raw) raw := by
  induction raw with
  | nil => exact .nil
  | cons c raw ih =>
      cases hc : isBlank c with
      | true =>
          rw [withoutBlanks, List.filter_cons_of_neg (by simp [hc])]
          exact .blank hc ih
      | false =>
          rw [withoutBlanks, List.filter_cons_of_pos (by simp [hc])]
          exact .keep c ih

theorem isBlank_symbol {n : Nat} (h : n < 64) : isBlank (Base64.symbol n) = false := by
  have hall : ∀ n < 64, isBlank (Base64.symbol n) = false := by decide +kernel
  exact hall n h

theorem isBlank_of_mem_encode {octets : List UInt8} {c : Char} (h : c ∈ Base64.encode octets) :
    isBlank c = false := by
  rcases Base64.mem_encode h with ⟨n, hn, rfl⟩ | rfl
  · exact isBlank_symbol hn
  · decide

theorem withoutBlanks_encode (octets : List UInt8) :
    withoutBlanks (Base64.encode octets) = Base64.encode octets := by
  refine List.filter_eq_self.2 ?_
  intro c hc
  rw [isBlank_of_mem_encode hc]
  rfl

/-- The feeds that are wrapped from what is written for octets. -/
theorem wrapped_encode_iff {octets : List UInt8} {raw : Text} :
    Wrapped (Base64.encode octets) raw ↔ withoutBlanks raw = Base64.encode octets := by
  constructor
  · intro h
    rw [h.withoutBlanks_eq, withoutBlanks_encode]
  · intro h
    rw [← h]
    exact wrapped_withoutBlanks raw

/-! ### First lines -/

/-- The mark of a comment begins the first line. -/
theorem exists_linesOf (t : Text) : ∃ rest more, linesOf t = (bannerMark ++ rest) :: more := by
  have hmark : linesOf t = linesFrom [' ', '!'] t := by
    rw [linesOf, lines, bannerMark, List.cons_append, List.cons_append, List.nil_append,
      linesFrom_cons_of_not_end [] (by decide), linesFrom_cons_of_not_end _ (by decide)]
  rw [hmark]
  exact exists_linesFrom (by simp) t

theorem trimmed_mark (t : Text) : ∃ rest, trimmed (bannerMark ++ t) = '!' :: rest := by
  refine ⟨trimEnd isPadding (' ' :: t), ?_⟩
  rw [trimmed, trim, bannerMark, List.cons_append, trimStart_of_not (by decide)]
  exact trimEnd_append_cons (by decide) [] _

theorem ofLine?_mark (t : Text) :
    Pattern.ofLine? (bannerMark ++ t) = none ∧
      ∀ resolve, Domain.ofLine? resolve (bannerMark ++ t) = none := by
  obtain ⟨rest, hrest⟩ := trimmed_mark t
  constructor
  · simp [Pattern.ofLine?, hrest, holdsNoRule]
  · intro resolve
    simp [Domain.ofLine?, hrest, holdsNoRule]

/-! ### Decoding -/

theorem decode_octets_iff {raw : Text} {octets : List UInt8} :
    Base64.decode (utf8 (withoutBlanks raw)) = .ok octets ↔
      withoutBlanks raw = Base64.encode octets := by
  rw [Base64.decode_eq_ok_iff, utf8_inj]

theorem decode_eq_ok_iff {raw : Text} {decoded : Decoded} :
    decode raw = .ok decoded ↔
      ∃ octets, withoutBlanks raw = Base64.encode octets ∧
        decoded.lines = linesOf (ofUtf8Lossy octets) ∧
        decoded.modified = modificationTime? decoded.lines := by
  rw [decode]
  constructor
  · intro h
    cases hoctets : Base64.decode (utf8 (withoutBlanks raw)) with
    | error e => rw [hoctets] at h; cases h
    | ok octets =>
        rw [hoctets] at h
        obtain rfl := Except.ok.inj h
        exact ⟨octets, decode_octets_iff.1 hoctets, rfl, rfl⟩
  · rintro ⟨octets, hraw, hlines, hmodified⟩
    have hdecoded : decoded = ⟨linesOf (ofUtf8Lossy octets),
        modificationTime? (linesOf (ofUtf8Lossy octets))⟩ := by
      rw [← hlines, ← hmodified]
    rw [decode_octets_iff.2 hraw, hdecoded]
    rfl

/-- What is read from the octets of a text with blanks put in. -/
theorem decode_wrapped {t raw : Text} (h : Wrapped (Base64.encode (utf8 t)) raw) :
    decode raw = .ok ⟨linesOf t, modificationTime? (linesOf t)⟩ := by
  refine decode_eq_ok_iff.2 ⟨utf8 t, wrapped_encode_iff.1 h, ?_, rfl⟩
  rw [ofUtf8Lossy_utf8]

theorem exists_lines_of_decode {raw : Text} {decoded : Decoded} (h : decode raw = .ok decoded) :
    ∃ t rest, decoded.lines = (bannerMark ++ t) :: rest := by
  obtain ⟨octets, -, hlines, -⟩ := decode_eq_ok_iff.1 h
  rw [hlines]
  exact exists_linesOf _

/-- A feed is decoded exactly if without its blanks it is what is written for some octets, and its
lines are then those of the octets' text behind the mark of a comment. So a text is read back from
what is written for its octets, wherever blanks are put in; the first line is there and neither
reader finds a rule in it; and feeds that are read as the same octets differ in their blanks only.
-/
theorem decode_faithful :
    (∀ raw decoded, decode raw = .ok decoded ↔
      ∃ octets, withoutBlanks raw = Base64.encode octets ∧
        decoded.lines = lines (bannerMark ++ ofUtf8Lossy octets) ∧
        decoded.modified = modificationTime? decoded.lines) ∧
    (∀ t raw, Wrapped (Base64.encode (utf8 t)) raw →
      ∃ decoded, decode raw = .ok decoded ∧ decoded.lines = lines (bannerMark ++ t)) ∧
    (∀ raw decoded, decode raw = .ok decoded →
      ∃ first rest, decoded.lines = first :: rest ∧ Pattern.ofLine? first = none ∧
        (∀ resolve, Domain.ofLine? resolve first = none) ∧
        ∀ mode resolve user, ScriptRules.ofLines mode resolve user decoded.lines =
          ScriptRules.ofLines mode resolve user rest) ∧
    ∀ raw raw' octets, Base64.decode (utf8 (withoutBlanks raw)) = .ok octets →
      Base64.decode (utf8 (withoutBlanks raw')) = .ok octets →
        withoutBlanks raw = withoutBlanks raw' := by
  refine ⟨fun raw decoded => decode_eq_ok_iff, ?_, ?_, ?_⟩
  · intro t raw h
    exact ⟨_, decode_wrapped h, rfl⟩
  · intro raw decoded h
    obtain ⟨t, rest, hlines⟩ := exists_lines_of_decode h
    obtain ⟨hpattern, hdomain⟩ := ofLine?_mark t
    refine ⟨bannerMark ++ t, rest, hlines, hpattern, hdomain, ?_⟩
    intro mode resolve user
    rw [hlines, ScriptRules.ofLines_cons hpattern]
  · intro raw raw' octets h h'
    rw [decode_octets_iff.1 h, decode_octets_iff.1 h']

/-- A text of four octets whose symbols stand in two lines. -/
theorem decode_faithful_two_lines :
    Wrapped (Base64.encode (utf8 "a.io".toList)) " YS5p\nbw==\n".toList ∧
      ∃ decoded, decode " YS5p\nbw==\n".toList = .ok decoded ∧
        decoded.lines = ["! a.io".toList] := by
  have hwrapped : Wrapped (Base64.encode (utf8 "a.io".toList)) " YS5p\nbw==\n".toList :=
    wrapped_encode_iff.2 (by decide)
  exact ⟨hwrapped, decode_faithful.2.1 "a.io".toList _ hwrapped⟩

end PacRules.Feed
