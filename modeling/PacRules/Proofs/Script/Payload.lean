import PacRules.Proofs.Script.Slots
import PacRules.Proofs.Text.Base64
import PacRules.Script.Envelope

/-!
# What the envelope holds

The script of the envelope, as it is read in `PacRules.Script.Envelope`, undoes what the envelope
was made by. Its reader of symbols gives back the octets that were written, whatever number of them
the last group holds, and its reader of octets gives back the code units of the text, since every
octet of a character has the high bits by which the length of the sequence is told. So what is
evaluated is the script that was put in.
-/

namespace PacRules.Script.Envelope

open PacRules.Text

/-! ### Bits as remainders -/

theorem shiftLeft_or (i : Nat) {b : Nat} (h : b < 1 <<< i) (a : Nat) :
    a <<< i ||| b = a * 1 <<< i + b := by
  rw [Nat.one_shiftLeft] at h
  rw [← Nat.shiftLeft_add_eq_or_of_lt h, Nat.shiftLeft_eq, Nat.one_shiftLeft]

/-- A share of six bits goes behind what has been put together so far. -/
theorem shiftLeft_or_shiftLeft (i : Nat) {b : Nat} (h : b < 64) (a : Nat) :
    a <<< (6 + i) ||| b <<< i = (a * 64 + b) <<< i := by
  rw [Nat.shiftLeft_add, ← Nat.shiftLeft_or_distrib, shiftLeft_or 6 (by omega)]
  rfl

/-! ### Symbols -/

theorem place_symbol {n : Nat} (h : n < 64) :
    List.contains keys (Base64.symbol n) = true ∧ place (Base64.symbol n) = n := by
  have hall : ∀ n < 64, List.contains keys (Base64.symbol n) = true ∧
      place (Base64.symbol n) = n := by
    decide +kernel
  exact hall n h

theorem place_equals : List.contains keys '=' = true ∧ place '=' = 64 := by decide

/-- Nothing in front of the symbols and equals signs of a payload is passed over. -/
theorem places_written {values : List Nat} (h : ∀ v ∈ values, v < 64) (pads : Nat) :
    ((values.map Base64.symbol ++ List.replicate pads '=').filter (List.contains keys)).map place =
      values ++ List.replicate pads 64 := by
  have hkept : ∀ c ∈ values.map Base64.symbol ++ List.replicate pads '=',
      List.contains keys c = true := by
    intro c hc
    rcases List.mem_append.1 hc with hc | hc
    · obtain ⟨v, hv, rfl⟩ := List.mem_map.1 hc
      exact (place_symbol (h v hv)).1
    · rw [List.eq_of_mem_replicate hc]
      exact place_equals.1
  have hvalues : values.map (place ∘ Base64.symbol) = values.map id :=
    List.map_congr_left fun v hv => (place_symbol (h v hv)).2
  rw [List.filter_eq_self.2 hkept, List.map_append, List.map_map, hvalues, List.map_id,
    List.map_replicate, place_equals.2]

/-! ### Octets -/

theorem first_eq {b : Nat} (hb : b < 64) (a : Nat) : a <<< 2 ||| b >>> 4 = a * 4 + b / 16 := by
  rw [shiftLeft_or 2 (by omega)]
  omega

theorem second_eq {c : Nat} (hc : c < 64) (b : Nat) :
    (b &&& 15) <<< 4 ||| c >>> 2 = b % 16 * 16 + c / 4 := by
  rw [Nat.and_two_pow_sub_one_eq_mod b 4, shiftLeft_or 4 (by omega)]
  omega

theorem third_eq {d : Nat} (hd : d < 64) (c : Nat) : (c &&& 3) <<< 6 ||| d = c % 4 * 64 + d := by
  rw [Nat.and_two_pow_sub_one_eq_mod c 2, shiftLeft_or 6 (by omega)]
  omega

theorem toNat_ofNat_mod {n m : Nat} (h : n % 256 = m) : (UInt8.ofNat n).toNat = m := by
  rw [UInt8.toNat_ofNat', ← h]

/-- A full group makes the three octets of its values. -/
theorem group_eq {a b c d : Nat} (ha : a < 64) (hb : b < 64) (hc : c < 64) (hd : d < 64) :
    let n := a * 262144 + b * 4096 + c * 64 + d
    group a b c d =
      [UInt8.ofNat (n / 65536), UInt8.ofNat (n / 256), UInt8.ofNat n].map UInt8.toNat := by
  intro n
  have h1 : (UInt8.ofNat (n / 65536)).toNat = a * 4 + b / 16 := toNat_ofNat_mod (by omega)
  have h2 : (UInt8.ofNat (n / 256)).toNat = b % 16 * 16 + c / 4 := toNat_ofNat_mod (by omega)
  have h3 : (UInt8.ofNat n).toNat = c % 4 * 64 + d := toNat_ofNat_mod (by omega)
  rw [group, if_neg (by omega), if_neg (by omega), first_eq hb, second_eq hc, third_eq hd,
    List.map_cons, List.map_cons, List.map_cons, h1, h2, h3]
  rfl

/-- A last group makes the octets of its values, and its equals signs make none. -/
theorem numbers_final {final : List Nat} (h : Base64.IsGrouped [] final) :
    numbers (final ++ List.replicate (4 - final.length) 64) =
      (Base64.octetsFrom [] final).map UInt8.toNat := by
  have htwo := h.two_le
  have hfour := h.le_four
  have hlt := h.lt
  match final with
  | [] => simp at htwo
  | [_] => simp at htwo
  | [a, b] =>
      have ha := hlt a (by simp)
      have hb := hlt b (by simp)
      have h1 : (UInt8.ofNat (a * 4 + b / 16)).toNat = a * 4 + b / 16 :=
        toNat_ofNat_mod (by omega)
      change [a <<< 2 ||| b >>> 4] = [(UInt8.ofNat (a * 4 + b / 16)).toNat]
      rw [first_eq hb, h1]
  | [a, b, c] =>
      have ha := hlt a (by simp)
      have hb := hlt b (by simp)
      have hc := hlt c (by simp)
      have h1 : (UInt8.ofNat ((a * 1024 + b * 16 + c / 4) / 256)).toNat = a * 4 + b / 16 :=
        toNat_ofNat_mod (by omega)
      have h2 : (UInt8.ofNat (a * 1024 + b * 16 + c / 4)).toNat = b % 16 * 16 + c / 4 :=
        toNat_ofNat_mod (by omega)
      change group a b c 64 ++ [] = [(UInt8.ofNat ((a * 1024 + b * 16 + c / 4) / 256)).toNat,
        (UInt8.ofNat (a * 1024 + b * 16 + c / 4)).toNat]
      rw [h1, h2, group, if_neg (by omega), first_eq hb, second_eq hc]
      rfl
  | [a, b, c, d] =>
      have hgroup := group_eq (hlt a (by simp)) (hlt b (by simp)) (hlt c (by simp))
        (hlt d (by simp))
      change group a b c d ++ [] = _
      rw [hgroup, Base64.octetsFrom_nil_group]
      rfl
  | _ :: _ :: _ :: _ :: _ :: _ =>
      simp only [List.length_cons] at hfour
      omega

/-- The groups of a payload make the octets of their values. -/
theorem numbers_grouped {final : List Nat} :
    ∀ {body : List Nat}, Base64.IsGrouped body final →
      numbers (body ++ final ++ List.replicate (4 - final.length) 64) =
        (Base64.octetsFrom [] (body ++ final)).map UInt8.toNat
  | [], h => numbers_final h
  | [_], h => absurd h.four_dvd (by simp)
  | [_, _], h => absurd h.four_dvd (by simp)
  | [_, _, _], h => absurd h.four_dvd (by simp)
  | a :: b :: c :: d :: body, h => by
      obtain ⟨⟨ha, hb, hc, hd⟩, hrest⟩ := h.cons
      have ih := numbers_grouped hrest
      simp only [List.cons_append] at ih ⊢
      rw [numbers, group_eq ha hb hc hd, Base64.octetsFrom_nil_group, List.map_append, ih]

/-- What is written for octets is read as these octets. -/
theorem numbers_encode (octets : List UInt8) :
    numbers (((Base64.encode octets).filter (List.contains keys)).map place) =
      octets.map UInt8.toNat := by
  by_cases hne : octets = []
  · rw [hne]
    rfl
  · obtain ⟨body, final, h, rfl⟩ := Base64.exists_isGrouped hne
    rw [Base64.encode_octetsFrom h, Base64.written, places_written h.lt, numbers_grouped h]

/-! ### Code units -/

theorem and_continuation (n : Nat) : n &&& 63 = n % 64 := Nat.and_two_pow_sub_one_eq_mod n 6

theorem unitsFrom_one {a : Nat} (h : a < 128) (rest : List Nat) :
    unitsFrom (a :: rest) = a :: unitsFrom rest := by
  rw [unitsFrom, if_pos h]

theorem unitsFrom_two {a : Nat} (h : 191 < a ∧ a < 224) (b : Nat) (rest : List Nat) :
    unitsFrom (a :: b :: rest) = (a % 32 * 64 + b % 64) :: unitsFrom rest := by
  rw [unitsFrom, if_neg (by omega), if_pos h]
  simp only [List.getD_cons_zero, List.drop_succ_cons, List.drop_zero]
  rw [Nat.and_two_pow_sub_one_eq_mod a 5, and_continuation, shiftLeft_or 6 (by omega)]
  rfl

theorem unitsFrom_three {a : Nat} (h : 223 < a ∧ a < 240) (b c : Nat) (rest : List Nat) :
    unitsFrom (a :: b :: c :: rest) =
      ((a % 16 * 64 + b % 64) * 64 + c % 64) :: unitsFrom rest := by
  have hb : b % 64 < 64 := Nat.mod_lt b (by decide)
  rw [unitsFrom, if_neg (by omega), if_neg (by omega), if_neg (by omega)]
  simp only [List.getD_cons_zero, List.getD_cons_succ, List.drop_succ_cons, List.drop_zero]
  rw [Nat.and_two_pow_sub_one_eq_mod a 4, and_continuation, and_continuation,
    shiftLeft_or_shiftLeft 6 hb, shiftLeft_or 6 (by omega)]
  rfl

theorem unitsFrom_four {a : Nat} (h : 239 < a) (b c d : Nat) (rest : List Nat) :
    unitsFrom (a :: b :: c :: d :: rest) =
      pair (((a % 8 * 64 + b % 64) * 64 + c % 64) * 64 + d % 64) ++ unitsFrom rest := by
  have hb : b % 64 < 64 := Nat.mod_lt b (by decide)
  have hc : c % 64 < 64 := Nat.mod_lt c (by decide)
  rw [unitsFrom, if_neg (by omega), if_neg (by omega), if_pos h]
  simp only [List.getD_cons_zero, List.getD_cons_succ, List.drop_succ_cons, List.drop_zero]
  rw [Nat.and_two_pow_sub_one_eq_mod a 3, and_continuation, and_continuation, and_continuation,
    shiftLeft_or_shiftLeft 12 hb, shiftLeft_or_shiftLeft 6 hc, shiftLeft_or 6 (by omega)]
  rfl

/-- The units of a character above the basic plane are those that are made for its code point. -/
theorem pair_eq {n : Nat} (h : 0x10000 ≤ n) :
    pair n = [0xd800 + (n - 0x10000) / 0x400, 0xdc00 + (n - 0x10000) % 0x400] := by
  simp only [pair, List.cons.injEq, and_true]
  omega

/-- The octets of a character are read as its code units, whatever stands behind them. -/
theorem unitsFrom_character (c : Char) (rest : List Nat) :
    unitsFrom ((String.utf8EncodeChar c).map UInt8.toNat ++ rest) =
      unitsOf c ++ unitsFrom rest := by
  have hvalid := isValidChar_toNat c
  change c.val.toNat < _ ∨ _ < c.val.toNat ∧ c.val.toNat < _ at hvalid
  have hunits : unitsOf c = if c.val.toNat < 0x10000 then [c.val.toNat]
      else [0xd800 + (c.val.toNat - 0x10000) / 0x400, 0xdc00 + (c.val.toNat - 0x10000) % 0x400] :=
    rfl
  rw [hunits]
  -- one case for each length, as the first octet tells it
  fun_cases String.utf8EncodeChar c with
  | case1 v h =>
      have hb := toNat_ofNat_of_lt (n := v) (by omega)
      rw [List.map_cons, hb, List.map_nil, List.singleton_append, unitsFrom_one (by omega),
        if_pos (by omega)]
      rfl
  | case2 v h h' =>
      have hfirst := toNat_ofNat_of_lt (n := v / 64 % 32 + 192) (by omega)
      have hsecond := toNat_ofNat_of_lt (n := v % 64 + 128) (by omega)
      have hvalue : (v / 64 % 32 + 192) % 32 * 64 + (v % 64 + 128) % 64 = v := by omega
      simp only [List.map_cons, List.map_nil, List.cons_append, List.nil_append, hfirst, hsecond]
      rw [unitsFrom_two (by omega), hvalue, if_pos (by omega)]
      rfl
  | case3 v h h' h'' =>
      have hfirst := toNat_ofNat_of_lt (n := v / 4096 % 16 + 224) (by omega)
      have hsecond := toNat_ofNat_of_lt (n := v / 64 % 64 + 128) (by omega)
      have hthird := toNat_ofNat_of_lt (n := v % 64 + 128) (by omega)
      have hvalue : ((v / 4096 % 16 + 224) % 16 * 64 + (v / 64 % 64 + 128) % 64) * 64 +
          (v % 64 + 128) % 64 = v := by omega
      simp only [List.map_cons, List.map_nil, List.cons_append, List.nil_append, hfirst, hsecond,
        hthird]
      rw [unitsFrom_three (by omega), hvalue, if_pos (by omega)]
      rfl
  | case4 v h h' h'' =>
      have hfirst := toNat_ofNat_of_lt (n := v / 262144 % 8 + 240) (by omega)
      have hsecond := toNat_ofNat_of_lt (n := v / 4096 % 64 + 128) (by omega)
      have hthird := toNat_ofNat_of_lt (n := v / 64 % 64 + 128) (by omega)
      have hfourth := toNat_ofNat_of_lt (n := v % 64 + 128) (by omega)
      have hvalue : (((v / 262144 % 8 + 240) % 8 * 64 + (v / 4096 % 64 + 128) % 64) * 64 +
          (v / 64 % 64 + 128) % 64) * 64 + (v % 64 + 128) % 64 = v := by omega
      simp only [List.map_cons, List.map_nil, List.cons_append, List.nil_append, hfirst, hsecond,
        hthird, hfourth]
      rw [unitsFrom_four (by omega), hvalue, pair_eq (by omega), if_neg (by omega)]

/-- A text is read from its octets as its code units. -/
theorem unitsFrom_utf8 (t : Text) : unitsFrom ((utf8 t).map UInt8.toNat) = units t := by
  induction t with
  | nil => simp
  | cons c t ih => rw [utf8_cons, List.map_append, unitsFrom_character, ih, units_cons]

/-- What was written for a text is opened as the text. -/
theorem opened_encode (t : Text) : opened (Base64.encode (utf8 t)) = units t := by
  rw [opened, numbers_encode, unitsFrom_utf8]

end PacRules.Script.Envelope

namespace PacRules.Script

open PacRules.Text

/-! ### The script in the envelope -/

/-- The beginning of an envelope, up to the opening quote of what it holds. -/
def envelopeFront (version : Text) : Text :=
  "/**\n * genpac ".toList ++ version ++ " (base64)\n */\neval(decode64('".toList

/-- The names of the envelope's slots in the order in which they stand there. -/
def envelopeNames : List Text := ["__VERSION__".toList, "__BASE64__".toList]

theorem exists_isMadeOf_envelope :
    ∃ decoder, IsMadeOf Template.envelope.toList
      ["/**\n * genpac ".toList, " (base64)\n */\neval(decode64('".toList, '\'' :: decoder]
      envelopeNames := by
  have hparts : (piecesBetween envelopeNames Template.envelope.toList).length = 3 ∧
      (piecesBetween envelopeNames Template.envelope.toList).all
        (fun piece => !List.contains piece '_') = true ∧
      (piecesBetween envelopeNames Template.envelope.toList).take 2 =
        ["/**\n * genpac ".toList, " (base64)\n */\neval(decode64('".toList] ∧
      ((piecesBetween envelopeNames Template.envelope.toList).getD 2 []).head? = some '\'' := by
    rw [Template.envelope, String.toList_ofList]
    decide +kernel
  obtain ⟨hlength, hplain, hfronts, hquote⟩ := hparts
  have hmade := isMadeOf_piecesBetween hlength hplain
  obtain ⟨p, q, r, hpieces⟩ := List.length_eq_three.1 hlength
  rw [hpieces] at hmade hfronts hquote
  obtain ⟨rfl, rfl, -⟩ : p = _ ∧ q = _ ∧ True := by simpa using hfronts
  obtain ⟨decoder, hdecoder⟩ := List.head?_eq_some_iff.1 hquote
  obtain rfl : r = '\'' :: decoder := hdecoder
  exact ⟨decoder, hmade⟩

theorem quote_not_mem_encode (octets : List UInt8) : '\'' ∉ Base64.encode octets := by
  intro h
  have hkey : List.contains Envelope.keys '\'' = true := by
    rcases Base64.mem_encode h with ⟨n, hn, heq⟩ | heq
    · exact heq ▸ (Envelope.place_symbol hn).1
    · exact heq ▸ Envelope.place_equals.1
  exact absurd hkey (by decide)

theorem areDistinct_envelope : AreDistinct ["__BASE64__".toList, "__VERSION__".toList] where
  head? := by decide
  pairwise := by decide

theorem interleaved_two (front middle rest first second : Text) :
    interleaved [front, middle, rest] [first, second] =
      front ++ first ++ middle ++ second ++ rest := by
  simp [interleaved]

/-- The envelope of a script with the text that it holds. -/
theorem exists_envelop_eq :
    ∃ decoder, Template.envelope.toList =
        envelopeFront "__VERSION__".toList ++ "__BASE64__".toList ++ '\'' :: decoder ∧
      ∀ version script, envelop version script =
        envelopeFront version ++ Base64.encode (utf8 script) ++ '\'' :: decoder := by
  obtain ⟨decoder, hmade⟩ := exists_isMadeOf_envelope
  refine ⟨decoder, hmade.eq.trans (interleaved_two ..), ?_⟩
  intro version script
  have hvalues : List.Forall₂ (fun name value => (name, value) ∈
      [("__BASE64__".toList, Base64.encode (utf8 script)), ("__VERSION__".toList, version)])
      envelopeNames [version, Base64.encode (utf8 script)] :=
    .cons (.tail _ (.head _)) (.cons (.head _) .nil)
  exact (fillSlots_eq hmade hvalues areDistinct_envelope).trans (interleaved_two ..)

/-- What an envelope holds between the quotes of its call is opened as the script that is written
without an envelope. The text of the decoder stands behind the quotes as it does in the template,
whatever is held, and `Envelope.opened` is how this text is read. -/
theorem opened_payload :
    ∃ decoder, Template.envelope.toList =
        envelopeFront "__VERSION__".toList ++ "__BASE64__".toList ++ '\'' :: decoder ∧
      ∀ rules header compress, ∃ payload, '\'' ∉ payload ∧
        render rules header { compress, envelope := true } =
          envelopeFront header.version ++ payload ++ '\'' :: decoder ∧
        Envelope.opened payload =
          units (render rules header { compress, envelope := false }) := by
  obtain ⟨decoder, htemplate, hfilled⟩ := exists_envelop_eq
  refine ⟨decoder, htemplate, ?_⟩
  intro rules header compress
  have hrender : render rules header { compress, envelope := true } =
      envelop header.version (renderPlain rules header compress) := by
    rw [render, if_pos rfl]
  rw [hrender, hfilled]
  exact ⟨_, quote_not_mem_encode _, rfl, Envelope.opened_encode _⟩

end PacRules.Script
