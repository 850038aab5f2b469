import PacRules.Proofs.Text.Utf8
import PacRules.Text.Base64

/-!
# Reading and writing Base64

Reading accepts exactly what writing produces. Between the two stand the values of the symbols in
groups of four: the last group has two to four of them, and no bit that belongs to no octet. The
octets that grouped values make are written with the symbols of these values, all octets are made
by grouped values, and a text is read exactly if it holds the symbols of grouped values and equals
signs that fill the last group.
-/

namespace PacRules.Text.Base64

/-- The values in groups of four, of which the last may have two or three and then holds no bit
that belongs to no octet. -/
structure IsGrouped (body final : List Nat) : Prop where
  four_dvd : 4 ∣ body.length
  two_le : 2 ≤ final.length
  le_four : final.length ≤ 4
  lt : ∀ v ∈ body ++ final, v < 64
  used : hasUnusedBits final = false

/-- The symbols of grouped values, with equals signs that fill the last group. -/
def written (body final : List Nat) : Text :=
  (body ++ final).map symbol ++ List.replicate (4 - final.length) '='

/-! ### Symbols -/

/-- The octet of a symbol. -/
def symbolOctet (n : Nat) : UInt8 := UInt8.ofNat (symbol n).toNat

theorem utf8EncodeChar_symbol {n : Nat} (h : n < 64) :
    String.utf8EncodeChar (symbol n) = [symbolOctet n] := by
  have hall : ∀ n < 64, String.utf8EncodeChar (symbol n) = [symbolOctet n] := by
    decide +kernel
  exact hall n h

theorem value?_symbolOctet {n : Nat} (h : n < 64) : value? (symbolOctet n) = some n := by
  have hvalue := value?_symbol h
  rw [utf8EncodeChar_symbol h] at hvalue
  exact (List.cons.inj hvalue).1

theorem value?_padding : value? padding = none := by decide

theorem symbolOctet_ne_padding {n : Nat} (h : n < 64) : symbolOctet n ≠ padding := by
  intro heq
  have hvalue := value?_symbolOctet h
  rw [heq, value?_padding] at hvalue
  cases hvalue

/-- Only the octet of a symbol has its value. -/
theorem value?_eq_some_iff {b : UInt8} {n : Nat} :
    value? b = some n ↔ n < 64 ∧ symbolOctet n = b := by
  constructor
  · intro h
    have hall : ∀ m < 256, (value? (UInt8.ofNat m)).all
        (fun n => n < 64 && symbolOctet n = UInt8.ofNat m) = true := by
      decide +kernel
    have hb := hall b.toNat (UInt8.toNat_lt b)
    rw [UInt8.ofNat_toNat, h] at hb
    simpa using hb
  · rintro ⟨hn, rfl⟩
    exact value?_symbolOctet hn

/-- The octets of a text of symbols and equals signs. -/
theorem utf8_written {values : List Nat} (h : ∀ v ∈ values, v < 64) (pads : Nat) :
    utf8 (values.map symbol ++ List.replicate pads '=') =
      values.map symbolOctet ++ List.replicate pads padding := by
  induction values with
  | nil =>
      induction pads with
      | zero => rfl
      | succ pads ih =>
          rw [List.map_nil, List.nil_append] at ih
          rw [List.map_nil, List.nil_append, List.replicate_succ, utf8_cons, ih]
          rfl
  | cons v values ih =>
      rw [List.forall_mem_cons] at h
      rw [List.map_cons, List.cons_append, utf8_cons, utf8EncodeChar_symbol h.1, ih h.2]
      rfl

/-! ### Octets of groups -/

theorem octetsFrom_nil_group (a b c d : Nat) (rest : List Nat) :
    octetsFrom [] (a :: b :: c :: d :: rest) =
      let n := a * 262144 + b * 4096 + c * 64 + d
      [UInt8.ofNat (n / 65536), UInt8.ofNat (n / 256), UInt8.ofNat n] ++ octetsFrom [] rest := by
  rw [octetsFrom]
  exact octetsFrom_append [] _ rest

theorem encode_pair (a b : UInt8) :
    encode [a, b] =
      let n := a.toNat * 1024 + b.toNat * 4
      [symbol (n / 4096), symbol (n / 64 % 64), symbol (n % 64), '='] := rfl

theorem encode_singleton (a : UInt8) :
    encode [a] = [symbol (a.toNat * 16 / 64), symbol (a.toNat * 16 % 64), '=', '='] := rfl

/-- A full group is written with the symbols of its values. -/
theorem encode_group {a b c d : Nat} (ha : a < 64) (hb : b < 64) (hc : c < 64) (hd : d < 64)
    (rest : List Nat) :
    encode (octetsFrom [] (a :: b :: c :: d :: rest)) =
      [symbol a, symbol b, symbol c, symbol d] ++ encode (octetsFrom [] rest) := by
  have hsum : (UInt8.ofNat ((a * 262144 + b * 4096 + c * 64 + d) / 65536)).toNat * 65536 +
      (UInt8.ofNat ((a * 262144 + b * 4096 + c * 64 + d) / 256)).toNat * 256 +
      (UInt8.ofNat (a * 262144 + b * 4096 + c * 64 + d)).toNat =
        a * 262144 + b * 4096 + c * 64 + d := by
    simp only [UInt8.toNat_ofNat']
    omega
  have h1 : (a * 262144 + b * 4096 + c * 64 + d) / 262144 = a := by omega
  have h2 : (a * 262144 + b * 4096 + c * 64 + d) / 4096 % 64 = b := by omega
  have h3 : (a * 262144 + b * 4096 + c * 64 + d) / 64 % 64 = c := by omega
  have h4 : (a * 262144 + b * 4096 + c * 64 + d) % 64 = d := by omega
  rw [octetsFrom_nil_group]
  simp only [List.cons_append, List.nil_append]
  rw [encode_cons_cons_cons]
  simp only [hsum, h1, h2, h3, h4]
  rfl

/-- The last group is written with the symbols of its values and filled up. -/
theorem encode_final {final : List Nat} (h : IsGrouped [] final) :
    encode (octetsFrom [] final) = written [] final := by
  have htwo := h.two_le
  have hfour := h.le_four
  have hlt := h.lt
  have hused := h.used
  match final with
  | [] => simp at htwo
  | [_] => simp at htwo
  | [a, b] =>
      have hb : b % 16 = 0 := by simpa [hasUnusedBits] using hused
      have ha' := hlt a (by simp)
      have hb' := hlt b (by simp)
      have hsum : (UInt8.ofNat (a * 4 + b / 16)).toNat * 16 = a * 64 + b := by
        rw [UInt8.toNat_ofNat']
        omega
      have h1 : (a * 64 + b) / 64 = a := by omega
      have h2 : (a * 64 + b) % 64 = b := by omega
      change encode [UInt8.ofNat (a * 4 + b / 16)] = _
      rw [encode_singleton, hsum, h1, h2]
      rfl
  | [a, b, c] =>
      have hc : c % 4 = 0 := by simpa [hasUnusedBits] using hused
      have ha' := hlt a (by simp)
      have hb' := hlt b (by simp)
      have hc' := hlt c (by simp)
      have hsum : (UInt8.ofNat ((a * 1024 + b * 16 + c / 4) / 256)).toNat * 1024 +
          (UInt8.ofNat (a * 1024 + b * 16 + c / 4)).toNat * 4 = a * 4096 + b * 64 + c := by
        simp only [UInt8.toNat_ofNat']
        omega
      have h1 : (a * 4096 + b * 64 + c) / 4096 = a := by omega
      have h2 : (a * 4096 + b * 64 + c) / 64 % 64 = b := by omega
      have h3 : (a * 4096 + b * 64 + c) % 64 = c := by omega
      change encode [UInt8.ofNat ((a * 1024 + b * 16 + c / 4) / 256),
        UInt8.ofNat (a * 1024 + b * 16 + c / 4)] = _
      rw [encode_pair]
      simp only [hsum, h1, h2, h3]
      rfl
  | [a, b, c, d] =>
      have hgroup := encode_group (hlt a (by simp)) (hlt b (by simp)) (hlt c (by simp))
        (hlt d (by simp)) []
      rw [hgroup]
      rfl
  | _ :: _ :: _ :: _ :: _ :: _ =>
      simp only [List.length_cons] at hfour
      omega

theorem IsGrouped.cons {a b c d : Nat} {body final : List Nat}
    (h : IsGrouped (a :: b :: c :: d :: body) final) :
    (a < 64 ∧ b < 64 ∧ c < 64 ∧ d < 64) ∧ IsGrouped body final := by
  have hlt := h.lt
  simp only [List.cons_append, List.forall_mem_cons] at hlt
  obtain ⟨ha, hb, hc, hd, hlt⟩ := hlt
  refine ⟨⟨ha, hb, hc, hd⟩, ?_, h.two_le, h.le_four, hlt, h.used⟩
  have hdvd := h.four_dvd
  simp only [List.length_cons] at hdvd
  omega

/-- The octets of grouped values are written with the symbols of the values. -/
theorem encode_octetsFrom {final : List Nat} :
    ∀ {body : List Nat}, IsGrouped body final →
      encode (octetsFrom [] (body ++ final)) = written body final
  | [], h => encode_final h
  | [_], h => absurd h.four_dvd (by simp)
  | [_, _], h => absurd h.four_dvd (by simp)
  | [_, _, _], h => absurd h.four_dvd (by simp)
  | a :: b :: c :: d :: body, h => by
      obtain ⟨⟨ha, hb, hc, hd⟩, hrest⟩ := h.cons
      have ih := encode_octetsFrom hrest
      simp only [List.cons_append]
      rw [encode_group ha hb hc hd, ih]
      rfl

theorem ofNat_eq {n : Nat} {b : UInt8} (h : n % 256 = b.toNat) : UInt8.ofNat n = b := by
  rw [← UInt8.toNat_inj, UInt8.toNat_ofNat']
  exact h

/-- Three octets are made by the values of their symbols. -/
theorem octetsFrom_values (x y z : UInt8) (rest : List Nat) :
    let n := x.toNat * 65536 + y.toNat * 256 + z.toNat
    octetsFrom [] (n / 262144 :: n / 4096 % 64 :: n / 64 % 64 :: n % 64 :: rest) =
      x :: y :: z :: octetsFrom [] rest := by
  intro n
  have hx := UInt8.toNat_lt x
  have hy := UInt8.toNat_lt y
  have hz := UInt8.toNat_lt z
  have hsum : n / 262144 * 262144 + n / 4096 % 64 * 4096 + n / 64 % 64 * 64 + n % 64 = n := by
    omega
  have hfirst : UInt8.ofNat (n / 65536) = x := ofNat_eq (by omega)
  have hsecond : UInt8.ofNat (n / 256) = y := ofNat_eq (by omega)
  have hthird : UInt8.ofNat n = z := ofNat_eq (by omega)
  rw [octetsFrom_nil_group]
  simp only [hsum, hfirst, hsecond, hthird]
  rfl

theorem octetsFrom_values_two (x y : UInt8) :
    let n := x.toNat * 256 + y.toNat
    octetsFrom [] [n / 1024, n / 16 % 64, n % 16 * 4] = [x, y] := by
  intro n
  have hx := UInt8.toNat_lt x
  have hy := UInt8.toNat_lt y
  have hsum : n / 1024 * 1024 + n / 16 % 64 * 16 + n % 16 * 4 / 4 = n := by omega
  have hfirst : UInt8.ofNat (n / 256) = x := ofNat_eq (by omega)
  have hsecond : UInt8.ofNat n = y := ofNat_eq (by omega)
  change [UInt8.ofNat ((n / 1024 * 1024 + n / 16 % 64 * 16 + n % 16 * 4 / 4) / 256),
    UInt8.ofNat (n / 1024 * 1024 + n / 16 % 64 * 16 + n % 16 * 4 / 4)] = _
  rw [hsum, hfirst, hsecond]

theorem octetsFrom_values_one (x : UInt8) :
    octetsFrom [] [x.toNat / 4, x.toNat % 4 * 16] = [x] := by
  have hx := UInt8.toNat_lt x
  have hsum : UInt8.ofNat (x.toNat / 4 * 4 + x.toNat % 4 * 16 / 16) = x := ofNat_eq (by omega)
  exact congrArg (fun x => [x]) hsum

/-- Any octets are made by grouped values. -/
theorem exists_isGrouped :
    ∀ {octets : List UInt8}, octets ≠ [] →
      ∃ body final, IsGrouped body final ∧ octetsFrom [] (body ++ final) = octets
  | [], h => absurd rfl h
  | [x], _ => by
      have hx := UInt8.toNat_lt x
      refine ⟨[], _, ⟨by simp, by simp, by simp, ?_, ?_⟩, octetsFrom_values_one x⟩
      · simp only [List.nil_append, List.forall_mem_cons]
        exact ⟨by omega, by omega, by simp⟩
      · simp [hasUnusedBits]
  | [x, y], _ => by
      have hx := UInt8.toNat_lt x
      have hy := UInt8.toNat_lt y
      refine ⟨[], _, ⟨by simp, by simp, by simp, ?_, ?_⟩, octetsFrom_values_two x y⟩
      · simp only [List.nil_append, List.forall_mem_cons]
        exact ⟨by omega, by omega, by omega, by simp⟩
      · simp [hasUnusedBits]
  | x :: y :: z :: rest, _ => by
      have hx := UInt8.toNat_lt x
      have hy := UInt8.toNat_lt y
      have hz := UInt8.toNat_lt z
      have hvalues := octetsFrom_values x y z
      generalize hn : x.toNat * 65536 + y.toNat * 256 + z.toNat = n at hvalues
      have hlt : ∀ v ∈ [n / 262144, n / 4096 % 64, n / 64 % 64, n % 64], v < 64 := by
        simp only [List.forall_mem_cons]
        exact ⟨by omega, by omega, by omega, by omega, by simp⟩
      by_cases hrest : rest = []
      · refine ⟨[], [n / 262144, n / 4096 % 64, n / 64 % 64, n % 64],
          ⟨by simp, by simp, by simp, hlt, rfl⟩, ?_⟩
        rw [List.nil_append, hvalues, hrest]
        rfl
      · obtain ⟨body, final, h, heq⟩ := exists_isGrouped hrest
        refine ⟨[n / 262144, n / 4096 % 64, n / 64 % 64, n % 64] ++ body, final,
          ⟨?_, h.two_le, h.le_four, ?_, h.used⟩, ?_⟩
        · rw [List.length_append]
          exact Nat.dvd_add (by simp) h.four_dvd
        · rw [List.append_assoc]
          exact List.forall_mem_append.2 ⟨hlt, h.lt⟩
        · rw [List.append_assoc, ← heq]
          exact hvalues (body ++ final)

/-- What is written for octets consists of symbols and equals signs. -/
theorem mem_encode {octets : List UInt8} {c : Char} (h : c ∈ encode octets) :
    (∃ n < 64, c = symbol n) ∨ c = '=' := by
  by_cases hne : octets = []
  · simp [hne] at h
  · obtain ⟨body, final, hgrouped, rfl⟩ := exists_isGrouped hne
    rw [encode_octetsFrom hgrouped, written, List.mem_append, List.mem_map] at h
    rcases h with ⟨v, hv, rfl⟩ | h
    · exact .inl ⟨v, hgrouped.lt v hv, rfl⟩
    · exact .inr (List.eq_of_mem_replicate h)

/-! ### Reading groups -/

theorem valuesFrom_map {values : List Nat} (h : ∀ v ∈ values, v < 64) (found : List Nat)
    (offset : Nat) :
    valuesFrom found offset (values.map symbolOctet) = .ok (found.reverse ++ values) := by
  induction values generalizing found offset with
  | nil => simp [valuesFrom]
  | cons v values ih =>
      rw [List.forall_mem_cons] at h
      rw [List.map_cons, valuesFrom, value?_symbolOctet h.1]
      simp [ih h.2]

/-- Only symbols are read as values. -/
theorem exists_of_valuesFrom {bytes : List UInt8} {found all : List Nat} {offset : Nat}
    (h : valuesFrom found offset bytes = .ok all) :
    ∃ values, all = found.reverse ++ values ∧ (∀ v ∈ values, v < 64) ∧
      bytes = values.map symbolOctet := by
  induction bytes generalizing found offset with
  | nil =>
      obtain rfl : found.reverse = all := Except.ok.inj h
      exact ⟨[], by simp, by simp, rfl⟩
  | cons b bytes ih =>
      rw [valuesFrom] at h
      cases hb : value? b with
      | none => simp [hb] at h
      | some n =>
          simp only [hb] at h
          obtain ⟨hn, rfl⟩ := value?_eq_some_iff.1 hb
          obtain ⟨values, rfl, hlt, rfl⟩ := ih h
          exact ⟨n :: values, by simp, List.forall_mem_cons.2 ⟨hn, hlt⟩, rfl⟩

theorem lastGroupFrom_replicate {values : List Nat} (htwo : 2 ≤ values.length)
    (start pads more : Nat) :
    lastGroupFrom start values pads (List.replicate more padding) = .ok (values, pads + more) := by
  induction more generalizing pads with
  | zero => rfl
  | succ more ih =>
      rw [List.replicate_succ, lastGroupFrom, if_pos rfl, if_neg (by omega), ih,
        Nat.add_right_comm, Nat.add_assoc]

/-- Symbols and the equals signs behind them are read as the last group. -/
theorem lastGroupFrom_map {found values : List Nat} (h : ∀ v ∈ values, v < 64)
    (htwo : 2 ≤ (found ++ values).length) (start pads : Nat) :
    lastGroupFrom start found 0 (values.map symbolOctet ++ List.replicate pads padding) =
      .ok (found ++ values, pads) := by
  induction values generalizing found with
  | nil =>
      rw [List.append_nil] at htwo ⊢
      simpa using lastGroupFrom_replicate htwo start 0 pads
  | cons v values ih =>
      rw [List.forall_mem_cons] at h
      have happend : found ++ v :: values = (found ++ [v]) ++ values := by simp
      rw [happend] at htwo ⊢
      rw [List.map_cons, List.cons_append, lastGroupFrom, if_neg (symbolOctet_ne_padding h.1),
        if_neg (by omega), value?_symbolOctet h.1]
      exact ih h.2 htwo

/-- Nothing else is read as the last group. -/
theorem exists_of_lastGroupFrom {bytes : List UInt8} {start before pads : Nat}
    {found all : List Nat} (h : lastGroupFrom start found before bytes = .ok (all, pads)) :
    ∃ values more, all = found ++ values ∧ pads = before + more ∧ (∀ v ∈ values, v < 64) ∧
      bytes = values.map symbolOctet ++ List.replicate more padding ∧
      (0 < before → values = []) := by
  induction bytes generalizing found before with
  | nil =>
      obtain ⟨rfl, rfl⟩ := Prod.mk.inj (Except.ok.inj h)
      exact ⟨[], 0, by simp, rfl, by simp, rfl, fun _ => rfl⟩
  | cons b bytes ih =>
      rw [lastGroupFrom] at h
      split at h
      · next hb =>
          split at h
          · cases h
          · obtain ⟨values, more, rfl, rfl, -, rfl, hvalues⟩ := ih h
            obtain rfl := hvalues (Nat.succ_pos before)
            refine ⟨[], more + 1, rfl, by omega, by simp, ?_, fun _ => rfl⟩
            rw [hb]
            rfl
      · split at h
        · cases h
        · next hbefore =>
            cases hvalue : value? b with
            | none => simp [hvalue] at h
            | some n =>
                simp only [hvalue] at h
                obtain ⟨hn, rfl⟩ := value?_eq_some_iff.1 hvalue
                obtain ⟨values, more, rfl, rfl, hlt, rfl, -⟩ := ih h
                refine ⟨n :: values, more, by simp, by omega, List.forall_mem_cons.2 ⟨hn, hlt⟩,
                  rfl, ?_⟩
                omega

/-! ### Reading -/

/-- Octets are read if the groups in front and the last group are read, the last group is full and
none of its bits is left over. -/
theorem decode_eq_ok_iff_read {bytes octets : List UInt8} {start : Nat} (hne : bytes ≠ [])
    (hstart : start = (bytes.length - 1) / 4 * 4) :
    decode bytes = .ok octets ↔
      ∃ body final pads, valuesFrom [] 0 (bytes.take start) = .ok body ∧
        lastGroupFrom start [] 0 (bytes.drop start) = .ok (final, pads) ∧
        2 ≤ final.length ∧ final.length + pads = 4 ∧ hasUnusedBits final = false ∧
        octetsFrom [] (body ++ final) = octets := by
  have hlast := List.getLast?_eq_some_getLast hne
  rw [decode, hlast]
  simp only [← hstart]
  constructor
  · intro h
    split at h
    · cases h
    · cases hbody : valuesFrom [] 0 (bytes.take start) with
      | error e => rw [hbody] at h; cases h
      | ok body =>
          cases hgroup : lastGroupFrom start [] 0 (bytes.drop start) with
          | error e => rw [hbody, hgroup] at h; cases h
          | ok group =>
              obtain ⟨final, pads⟩ := group
              rw [hbody, hgroup] at h
              simp only [bind, Except.bind] at h
              split at h
              · cases h
              · next htwo =>
                split at h
                · cases h
                · next hfour =>
                  split at h
                  · cases h
                  · next hused =>
                    exact ⟨body, final, pads, rfl, rfl, by omega, by omega, by simpa using hused,
                      Except.ok.inj h⟩
  · rintro ⟨body, final, pads, hbody, hgroup, htwo, hfour, hused, hoctets⟩
    have hfull : bytes.length % 4 = 0 := by
      obtain ⟨_, more, rfl, rfl, -, hdrop, -⟩ := exists_of_lastGroupFrom hgroup
      have hlength := congrArg List.length hdrop
      simp only [List.length_drop, List.length_append, List.length_map,
        List.length_replicate] at hlength
      omega
    rw [if_neg (by simp [hfull]), hbody, hgroup]
    simp only [bind, Except.bind]
    rw [if_neg (Nat.not_lt.2 htwo), if_neg (by simp [hfour]), if_neg (by simp [hused]), hoctets]
    rfl

/-- The symbols of grouped values are read as the octets that the values make. -/
theorem decode_written {body final : List Nat} (h : IsGrouped body final) :
    decode (utf8 (written body final)) = .ok (octetsFrom [] (body ++ final)) := by
  have htwo := h.two_le
  have hfour := h.le_four
  have hdvd := h.four_dvd
  obtain ⟨hbody, hfinal⟩ := List.forall_mem_append.1 h.lt
  have hbytes : utf8 (written body final) = body.map symbolOctet ++
      (final.map symbolOctet ++ List.replicate (4 - final.length) padding) := by
    rw [written, utf8_written h.lt, List.map_append, List.append_assoc]
  have hlength : (utf8 (written body final)).length = body.length + 4 := by
    rw [hbytes]
    simp only [List.length_append, List.length_map, List.length_replicate]
    omega
  have hne : utf8 (written body final) ≠ [] := List.ne_nil_of_length_pos (by omega)
  have hstart : body.length = ((utf8 (written body final)).length - 1) / 4 * 4 := by omega
  refine (decode_eq_ok_iff_read hne hstart).2
    ⟨body, final, 4 - final.length, ?_, ?_, htwo, by omega, h.used, rfl⟩
  · rw [hbytes, List.take_left' (List.length_map _)]
    exact valuesFrom_map hbody [] 0
  · rw [hbytes, List.drop_left' (List.length_map _)]
    exact lastGroupFrom_map hfinal (by simpa using htwo) _ _

/-- Only the symbols of grouped values are read. -/
theorem exists_written {bytes octets : List UInt8} (hne : bytes ≠ [])
    (h : decode bytes = .ok octets) :
    ∃ body final, IsGrouped body final ∧ bytes = utf8 (written body final) ∧
      octetsFrom [] (body ++ final) = octets := by
  obtain ⟨body, final, pads, hbody, hgroup, htwo, hfour, hused, hoctets⟩ :=
    (decode_eq_ok_iff_read hne rfl).1 h
  obtain ⟨_, rfl, hlt, htake⟩ := exists_of_valuesFrom hbody
  obtain ⟨_, more, rfl, rfl, hlt', hdrop, -⟩ := exists_of_lastGroupFrom hgroup
  have hlengths := congrArg List.length htake
  have hlengths' := congrArg List.length hdrop
  simp only [List.length_take, List.length_drop, List.length_append, List.length_map,
    List.length_replicate] at hlengths hlengths'
  have hgrouped : IsGrouped body final :=
    ⟨by omega, htwo, by omega, List.forall_mem_append.2 ⟨hlt, hlt'⟩, hused⟩
  refine ⟨body, final, hgrouped, ?_, hoctets⟩
  have hpads : 4 - final.length = more := by omega
  rw [written, hpads, utf8_written hgrouped.lt, List.map_append, List.append_assoc, ← htake,
    ← hdrop, List.take_append_drop]

/-- Octets are read exactly if they are what is written for what they are read as. -/
theorem decode_eq_ok_iff {bytes octets : List UInt8} :
    decode bytes = .ok octets ↔ bytes = utf8 (encode octets) := by
  constructor
  · intro h
    by_cases hne : bytes = []
    · subst hne
      obtain rfl : [] = octets := Except.ok.inj h
      rfl
    · obtain ⟨body, final, hgrouped, rfl, rfl⟩ := exists_written hne h
      rw [encode_octetsFrom hgrouped]
  · rintro rfl
    by_cases hne : octets = []
    · rw [hne]
      rfl
    · obtain ⟨body, final, hgrouped, rfl⟩ := exists_isGrouped hne
      rw [encode_octetsFrom hgrouped]
      exact decode_written hgrouped

end PacRules.Text.Base64
