import PacRules.Proofs.Text.CodePoints
import PacRules.Proofs.Text.Front
import PacRules.Settings.FeedProxy

/-!
# The addresses that proxies for fetching have

A proxy is accepted exactly if it is a keyword, blanks and an address by the grammar
`[user:password@]host:number`. The host may hold at signs and the password colons, but the user
holds neither and the host no colon. So the last colon tells the number, and if there is another
colon, the first one and the at sign behind it tell the user and the password. Put together again,
these parts are what followed the blanks, so that it stands unchanged behind the scheme, which the
keyword alone decides.
-/

namespace PacRules.Settings

open PacRules.Text

/-! ### The grammar of addresses -/

/-- A part of an address, in which certain characters are not allowed. -/
structure IsPart (avoided : List Char) (t : Text) : Prop where
  ne_nil : t ≠ []
  not_mem : ∀ c ∈ avoided, c ∉ t
  isBlank_eq_false : ∀ c ∈ t, isBlank c = false

/-- A number in the decimal digits of any script. -/
structure IsNumber (t : Text) : Prop where
  ne_nil : t ≠ []
  digits : ∀ c ∈ t, isDecimalDigit c = true

/-- A host by itself or behind a user and a password. -/
inductive IsServer : Text → Prop where
  | host {host : Text} : IsPart [':'] host → IsServer host
  | userAndHost {user password host : Text} : IsPart [':', '@'] user → IsPart ['@'] password →
      IsPart [':'] host → IsServer (user ++ ':' :: (password ++ '@' :: host))

/-- A server and a number, parted by a colon. -/
def IsProxyAddress (t : Text) : Prop :=
  ∃ server number, t = server ++ ':' :: number ∧ IsServer server ∧ IsNumber number

variable {t front number : Text}

theorem IsNumber.colon_not_mem (h : IsNumber number) : ':' ∉ number := by
  intro hmem
  have hdigit := h.digits ':' hmem
  rw [isDecimalDigit_of_ascii (by decide)] at hdigit
  exact absurd hdigit (by decide)

theorem IsServer.isBlank_eq_false (h : IsServer t) : ∀ c ∈ t, isBlank c = false := by
  cases h with
  | host hhost => exact hhost.isBlank_eq_false
  | userAndHost huser hpassword hhost =>
      intro c hc
      simp only [List.mem_append, List.mem_cons] at hc
      rcases hc with hc | rfl | hc | rfl | hc
      · exact huser.isBlank_eq_false c hc
      · rfl
      · exact hpassword.isBlank_eq_false c hc
      · rfl
      · exact hhost.isBlank_eq_false c hc

theorem IsProxyAddress.isBlank_eq_false (h : IsProxyAddress t) : ∀ c ∈ t, isBlank c = false := by
  obtain ⟨server, number, rfl, hserver, hnumber⟩ := h
  intro c hc
  simp only [List.mem_append, List.mem_cons] at hc
  rcases hc with hc | rfl | hc
  · exact hserver.isBlank_eq_false c hc
  · rfl
  · exact isBlank_eq_false_of_isDecimalDigit (hnumber.digits c hc)

theorem IsProxyAddress.ne_nil (h : IsProxyAddress t) : t ≠ [] := by
  obtain ⟨server, number, rfl, -, -⟩ := h
  simp

/-! ### How addresses are recognised -/

theorem isPlainHost_iff : isPlainHost t = true ↔ t ≠ [] ∧ ':' ∉ t := by
  rw [isPlainHost, Bool.and_eq_true, Bool.not_eq_true', Bool.not_eq_true', any_eq_false_iff]
  simp

/-- The user ends at the first colon, and the password at the next at sign. -/
theorem userAndHost?_eq_some_iff {user password host : Text} :
    userAndHost? t = some (user, password, host) ↔
      t = user ++ ':' :: (password ++ '@' :: host) ∧ (user ≠ [] ∧ ':' ∉ user ∧ '@' ∉ user) ∧
        (password ≠ [] ∧ '@' ∉ password) ∧ isPlainHost host = true := by
  constructor
  · intro h
    rw [userAndHost?] at h
    cases huser : cut? [':'] t with
    | none => simp [huser] at h
    | some found =>
        obtain ⟨user', rest⟩ := found
        cases hpassword : cut? ['@'] rest with
        | none => simp [huser, hpassword] at h
        | some found =>
            obtain ⟨password', host'⟩ := found
            obtain ⟨rfl, hcolon⟩ := cut?_singleton_eq_some_iff.1 huser
            obtain ⟨rfl, hat⟩ := cut?_singleton_eq_some_iff.1 hpassword
            simp only [huser, hpassword, Bool.and_eq_true, Bool.not_eq_true', any_eq_false_iff,
              List.isEmpty_eq_false_iff, Option.ite_none_right_eq_some, Option.some.injEq,
              Prod.mk.injEq] at h
            obtain ⟨⟨⟨⟨hne, hat'⟩, hne'⟩, hhost⟩, rfl, rfl, rfl⟩ := h
            exact ⟨rfl, ⟨hne, hcolon, hat'⟩, ⟨hne', hat⟩, hhost⟩
  · rintro ⟨rfl, ⟨huser, hcolon, hat⟩, ⟨hpassword, hat'⟩, hhost⟩
    simp [userAndHost?, cut?_singleton_append hcolon, cut?_singleton_append hat', huser,
      any_eq_false_iff.2 hat, hpassword, hhost]

/-- The parts of a server are put together as they were found. -/
theorem text_of_server? {server : Server} (h : server? t = some server) : server.text = t := by
  rw [server?] at h
  cases hparts : userAndHost? t with
  | some parts =>
      obtain ⟨user, password, host⟩ := parts
      rw [hparts] at h
      rw [← Option.some.inj h, (userAndHost?_eq_some_iff.1 hparts).1]
      rfl
  | none =>
      simp only [hparts, Option.ite_none_right_eq_some] at h
      rw [← Option.some.inj h.2]
      rfl

theorem takeWhile_reverse_append (hnumber : ':' ∉ number) (backwards : Text) :
    (number.reverse ++ backwards).takeWhile (· ≠ ':') =
      number.reverse ++ backwards.takeWhile (· ≠ ':') := by
  refine List.takeWhile_append_of_pos ?_
  intro c hc
  simp only [ne_eq, decide_eq_true_eq]
  rintro rfl
  exact hnumber (List.mem_reverse.1 hc)

/-- The last colon parts the number from what stands in front of it. -/
theorem serverAndNumber?_append (hnumber : ':' ∉ number) :
    serverAndNumber? (front ++ ':' :: number) =
      if !number.isEmpty && number.all isDecimalDigit && !(front ++ ':' :: number).any isBlank then
        (server? front).map (·, number)
      else none := by
  have hrun : ((front ++ ':' :: number).reverse.takeWhile (· ≠ ':')).reverse = number := by
    have hreverse : (front ++ ':' :: number).reverse = number.reverse ++ ':' :: front.reverse := by
      simp
    rw [hreverse, takeWhile_reverse_append hnumber]
    simp
  have hlength : (front ++ ':' :: number).length = front.length + (number.length + 1) := by
    rw [List.length_append, List.length_cons]
  have hfront : (front ++ ':' :: number).length - number.length - 1 = front.length := by omega
  have hshort : number.length < (front ++ ':' :: number).length := by omega
  simp only [serverAndNumber?, hrun, hfront, List.take_left, decide_eq_true hshort, Bool.true_and]

/-- Without a colon all would be the number. -/
theorem serverAndNumber?_of_not_mem (h : ':' ∉ t) : serverAndNumber? t = none := by
  have hrun : (t.reverse.takeWhile (· ≠ ':')).reverse = t := by
    simpa using congrArg List.reverse (takeWhile_reverse_append h [])
  rw [serverAndNumber?, hrun]
  simp

theorem isSome_server?_iff (hblank : ∀ c ∈ t, isBlank c = false) :
    (server? t).isSome = true ↔ IsServer t := by
  constructor
  · intro h
    rw [server?] at h
    cases hparts : userAndHost? t with
    | some parts =>
        obtain ⟨user, password, host⟩ := parts
        obtain ⟨rfl, ⟨huser, hcolon, hat⟩, ⟨hpassword, hat'⟩, hhost⟩ :=
          userAndHost?_eq_some_iff.1 hparts
        obtain ⟨hhost, hcolon'⟩ := isPlainHost_iff.1 hhost
        exact .userAndHost
          ⟨huser, by simpa using ⟨hcolon, hat⟩, fun c hc => hblank c (by simp [hc])⟩
          ⟨hpassword, by simpa using hat', fun c hc => hblank c (by simp [hc])⟩
          ⟨hhost, by simpa using hcolon', fun c hc => hblank c (by simp [hc])⟩
    | none =>
        have hplain : isPlainHost t = true := by
          by_contra hplain
          simp [hparts, hplain] at h
        obtain ⟨hne, hcolon⟩ := isPlainHost_iff.1 hplain
        exact .host ⟨hne, by simpa using hcolon, hblank⟩
  · intro h
    rw [server?]
    cases h with
    | host hhost =>
        have hplain := isPlainHost_iff.2 ⟨hhost.ne_nil, hhost.not_mem ':' (by simp)⟩
        split
        · rfl
        · rw [if_pos hplain]
          rfl
    | @userAndHost user password host huser hpassword hhost =>
        have hcolon : ':' ∉ user := huser.not_mem ':' (by simp)
        have hat : '@' ∉ user := huser.not_mem '@' (by simp)
        have hat' : '@' ∉ password := hpassword.not_mem '@' (by simp)
        have hplain : isPlainHost host = true :=
          isPlainHost_iff.2 ⟨hhost.ne_nil, hhost.not_mem ':' (by simp)⟩
        have hparts := userAndHost?_eq_some_iff.2
          ⟨rfl, ⟨huser.ne_nil, hcolon, hat⟩, ⟨hpassword.ne_nil, hat'⟩, hplain⟩
        rw [hparts]
        rfl

theorem exists_last_colon (h : ':' ∈ t) :
    ∃ front number, t = front ++ ':' :: number ∧ ':' ∉ number := by
  obtain ⟨back, front, heq, hback⟩ := List.eq_append_cons_of_mem (List.mem_reverse.2 h)
  refine ⟨front.reverse, back.reverse, ?_, mt List.mem_reverse.1 hback⟩
  rw [← List.reverse_reverse t, heq]
  simp

/-- What is told apart is an address of the grammar, and is put together again as it was. -/
theorem of_serverAndNumber? {server : Server} (h : serverAndNumber? t = some (server, number)) :
    IsProxyAddress t ∧ server.text ++ ':' :: number = t := by
  by_cases hcolon : ':' ∈ t
  · obtain ⟨front, number', rfl, hnumber⟩ := exists_last_colon hcolon
    rw [serverAndNumber?_append hnumber, Option.ite_none_right_eq_some, Option.map_eq_some_iff] at h
    obtain ⟨hdigits, server', hserver, heq⟩ := h
    obtain ⟨rfl, rfl⟩ := Prod.mk.inj heq
    simp only [Bool.and_eq_true, Bool.not_eq_true', List.isEmpty_eq_false_iff, List.all_eq_true,
      List.any_eq_false, Bool.not_eq_true] at hdigits
    obtain ⟨⟨hne, hdigits⟩, hblank⟩ := hdigits
    refine ⟨⟨front, number', rfl, ?_, hne, hdigits⟩, by rw [text_of_server? hserver]⟩
    refine (isSome_server?_iff fun c hc => hblank c (by simp [hc])).1 ?_
    rw [hserver]
    rfl
  · rw [serverAndNumber?_of_not_mem hcolon] at h
    cases h

/-- An address of the grammar is told apart. -/
theorem IsProxyAddress.exists_serverAndNumber? (h : IsProxyAddress t) :
    ∃ server number, serverAndNumber? t = some (server, number) := by
  have hblank := h.isBlank_eq_false
  obtain ⟨front, number, rfl, hserver, hnumber⟩ := h
  obtain ⟨server, hfound⟩ :=
    Option.isSome_iff_exists.1 ((isSome_server?_iff hserver.isBlank_eq_false).2 hserver)
  refine ⟨server, number, ?_⟩
  rw [serverAndNumber?_append hnumber.colon_not_mem, if_pos, hfound, Option.map_some]
  simp only [Bool.and_eq_true, Bool.not_eq_true', List.isEmpty_eq_false_iff, List.all_eq_true,
    List.any_eq_false, Bool.not_eq_true]
  exact ⟨⟨hnumber.ne_nil, hnumber.digits⟩, hblank⟩

/-! ### Keywords -/

theorem toUpper_of_not_ascii {c : Char} (h : 128 ≤ c.toNat) : c.toUpper = c := by
  unfold Char.toUpper
  split
  · next hlower =>
      have hle : c.toNat ≤ 'z'.toNat := UInt32.le_iff_toNat_le.1 hlower.2
      exact absurd (Nat.le_trans h hle) (by decide)
  · rfl

/-- A character with an ASCII capital folds to it, and is a blank only if the capital is one. -/
theorem folded_eq_toUpper {c : Char} (h : c.toUpper.toNat < 128) :
    folded c = c.toUpper ∧ isBlank c = isBlank c.toUpper := by
  have hc : c.toNat < 128 := by
    by_contra hc
    rw [toUpper_of_not_ascii (Nat.le_of_not_lt hc)] at h
    exact hc h
  exact forall_char_lt (P := fun c => folded c = c.toUpper ∧ isBlank c = isBlank c.toUpper)
    (by decide) hc

theorem scheme?_eq_some_iff {keyword scheme : Text} :
    scheme? keyword = some scheme ↔
      keyword.map Char.toUpper = "PROXY".toList ∧ scheme = "http".toList ∨
        keyword.map Char.toUpper = "SOCKS5".toList ∧ scheme = "socks5".toList := by
  rw [scheme?]
  by_cases hproxy : keyword.map Char.toUpper = "PROXY".toList
  · have hsocks : keyword.map Char.toUpper ≠ "SOCKS5".toList := by
      rw [hproxy]
      decide
    rw [if_pos hproxy, Option.some.injEq]
    exact ⟨fun h => .inl ⟨hproxy, h.symm⟩, fun h => (h.resolve_right fun h => hsocks h.1).2.symm⟩
  · rw [if_neg hproxy]
    by_cases hsocks : keyword.map Char.toUpper = "SOCKS5".toList
    · rw [if_pos hsocks, Option.some.injEq]
      exact ⟨fun h => .inr ⟨hsocks, h.symm⟩, fun h => (h.resolve_left fun h => hproxy h.1).2.symm⟩
    · rw [if_neg hsocks]
      refine ⟨fun h => absurd h (by simp), ?_⟩
      rintro (⟨h, -⟩ | ⟨h, -⟩)
      · exact absurd h hproxy
      · exact absurd h hsocks

/-- A keyword with a scheme is one of those that are recognised, and holds no blank. -/
theorem keyword_of_scheme? {keyword scheme : Text} (h : scheme? keyword = some scheme) :
    keyword.map folded ∈ keywords ∧ ∀ c ∈ keyword, isBlank c = false := by
  have hcapitals : keyword.map Char.toUpper ∈ keywords ∧
      (keyword.map Char.toUpper).all (fun c => c.toNat < 128 && !isBlank c) = true := by
    rcases scheme?_eq_some_iff.1 h with ⟨heq, -⟩ | ⟨heq, -⟩
    · rw [heq]
      decide
    · rw [heq]
      decide
  have hcapital : ∀ c ∈ keyword, folded c = c.toUpper ∧ isBlank c = false := by
    intro c hc
    have hupper := List.all_eq_true.1 hcapitals.2 c.toUpper (List.mem_map_of_mem hc)
    simp only [Bool.and_eq_true, decide_eq_true_eq, Bool.not_eq_true'] at hupper
    obtain ⟨hfolded, hblank⟩ := folded_eq_toUpper hupper.1
    exact ⟨hfolded, hblank.trans hupper.2⟩
  refine ⟨?_, fun c hc => (hcapital c hc).2⟩
  rw [List.map_congr_left fun c hc => (hcapital c hc).1]
  exact hcapitals.1

/-! ### Keyword, blanks and address -/

variable {raw keyword blanks rest : Text}

theorem parts_append (hkeyword : ∀ c ∈ keyword, isBlank c = false) (hne : blanks ≠ [])
    (hblanks : ∀ c ∈ blanks, isBlank c = true) (hrest : ∀ c ∈ rest, isBlank c = false) :
    (keyword ++ (blanks ++ rest)).takeWhile (fun c => !isBlank c) = keyword ∧
      ((keyword ++ (blanks ++ rest)).dropWhile fun c => !isBlank c).dropWhile isBlank = rest := by
  obtain ⟨b, more, rfl⟩ := List.exists_cons_of_ne_nil hne
  have hb : isBlank b = true := hblanks b List.mem_cons_self
  have hword : ∀ t : Text, (keyword ++ b :: t).takeWhile (fun c => !isBlank c) = keyword ∧
      (keyword ++ b :: t).dropWhile (fun c => !isBlank c) = b :: t :=
    span_append_cons (fun c hc => by simp [hkeyword c hc]) (by simp [hb])
  have hgap : (b :: more ++ rest).takeWhile isBlank = b :: more ∧
      (b :: more ++ rest).dropWhile isBlank = rest :=
    span_append hblanks fun c hc => hrest c (List.mem_of_head? hc)
  rw [List.cons_append, (hword _).1, (hword _).2]
  exact ⟨rfl, hgap.2⟩

/-- What is not blank behind a first word is parted from it by blanks. -/
theorem exists_parts (t : Text)
    (hne : (t.dropWhile fun c => !isBlank c).dropWhile isBlank ≠ []) :
    ∃ blanks, t = (t.takeWhile fun c => !isBlank c) ++
        (blanks ++ (t.dropWhile fun c => !isBlank c).dropWhile isBlank) ∧
      blanks ≠ [] ∧ ∀ c ∈ blanks, isBlank c = true := by
  refine ⟨(t.dropWhile fun c => !isBlank c).takeWhile isBlank, ?_, ?_, ?_⟩
  · rw [List.takeWhile_append_dropWhile, List.takeWhile_append_dropWhile]
  · cases hgap : t.dropWhile fun c => !isBlank c with
    | nil => simp [hgap] at hne
    | cons b more =>
        have hhead := List.head?_dropWhile_not (fun c => !isBlank c) t
        rw [hgap] at hhead
        have hb : isBlank b = true := by simpa using hhead
        simp [hb]
  · intro c hc
    exact List.mem_takeWhile_imp hc

theorem proxyAddress_of_parts {scheme : Text} (heq : trimBlanks raw = keyword ++ (blanks ++ rest))
    (hne : blanks ≠ []) (hblanks : ∀ c ∈ blanks, isBlank c = true) (hrest : IsProxyAddress rest)
    (hscheme : scheme? keyword = some scheme) :
    proxyAddress raw = .ok (scheme ++ "://".toList ++ rest) := by
  obtain ⟨hkeyword, hword⟩ := keyword_of_scheme? hscheme
  obtain ⟨htake, hdrop⟩ := parts_append hword hne hblanks hrest.isBlank_eq_false
  obtain ⟨server, number, hparts⟩ := hrest.exists_serverAndNumber?
  simp only [proxyAddress, heq, htake, hdrop, if_pos (List.contains_iff_mem.2 hkeyword), hparts,
    hscheme, (of_serverAndNumber? hparts).2]

theorem exists_parts_of_proxyAddress {address : Text} (h : proxyAddress raw = .ok address) :
    ∃ keyword blanks rest scheme, trimBlanks raw = keyword ++ (blanks ++ rest) ∧
      (blanks ≠ [] ∧ ∀ c ∈ blanks, isBlank c = true) ∧ IsProxyAddress rest ∧
      scheme? keyword = some scheme ∧ address = scheme ++ "://".toList ++ rest := by
  rw [proxyAddress] at h
  split at h
  · split at h
    · cases h
    · next server number hparts =>
        split at h
        · next scheme hscheme =>
            obtain ⟨hrest, htext⟩ := of_serverAndNumber? hparts
            obtain ⟨blanks, heq, hblanks⟩ := exists_parts (trimBlanks raw) hrest.ne_nil
            refine ⟨_, blanks, _, scheme, heq, hblanks, hrest, hscheme, ?_⟩
            rw [← Except.ok.inj h, htext]
        · cases h
  · cases h

/-- A proxy is accepted exactly if it is one of two keywords in letters of either case, blanks and
an address of the grammar. Its address is the keyword's scheme and, as it stands, what follows
the blanks. -/
theorem proxyAddress_eq_ok_iff (raw address : Text) :
    proxyAddress raw = .ok address ↔
      ∃ keyword blanks rest, trimBlanks raw = keyword ++ (blanks ++ rest) ∧
        (blanks ≠ [] ∧ ∀ c ∈ blanks, isBlank c = true) ∧ IsProxyAddress rest ∧
        (keyword.map Char.toUpper = "PROXY".toList ∧ address = "http://".toList ++ rest ∨
          keyword.map Char.toUpper = "SOCKS5".toList ∧ address = "socks5://".toList ++ rest) := by
  constructor
  · intro h
    obtain ⟨keyword, blanks, rest, scheme, heq, hblanks, hrest, hscheme, rfl⟩ :=
      exists_parts_of_proxyAddress h
    refine ⟨keyword, blanks, rest, heq, hblanks, hrest, ?_⟩
    rcases scheme?_eq_some_iff.1 hscheme with ⟨hkeyword, rfl⟩ | ⟨hkeyword, rfl⟩
    · exact .inl ⟨hkeyword, rfl⟩
    · exact .inr ⟨hkeyword, rfl⟩
  · rintro ⟨keyword, blanks, rest, heq, ⟨hne, hblanks⟩, hrest, ⟨hkeyword, rfl⟩ | ⟨hkeyword, rfl⟩⟩
    · exact proxyAddress_of_parts heq hne hblanks hrest
        (scheme?_eq_some_iff.2 (.inl ⟨hkeyword, rfl⟩))
    · exact proxyAddress_of_parts heq hne hblanks hrest
        (scheme?_eq_some_iff.2 (.inr ⟨hkeyword, rfl⟩))

/-- At signs in the host and colons in the password stay where they are. -/
example : proxyAddress "sOcKs5\t u:p:q@a@b:80".toList = .ok "socks5://u:p:q@a@b:80".toList := rfl

end PacRules.Settings
