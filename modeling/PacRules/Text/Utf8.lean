import PacRules.Text.Basic

/-!
# UTF-8

Texts as octets. Reading is strict or forgiving. A forgiving reading puts one replacement
character for every maximal part of the octets that begins a well-formed sequence and
cannot be continued, and one for every octet that begins none. The second octet of a
sequence is held to the range that its first octet allows, so that overlong forms,
surrogates and values past the last code point are refused at that octet.
-/

namespace PacRules.Text

def utf8 (t : Text) : List UInt8 := t.flatMap String.utf8EncodeChar

@[simp] theorem utf8_nil : utf8 [] = [] := rfl

theorem utf8_cons (c : Char) (t : Text) : utf8 (c :: t) = String.utf8EncodeChar c ++ utf8 t :=
  rfl

theorem utf8_append (s t : Text) : utf8 (s ++ t) = utf8 s ++ utf8 t := List.flatMap_append

def utf8Size (t : Text) : Nat := (utf8 t).length

def replacement : Char := '\ufffd'

/-- What a first octet promises: the number of octets that continue it, the range of the first
of them, and its own share of the value. -/
structure Lead where
  more : Nat
  least : Nat
  most : Nat
  value : Nat

/-- The promise of an octet that begins a sequence of several. -/
def Lead.ofOctet? (b : UInt8) : Option Lead :=
  let n := b.toNat
  if 0xc2 ≤ n && n ≤ 0xdf then some ⟨1, 0x80, 0xbf, n - 0xc0⟩
  else if n = 0xe0 then some ⟨2, 0xa0, 0xbf, 0⟩
  else if n = 0xed then some ⟨2, 0x80, 0x9f, 0xd⟩
  else if 0xe1 ≤ n && n ≤ 0xef then some ⟨2, 0x80, 0xbf, n - 0xe0⟩
  else if n = 0xf0 then some ⟨3, 0x90, 0xbf, 0⟩
  else if 0xf1 ≤ n && n ≤ 0xf3 then some ⟨3, 0x80, 0xbf, n - 0xf0⟩
  else if n = 0xf4 then some ⟨3, 0x80, 0x8f, 4⟩
  else none

/-- What the reader of UTF-8 puts out: a character, or the mark of an ill-formed part. -/
inductive Utf8Item where
  | char (c : Char)
  | illFormed
  deriving DecidableEq

/-- What has been read of a sequence: how many octets are missing, the range of the next one and
the value so far; nothing is missing between two sequences. -/
structure Utf8State where
  missing : Nat := 0
  least : Nat := 0x80
  most : Nat := 0xbf
  value : Nat := 0

def Utf8State.start (b : UInt8) : List Utf8Item × Utf8State :=
  if b.toNat < 0x80 then ([.char (Char.ofNat b.toNat)], {})
  else match Lead.ofOctet? b with
    | some lead => ([], ⟨lead.more, lead.least, lead.most, lead.value⟩)
    | none => ([.illFormed], {})

/-- The reading of one octet. An octet that cannot continue the sequence ends it and is then read
as the beginning of another. -/
def Utf8State.read (s : Utf8State) (b : UInt8) : List Utf8Item × Utf8State :=
  match s.missing with
  | 0 => Utf8State.start b
  | missing + 1 =>
    if s.least ≤ b.toNat && b.toNat ≤ s.most then
      let value := s.value * 64 + (b.toNat - 0x80)
      match missing with
      | 0 => ([.char (Char.ofNat value)], {})
      | left + 1 => ([], ⟨left + 1, 0x80, 0xbf, value⟩)
    else
      let (items, next) := Utf8State.start b
      (.illFormed :: items, next)

/-- The items read from octets, given what has been read, the latest first, in front of them. -/
def utf8ItemsFrom (done : List Utf8Item) (s : Utf8State) : List UInt8 → List Utf8Item
  | [] => match s.missing with
    | 0 => done.reverse
    | _ => (.illFormed :: done).reverse
  | b :: bs =>
    let (items, next) := s.read b
    utf8ItemsFrom (items.reverse ++ done) next bs

theorem utf8ItemsFrom_eq (done : List Utf8Item) (s : Utf8State) (bs : List UInt8) :
    utf8ItemsFrom done s bs = done.reverse ++ utf8ItemsFrom [] s bs := by
  induction bs generalizing done s with
  | nil =>
    unfold utf8ItemsFrom
    split <;> simp
  | cons b bs ih =>
    simp only [utf8ItemsFrom]
    rw [ih, ih ((s.read b).1.reverse ++ [])]
    simp

/-- The items of an octet come before those of the rest. -/
theorem utf8ItemsFrom_cons (s : Utf8State) (b : UInt8) (bs : List UInt8) :
    utf8ItemsFrom [] s (b :: bs) = (s.read b).1 ++ utf8ItemsFrom [] (s.read b).2 bs := by
  simp only [utf8ItemsFrom]
  rw [utf8ItemsFrom_eq]
  simp

def utf8Items (bytes : List UInt8) : List Utf8Item := utf8ItemsFrom [] {} bytes

/-- The text of octets, with a replacement character for each ill-formed part. -/
def ofUtf8Lossy (bytes : List UInt8) : Text :=
  (utf8Items bytes).map fun
    | .char c => c
    | .illFormed => replacement

/-- The text of octets that are well formed throughout. -/
def ofUtf8? (bytes : List UInt8) : Option Text :=
  (utf8Items bytes).mapM fun
    | .char c => some c
    | .illFormed => none

end PacRules.Text
