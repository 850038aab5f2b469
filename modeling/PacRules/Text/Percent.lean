import PacRules.Text.Digits
import PacRules.Text.Utf8

/-!
# Percent encoding

A percent sign and two hexadecimal digits stand for an octet. A percent sign without two
digits after it stands for itself, and so does every other character. The octets are read
as UTF-8, forgivingly. Written are so the controls and the characters beyond ASCII.
-/

namespace PacRules.Text

def percentOctets : Text → List UInt8
  | '%' :: a :: b :: t =>
    match digitValue? a, digitValue? b with
    | some high, some low => UInt8.ofNat (high * 16 + low) :: percentOctets t
    | _, _ => String.utf8EncodeChar '%' ++ percentOctets (a :: b :: t)
  | c :: t => String.utf8EncodeChar c ++ percentOctets t
  | [] => []

def percentDecoded (t : Text) : Text := ofUtf8Lossy (percentOctets t)

def percentOctet (octet : UInt8) : Text :=
  let digits := toDigits 16 octet.toNat
  '%' :: (List.replicate (2 - digits.length) '0' ++ digits.map Char.toUpper)

/-- A text with its controls and its characters beyond ASCII percent-encoded. -/
def percentEncoded (t : Text) : Text :=
  t.flatMap fun c =>
    if ' ' ≤ c && c ≤ '~' then [c] else (String.utf8EncodeChar c).flatMap percentOctet

end PacRules.Text
