import PacRules.Text.Basic

/-!
# Blanks

The characters with the Unicode property `White_Space`, and trimming by them. The property
is wider than the ASCII blanks: it holds of the next-line control, of the no-break space and
of the spaces of the punctuation block, but not of the zero-width space.
-/

namespace PacRules.Text

def isBlank (c : Char) : Bool :=
  ('\t' ≤ c && c ≤ '\r') || c = ' ' || c = '\u0085' || c = '\u00a0' || c = '\u1680' ||
    ('\u2000' ≤ c && c ≤ '\u200a') || c = '\u2028' || c = '\u2029' || c = '\u202f' ||
    c = '\u205f' || c = '\u3000'

def trimBlanks (t : Text) : Text := trim isBlank t

def withoutBlanks (t : Text) : Text := t.filter fun c => !isBlank c

/-- The first word of a text, words being parted by blanks. -/
def firstWord? (t : Text) : Option Text := (fields isBlank t).head?

end PacRules.Text
