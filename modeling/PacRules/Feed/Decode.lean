import PacRules.Text.Base64
import PacRules.Text.Blank
import PacRules.Text.Lines

/-!
# Rule feeds

A feed is a list of rules in Base64, wrapped at will. Its first line is a banner that names the
format, so the lines are read with the mark of a comment in front of the whole. A comment may
tell when the feed was last modified.
-/

namespace PacRules.Feed

open PacRules.Text

/-- The lines of a feed, and when it was last modified if it says so. -/
structure Decoded where
  lines : List Text
  modified : Option Text
  deriving DecidableEq

def bannerMark : Text := ['!', ' ']

/-- Whether a line is a comment about the last modification. -/
def tellsModified (line : Text) : Bool :=
  line.head? = some '!' && contains "Last Modified".toList line

/-- What the first comment about the last modification says behind its first colon. -/
def modificationTime? (lines : List Text) : Option Text := do
  let line ← lines.find? tellsModified
  let (_, value) ← cut? [':'] line
  return trimBlanks value

def linesOf (text : Text) : List Text := lines (bannerMark ++ text)

def decode (raw : Text) : Except Base64.DecodeError Decoded := do
  let octets ← Base64.decode (utf8 (withoutBlanks raw))
  let lines := linesOf (ofUtf8Lossy octets)
  return { lines, modified := modificationTime? lines }

def errorMessage (e : Base64.DecodeError) : Text :=
  "gfwlist is not valid base64: ".toList ++ e.message

end PacRules.Feed
