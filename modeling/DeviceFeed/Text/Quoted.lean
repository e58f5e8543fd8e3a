import DeviceFeed.Text.Digits
import DeviceFeed.Text.Glyphs

/-!
# Quoted text

This file writes a text between quotation marks for a message, so that every
character of it can be told: marks, control characters and characters without a
glyph are escaped.
-/

namespace DeviceFeed.Text

/-- Whether a character is shown as it is. -/
def isShown (c : Char) : Bool :=
  if c.toNat < 0x7F then
    0x20 ≤ c.toNat
  else
    !inRanges glyphless c.toNat

def quotedChar (c : Char) : String :=
  if c = '\x00' then "\\0"
  else if c = '\t' then "\\t"
  else if c = '\r' then "\\r"
  else if c = '\n' then "\\n"
  else if c = '"' then "\\\""
  else if c = '\\' then "\\\\"
  else if isShown c then String.singleton c
  else "\\u\x7b" ++ hexadecimal c.toNat ++ "\x7d"

def quoted (s : String) : String :=
  "\"" ++ String.join (s.toList.map quotedChar) ++ "\""

end DeviceFeed.Text
