import DeviceFeed.Text.Digits

/-!
# Text for a terminal

A log may be shown on a terminal, which obeys some control characters. This
file writes those characters as escapes, so that a message cannot steer the
terminal.
-/

namespace DeviceFeed.Text

/-- Whether a terminal may take the character as a command of one byte. -/
def isShortCommand (c : Char) : Bool :=
  c == '\x07' || c == '\x08' || c == '\x0c' || c == '\x1b' || c == '\x7f'

/-- Whether the character belongs to the second range of control characters. -/
def isLongCommand (c : Char) : Bool :=
  0x80 ≤ c.toNat && c.toNat ≤ 0x9F

/-- A character as a log shows it. -/
def terminalChar (c : Char) : List Char :=
  if isShortCommand c then
    ['\\', 'x', digitChar (c.toNat / 16), digitChar (c.toNat % 16)]
  else if isLongCommand c then
    ['\\', 'u', '\x7b', digitChar (c.toNat / 16), digitChar (c.toNat % 16), '\x7d']
  else
    [c]

def forTerminal (s : String) : String :=
  String.ofList (s.toList.flatMap terminalChar)

end DeviceFeed.Text
