/-
Text in quotes, for messages.

* `quoted` — a text between two quotes, with an escape for whatever a line cannot show:
  quotes and backslashes, tabs and ends of lines, and unseen characters by their number.
-/
import Telemetry.Text.Unseen

namespace Telemetry.Text

/-- A character by its number in hexadecimal. -/
def numbered (c : Char) : List Char :=
  "\\u\x7b".toList ++ Nat.toDigits 16 c.toNat ++ ['\x7d']

/-- A character as it stands between quotes. -/
def quotedChar (c : Char) : List Char :=
  if c = '"' ∨ c = '\\' then ['\\', c]
  else if c = '\n' then ['\\', 'n']
  else if c = '\r' then ['\\', 'r']
  else if c = '\t' then ['\\', 't']
  else if c = '\x00' then ['\\', '0']
  else if isUnseen c then numbered c
  else [c]

/-- A text between two quotes. -/
def quoted (s : String) : String :=
  String.ofList ('"' :: s.toList.flatMap quotedChar ++ ['"'])

end Telemetry.Text
