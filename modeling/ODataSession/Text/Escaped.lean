import ODataSession.Text.Unprintable

/-!
# Escaped text

A text between double quotes in which every character can be told apart: quotes and backslashes
stand behind a backslash, some controls are letters behind a backslash, and other characters that
are not printed are shown by their numbers.
-/

namespace ODataSession.Text

/-- A character in an escaped text. -/
def escapedChar (c : Char) : List Char :=
  if c = '\x00' then ['\\', '0']
  else if c = '\t' then ['\\', 't']
  else if c = '\r' then ['\\', 'r']
  else if c = '\n' then ['\\', 'n']
  else if c = '"' || c = '\\' then ['\\', c]
  else if isUnprintable c then
    '\\' :: 'u' :: '\x7b' :: (Nat.toDigits 16 c.toNat ++ ['\x7d'])
  else [c]

/-- A text between double quotes. -/
def escaped (s : String) : String :=
  String.ofList ('"' :: (s.toList.flatMap escapedChar ++ ['"']))

end ODataSession.Text
