import Blitter.Text.Hex
import Blitter.Text.Unprinted

/-!
# Quoted text

The form in which messages show a name that came from outside: between double quotes, with the
quote, the backslash and the common control characters written by two-character escapes, and a
character without a shape of its own written by its number in braces.
-/

namespace Blitter.Text

/-- How a quoted text writes one character. -/
def quotedChar (c : Char) : List Char :=
  if c = '"' then ['\\', '"']
  else if c = '\\' then ['\\', '\\']
  else if c = '\n' then ['\\', 'n']
  else if c = '\r' then ['\\', 'r']
  else if c = '\t' then ['\\', 't']
  else if c.toNat = 0 then ['\\', '0']
  else if isUnprinted c then
    '\\' :: 'u' :: '\x7b' :: hexDigits .lower c.toNat ++ ['\x7d']
  else [c]

/-- The text between double quotes. -/
def quoted (s : String) : String :=
  String.ofList ('"' :: s.toList.flatMap quotedChar ++ ['"'])

end Blitter.Text
