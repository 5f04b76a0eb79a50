import PgpCard.Text.Printable

/-!
# Text in quotes

In quotes, a text has its quotes and backslashes behind a backslash, a few control characters as
a backslash and a letter, and all other characters that cannot be shown by their number.
-/

set_option autoImplicit false

namespace PgpCard.Quoted

/-- What is written for one character. -/
def escape (c : Char) : List Char :=
  if c = '\x00' then ['\\', '0']
  else if c = '\t' then ['\\', 't']
  else if c = '\r' then ['\\', 'r']
  else if c = '\n' then ['\\', 'n']
  else if c = '\\' then ['\\', '\\']
  else if c = '"' then ['\\', '"']
  else if Printable.isShown c then [c]
  else ['\\', 'u', '\x7b'] ++ Nat.toDigits 16 c.toNat ++ ['\x7d']

/-- A text in quotes. -/
def text (plain : String) : String :=
  String.ofList ('"' :: plain.toList.flatMap escape ++ ['"'])

end PgpCard.Quoted
