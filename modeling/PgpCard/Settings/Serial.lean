import PgpCard.Settings.Number
import PgpCard.Text.Quoted

/-!
# Serial numbers as text

A serial number is written in hexadecimal digits, after any number of `0x` and then of `0X`.
-/

set_option autoImplicit false

namespace PgpCard.Serial

/-- The text without the pairs of `0` and a letter in front of it. -/
def skipMarks (letter : Char) : List Char → List Char
  | '0' :: c :: rest => if c = letter then skipMarks letter rest else '0' :: c :: rest
  | text => text

/-- The digits of a serial number. -/
def digits (text : String) : List Char := skipMarks 'X' (skipMarks 'x' text.toList)

/-- The serial number that a text denotes. -/
def parse (text : String) : Except NumberError UInt32 :=
  (parseUnsigned 16 UInt32.size (digits text)).map UInt32.ofNat

/-- What is said about a text that denotes no serial number. -/
def complaint (text : String) (error : NumberError) : String :=
  s!"invalid serial {Quoted.text text}: {error.message}"

end PgpCard.Serial
