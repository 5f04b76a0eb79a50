import PgpCard.Text.Hex

/-!
# Numbers in text

* `readDigits?` reads the digits in front of a text as a number.
* `parseUnsigned` reads a whole text as an unsigned number, with an optional plus sign.
-/

set_option autoImplicit false

namespace PgpCard

/-- Why a text is no unsigned number. -/
inductive NumberError
  | empty
  | invalidDigit
  | tooLarge
  deriving DecidableEq, Repr

/-- The failure in words. -/
def NumberError.message : NumberError → String
  | .empty => "cannot parse integer from empty string"
  | .invalidDigit => "invalid digit found in string"
  | .tooLarge => "number too large to fit in target type"

/-- The value of a digit in a radix of at most sixteen. -/
def digitIn? (radix : Nat) (c : Char) : Option Nat :=
  (Hex.digit? c).filter (· < radix)

/-- Goes on reading a number below a bound.  A character that is no digit is reported before a
value that is too large. -/
def accumulate (radix bound : Nat) : Nat → List Char → Except NumberError Nat
  | value, [] => .ok value
  | value, c :: rest =>
    match digitIn? radix c with
    | none => .error .invalidDigit
    | some digit =>
      let next := value * radix + digit
      if next < bound then accumulate radix bound next rest else .error .tooLarge

/-- The unsigned number below a bound that a whole text denotes. -/
def parseUnsigned (radix bound : Nat) (text : List Char) : Except NumberError Nat :=
  match text with
  | [] => .error .empty
  | ['+'] => .error .invalidDigit
  | '+' :: digits => accumulate radix bound 0 digits
  | digits => accumulate radix bound 0 digits

/-- The number that the digits in front of a text denote, and what follows them.  There is at
least one digit and, where a limit is given, no more than that; leading zeros stand only where
they are allowed. -/
def readDigits? (radix bound : Nat) (most : Option Nat) (leadingZeros : Bool)
    (text : List Char) : Option (Nat × List Char) :=
  let isDigit := fun c => (digitIn? radix c).isSome
  let digits := text.takeWhile isDigit
  if digits.isEmpty then none
  else if most.any (· < digits.length) then none
  else if !leadingZeros && digits.head? == some '0' && 1 < digits.length then none
  else match accumulate radix bound 0 digits with
    | .error _ => none
    | .ok value => some (value, text.dropWhile isDigit)

end PgpCard
