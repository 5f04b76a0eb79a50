import PgpCard.Text.Utf8
import PgpCard.Text.Hex

/-!
# JSON documents

Records are kept as JSON text.  A document is read without looking into its strings: a string
value holds the bytes between its quotes, and `Json.text?` decodes them where they matter.  Of
numbers only the unsigned integers are told apart, since no record holds any other.

* `Json.print` writes a document without blanks.
* `Json.parse?` reads one document with blanks around it and between its tokens.
* `Json.quote` and `Json.text?` write and read what stands between the quotes of a string.

The readers recurse on fuel.  Every token takes at least one byte and is reached in at most two
calls, so twice the number of bytes is enough, and `parse?` provides it.
-/

set_option autoImplicit false

namespace PgpCard

/-- A JSON value. -/
inductive Json
  | null
  | bool (b : Bool)
  /-- A number written with digits only. -/
  | natural (n : Nat)
  /-- A number with a sign, a fraction or an exponent. -/
  | otherNumber
  /-- The bytes between the quotes, escapes and all. -/
  | string (raw : Bytes)
  | array (items : List Json)
  | object (members : List (Bytes × Json))
  deriving Repr

namespace Json

/-! ## Writing -/

/-- The decimal digits of a number. -/
def digits (n : Nat) : Bytes :=
  if n < 10 then [UInt8.ofNat (48 + n)]
  else digits (n / 10) ++ [UInt8.ofNat (48 + n % 10)]

mutual
/-- A document as text. -/
def print : Json → Bytes
  | null => Bytes.ascii "null"
  | bool true => Bytes.ascii "true"
  | bool false => Bytes.ascii "false"
  | natural n => digits n
  | otherNumber => Bytes.ascii "-0"
  | string raw => 34 :: raw ++ [34]
  | array [] => [91, 93]
  | array (item :: items) => 91 :: print item ++ printItems items
  | object [] => [123, 125]
  | object ((name, value) :: members) =>
    123 :: 34 :: name ++ 34 :: 58 :: print value ++ printMembers members

/-- The items of an array after its first one, with the bracket that closes it. -/
def printItems : List Json → Bytes
  | [] => [93]
  | item :: items => 44 :: print item ++ printItems items

/-- The members of an object after its first one, with the brace that closes it. -/
def printMembers : List (Bytes × Json) → Bytes
  | [] => [125]
  | (name, value) :: members =>
    44 :: 34 :: name ++ 34 :: 58 :: print value ++ printMembers members
end

/-- What is written for one byte of a string: quotes, backslashes and control characters are
escaped. -/
def quoteByte (b : UInt8) : Bytes :=
  if b = 34 then [92, 34]
  else if b = 92 then [92, 92]
  else if b < 32 then
    Bytes.ascii "\\u00" ++
      [UInt8.ofNat (48 + b.toNat / 16), UInt8.ofNat (Hex.digit (b.toNat % 16)).toNat]
  else [b]

/-- What stands between the quotes for the bytes of a text. -/
def quote (text : Bytes) : Bytes := text.flatMap quoteByte

/-! ## Reading what stands between quotes -/

/-- The number that four hexadecimal digits denote. -/
def hexNumber? (a b c d : UInt8) : Option Nat :=
  let digit? (b : UInt8) : Option Nat := Hex.digit? (Char.ofNat b.toNat)
  match digit? a, digit? b, digit? c, digit? d with
  | some w, some x, some y, some z => some (4096 * w + 256 * x + 16 * y + z)
  | _, _, _, _ => none

/-- The byte that a one-letter escape stands for. -/
def escaped? (letter : UInt8) : Option UInt8 :=
  match letter with
  | 34 => some 34
  | 92 => some 92
  | 47 => some 47
  | 98 => some 8
  | 102 => some 12
  | 110 => some 10
  | 114 => some 13
  | 116 => some 9
  | _ => none

/-- The bytes between quotes with their escapes replaced.  A code point outside the basic plane
is escaped as a pair of surrogates, and a surrogate without its partner is refused. -/
def unescape? : Bytes → Option Bytes
  | [] => some []
  | 92 :: 117 :: a :: b :: c :: d :: rest =>
    match hexNumber? a b c d with
    | none => none
    | some n =>
      if n < 0xD800 ∨ 0xE000 ≤ n then (unescape? rest).map (Utf8.encodePoint n ++ ·)
      else if 0xDC00 ≤ n then none
      else match rest with
        | 92 :: 117 :: a :: b :: c :: d :: rest =>
          match hexNumber? a b c d with
          | none => none
          | some m =>
            if 0xDC00 ≤ m ∧ m < 0xE000 then
              (unescape? rest).map
                (Utf8.encodePoint (0x10000 + 1024 * (n - 0xD800) + (m - 0xDC00)) ++ ·)
            else none
        | _ => none
  | 92 :: letter :: rest =>
    match escaped? letter, unescape? rest with
    | some b, some bytes => some (b :: bytes)
    | _, _ => none
  | b :: rest => (unescape? rest).map (b :: ·)

/-- The bytes of the text between quotes, if they are well-formed. -/
def unquote? (raw : Bytes) : Option Bytes :=
  match unescape? raw with
  | none => none
  | some bytes => if (Utf8.decode? bytes).isSome then some bytes else none

/-- The bytes of a string value's text. -/
def text? : Json → Option Bytes
  | string raw => unquote? raw
  | _ => none

/-! ## Reading documents -/

/-- A byte that may stand between tokens. -/
def isBlank (b : UInt8) : Bool :=
  b == 32 || b == 9 || b == 10 || b == 13

/-- The text after its leading blanks. -/
def skipBlanks (text : Bytes) : Bytes := text.dropWhile isBlank

/-- A byte that is a decimal digit. -/
def isDigit (b : UInt8) : Bool := 48 ≤ b && b ≤ 57

/-- The digits in front, at least one, and what follows them. -/
def readDigits? (text : Bytes) : Option (Bytes × Bytes) :=
  match text.takeWhile isDigit with
  | [] => none
  | first :: more => some (first :: more, text.dropWhile isDigit)

/-- The number that decimal digits denote. -/
def ofDigits (ds : Bytes) : Nat :=
  Numeral.valueOfLong 10 (ds.map fun d => d.toNat - 48)

/-- What follows an integer: a fraction, an exponent, both or nothing.  The flag tells whether
there is anything. -/
def readTail? (text : Bytes) : Option (Bool × Bytes) :=
  let fraction : Option (Bool × Bytes) :=
    match text with
    | 46 :: rest => (readDigits? rest).map fun (_, rest) => (true, rest)
    | _ => some (false, text)
  match fraction with
  | none => none
  | some (found, rest) =>
    match rest with
    | e :: rest' =>
      if e = 101 ∨ e = 69 then
        let unsigned :=
          match rest' with
          | s :: more => if s = 43 ∨ s = 45 then more else rest'
          | [] => rest'
        (readDigits? unsigned).map fun (_, rest) => (true, rest)
      else some (found, rest)
    | [] => some (found, rest)

/-- Reads an integer without leading zeros and what belongs to the same number. -/
def readNumber? (negative : Bool) (text : Bytes) : Option (Json × Bytes) :=
  match readDigits? text with
  | none => none
  | some (ds, rest) =>
    if ds.head? = some 48 ∧ 1 < ds.length then none
    else match readTail? rest with
      | none => none
      | some (found, rest) =>
        some (if negative || found then otherNumber else natural (ofDigits ds), rest)

/-- What stands before the closing quote, and what follows that quote.  Escapes are checked for
their form only. -/
def readString? : Bytes → Option (Bytes × Bytes)
  | [] => none
  | 34 :: rest => some ([], rest)
  | 92 :: 117 :: a :: b :: c :: d :: rest =>
    match hexNumber? a b c d, readString? rest with
    | some _, some (raw, rest) => some (92 :: 117 :: a :: b :: c :: d :: raw, rest)
    | _, _ => none
  | 92 :: letter :: rest =>
    match escaped? letter, readString? rest with
    | some _, some (raw, rest) => some (92 :: letter :: raw, rest)
    | _, _ => none
  | b :: rest =>
    if b < 32 ∨ b = 92 then none
    else (readString? rest).map fun (raw, rest) => (b :: raw, rest)

/-- What follows a literal, if the text starts with it. -/
def readLiteral? (literal : Bytes) (value : Json) (text : Bytes) : Option (Json × Bytes) :=
  if literal.isPrefixOf text then some (value, text.drop literal.length) else none

mutual
/-- Reads one value with the blanks in front of it. -/
def readValue? : Nat → Bytes → Option (Json × Bytes)
  | 0, _ => none
  | fuel + 1, text =>
    match skipBlanks text with
    | 34 :: rest => (readString? rest).map fun (raw, rest) => (string raw, rest)
    | 91 :: rest =>
      match skipBlanks rest with
      | 93 :: rest => some (array [], rest)
      | _ => (readItems? fuel rest).map fun (items, rest) => (array items, rest)
    | 123 :: rest =>
      match skipBlanks rest with
      | 125 :: rest => some (object [], rest)
      | _ => (readMembers? fuel rest).map fun (members, rest) => (object members, rest)
    | 110 :: rest => readLiteral? (Bytes.ascii "ull") null rest
    | 116 :: rest => readLiteral? (Bytes.ascii "rue") (bool true) rest
    | 102 :: rest => readLiteral? (Bytes.ascii "alse") (bool false) rest
    | 45 :: rest => readNumber? true rest
    | rest => readNumber? false rest

/-- Reads the items of an array up to the bracket that closes it, at least one. -/
def readItems? : Nat → Bytes → Option (List Json × Bytes)
  | 0, _ => none
  | fuel + 1, text =>
    match readValue? fuel text with
    | none => none
    | some (item, rest) =>
      match skipBlanks rest with
      | 93 :: rest => some ([item], rest)
      | 44 :: rest => (readItems? fuel rest).map fun (items, rest) => (item :: items, rest)
      | _ => none

/-- Reads the members of an object up to the brace that closes it, at least one. -/
def readMembers? : Nat → Bytes → Option (List (Bytes × Json) × Bytes)
  | 0, _ => none
  | fuel + 1, text =>
    match skipBlanks text with
    | 34 :: rest =>
      match readString? rest with
      | none => none
      | some (name, rest) =>
        match skipBlanks rest with
        | 58 :: rest =>
          match readValue? fuel rest with
          | none => none
          | some (value, rest) =>
            match skipBlanks rest with
            | 125 :: rest => some ([(name, value)], rest)
            | 44 :: rest =>
              (readMembers? fuel rest).map fun (members, rest) =>
                ((name, value) :: members, rest)
            | _ => none
        | _ => none
    | _ => none
end

/-- The document that a whole text holds. -/
def parse? (text : Bytes) : Option Json :=
  match readValue? (2 * text.length + 1) text with
  | some (value, rest) => if (skipBlanks rest).isEmpty then some value else none
  | none => none

end Json

end PgpCard
