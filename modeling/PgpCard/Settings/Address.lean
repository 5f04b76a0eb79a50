import PgpCard.Settings.Number

/-!
# Socket addresses

A socket address is a numeric IP address with a port: `10.0.0.1:80`, or `[2001:db8::1]:80` with
an optional scope as in `[fe80::1%2]:80`.

* `SocketAddress.parse?` reads one, `SocketAddress.text` writes one.  The longest run of zero
  groups of an IPv6 address, the first of several, is written as `::`, and an IPv4 address that
  is mapped into it with its dots.
-/

set_option autoImplicit false

namespace PgpCard

/-- An address and a port. -/
inductive SocketAddress
  | v4 (a b c d : Nat) (port : Nat)
  /-- Eight groups of sixteen bits. -/
  | v6 (groups : List Nat) (scope port : Nat)
  deriving DecidableEq, Repr

namespace SocketAddress

/-! ## Reading -/

/-- What follows a character. -/
def after? (c : Char) : List Char → Option (List Char)
  | [] => none
  | d :: rest => if d = c then some rest else none

/-- One part of an IPv4 address: at most three digits without leading zeros. -/
def readOctet? (text : List Char) : Option (Nat × List Char) :=
  readDigits? 10 256 (some 3) false text

/-- An IPv4 address. -/
def readV4? (text : List Char) : Option ((Nat × Nat × Nat × Nat) × List Char) := do
  let (a, rest) ← readOctet? text
  let (b, rest) ← readOctet? (← after? '.' rest)
  let (c, rest) ← readOctet? (← after? '.' rest)
  let (d, rest) ← readOctet? (← after? '.' rest)
  return ((a, b, c, d), rest)

/-- At most `count` groups with colons between them.  The last two may be written as an IPv4
address, which the flag reports. -/
def readGroups : Nat → Bool → List Char → List Nat × Bool × List Char
  | 0, _, text => ([], false, text)
  | left + 1, isFirst, text =>
    match if isFirst then some text else after? ':' text with
    | none => ([], false, text)
    | some body =>
      match if 0 < left then readV4? body else none with
      | some ((a, b, c, d), rest) => ([256 * a + b, 256 * c + d], true, rest)
      | none =>
        match readDigits? 16 65536 (some 4) true body with
        | none => ([], false, text)
        | some (group, rest) =>
          let (groups, dotted, rest) := readGroups left false rest
          (group :: groups, dotted, rest)

/-- An IPv6 address. -/
def readV6? (text : List Char) : Option (List Nat × List Char) :=
  match readGroups 8 true text with
  | (front, dotted, rest) =>
    if front.length = 8 then some (front, rest)
    else if dotted then none
    else do
      let rest ← after? ':' (← after? ':' rest)
      let (back, _, rest) := readGroups (7 - front.length) true rest
      return (front ++ List.replicate (8 - front.length - back.length) 0 ++ back, rest)

/-- A port with its colon. -/
def readPort? (text : List Char) : Option (Nat × List Char) := do
  readDigits? 10 65536 none true (← after? ':' text)

/-- A scope with its percent sign, zero where there is none. -/
def readScope (text : List Char) : Nat × List Char :=
  match (after? '%' text).bind (readDigits? 10 UInt32.size none true) with
  | some found => found
  | none => (0, text)

/-- An IPv4 address with its port. -/
def readSocketV4? (text : List Char) : Option (SocketAddress × List Char) := do
  let ((a, b, c, d), rest) ← readV4? text
  let (port, rest) ← readPort? rest
  return (.v4 a b c d port, rest)

/-- An IPv6 address in brackets with its port. -/
def readSocketV6? (text : List Char) : Option (SocketAddress × List Char) := do
  let (groups, rest) ← readV6? (← after? '[' text)
  let (scope, rest) := readScope rest
  let (port, rest) ← readPort? (← after? ']' rest)
  return (.v6 groups scope port, rest)

/-- The address that a whole text denotes. -/
def parse? (text : String) : Option SocketAddress :=
  match (readSocketV4? text.toList).or (readSocketV6? text.toList) with
  | some (address, []) => some address
  | _ => none

/-! ## Writing -/

/-- A group in lower-case hexadecimal digits without leading zeros. -/
def groupText (group : Nat) : String := String.ofList (Nat.toDigits 16 group)

/-- Groups with colons between them. -/
def groupsText (groups : List Nat) : String := ":".intercalate (groups.map groupText)

/-- The length of the run of zeros in front. -/
def zeroRun (groups : List Nat) : Nat := (groups.takeWhile (· == 0)).length

/-- The first longest run of zeros: where it starts and how long it is. -/
def longestRun (groups : List Nat) : Nat × Nat :=
  (List.range groups.length).foldl (fun best i =>
    let run := zeroRun (groups.drop i)
    if best.2 < run then (i, run) else best) (0, 0)

/-- An IPv4 address in dotted form. -/
def dottedText (a b c d : Nat) : String := s!"{a}.{b}.{c}.{d}"

/-- An IPv6 address. -/
def v6Text (groups : List Nat) : String :=
  match groups with
  | [0, 0, 0, 0, 0, 0xFFFF, high, low] =>
    "::ffff:" ++ dottedText (high / 256) (high % 256) (low / 256) (low % 256)
  | _ =>
    let (start, length) := longestRun groups
    if 1 < length then
      groupsText (groups.take start) ++ "::" ++ groupsText (groups.drop (start + length))
    else groupsText groups

/-- An address as text. -/
def text : SocketAddress → String
  | .v4 a b c d port => s!"{dottedText a b c d}:{port}"
  | .v6 groups 0 port => s!"[{v6Text groups}]:{port}"
  | .v6 groups scope port => s!"[{v6Text groups}%{scope}]:{port}"

end SocketAddress

end PgpCard
