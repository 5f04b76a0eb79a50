import PgpCard.Text.Base64

/-!
# Base64 gives back what it was given

* `decode?_encode`   : reading the symbols of some bytes gives those bytes;
* `isSymbol_of_mem`  : what is written holds letters, digits, `+`, `/` and `=` only.
-/

set_option autoImplicit false

namespace PgpCard.Base64

/-! ## Symbols -/

theorem value?_symbol_all : ∀ n < 64, value? (symbol n) = some n := by decide

theorem value?_symbol {n : Nat} (h : n < 64) : value? (symbol n) = some n :=
  value?_symbol_all n h

theorem symbol_ne_filler_all : ∀ n < 64, symbol n ≠ filler := by decide

theorem symbol_ne_filler {n : Nat} (h : n < 64) : symbol n ≠ filler :=
  symbol_ne_filler_all n h

/-! ## Groups -/

/-- A byte is what its number denotes. -/
theorem ofNat_eq {n : Nat} {b : UInt8} (h : n = b.toNat) : UInt8.ofNat n = b := by
  rw [h, UInt8.ofNat_toNat]

theorem lastOne?_symbols (a : UInt8) :
    lastOne? (symbol (16 * a.toNat / 64)) (symbol (16 * a.toNat % 64)) = some [a] := by
  have ha := a.toNat_lt
  rw [lastOne?, value?_symbol (by omega), value?_symbol (by omega)]
  simp only [if_pos (show 16 * a.toNat % 64 % 16 = 0 by omega)]
  rw [ofNat_eq (b := a) (by omega)]

theorem lastTwo?_symbols (a b : UInt8) {n : Nat} (hn : n = 4 * (256 * a.toNat + b.toNat)) :
    lastTwo? (symbol (n / 4096)) (symbol (n / 64 % 64)) (symbol (n % 64)) = some [a, b] := by
  have ha := a.toNat_lt
  have hb := b.toNat_lt
  rw [lastTwo?, value?_symbol (by omega), value?_symbol (by omega), value?_symbol (by omega)]
  simp only [if_pos (show n % 64 % 4 = 0 by omega)]
  rw [ofNat_eq (b := a) (by omega), ofNat_eq (b := b) (by omega)]

theorem three?_symbols (a b c : UInt8) {n : Nat}
    (hn : n = 65536 * a.toNat + 256 * b.toNat + c.toNat) :
    three? (symbol (n / 262144)) (symbol (n / 4096 % 64)) (symbol (n / 64 % 64))
      (symbol (n % 64)) = some [a, b, c] := by
  have ha := a.toNat_lt
  have hb := b.toNat_lt
  have hc := c.toNat_lt
  rw [three?, value?_symbol (by omega), value?_symbol (by omega), value?_symbol (by omega),
    value?_symbol (by omega)]
  simp only
  rw [ofNat_eq (b := a) (by omega), ofNat_eq (b := b) (by omega), ofNat_eq (b := c) (by omega)]

/-! ## Whole strings -/

theorem encode_ne_nil {bytes : Bytes} (h : bytes ≠ []) : encode bytes ≠ [] := by
  match bytes with
  | [_] => simp [encode]
  | [_, _] => simp [encode]
  | _ :: _ :: _ :: _ => simp [encode]

/-- A group that is not the last one is read on its own. -/
theorem decode?_group {s t u v : UInt8} {rest : Bytes} (h : rest ≠ []) :
    decode? (s :: t :: u :: v :: rest) =
      match three? s t u v, decode? rest with
      | some group, some bytes => some (group ++ bytes)
      | _, _ => none := by
  match rest with
  | first :: more =>
    cases group : three? s t u v <;> cases others : decode? (first :: more) <;>
      simp [decode?, group, others]

/-- Reading the symbols of some bytes gives those bytes. -/
theorem decode?_encode (bytes : Bytes) : decode? (encode bytes) = some bytes := by
  fun_induction encode bytes with
  | case1 => rfl
  | case2 a n => simp [decode?, lastOne?_symbols, n]
  | case3 a b n =>
    have hn : n % 64 < 64 := Nat.mod_lt _ (by decide)
    simp [decode?, symbol_ne_filler hn, lastTwo?_symbols a b rfl, n]
  | case4 a b c rest n ih =>
    have hn : n % 64 < 64 := Nat.mod_lt _ (by decide)
    by_cases last : rest = []
    · subst last
      rw [encode, decode?, if_neg (symbol_ne_filler hn)]
      exact three?_symbols a b c rfl
    · rw [decode?_group (encode_ne_nil last), three?_symbols a b c rfl, ih]
      rfl

/-! ## The alphabet -/

/-- A byte that may stand in what is written: it needs no escape in a quoted text. -/
def isSymbol (b : UInt8) : Bool := 43 ≤ b && b ≤ 122 && b ≠ 92

theorem isSymbol_symbol_all : ∀ n < 64, isSymbol (symbol n) = true := by decide

theorem isSymbol_symbol {n : Nat} (h : n < 64) : isSymbol (symbol n) = true :=
  isSymbol_symbol_all n h

/-- What is written holds symbols and fillers only. -/
theorem isSymbol_of_mem (bytes : Bytes) : ∀ b ∈ encode bytes, isSymbol b = true := by
  have filler_isSymbol : isSymbol filler = true := by decide
  fun_induction encode bytes with
  | case1 => simp
  | case2 a n =>
    have ha := a.toNat_lt
    simp [filler_isSymbol, isSymbol_symbol (show n / 64 < 64 by omega),
      isSymbol_symbol (show n % 64 < 64 by omega)]
  | case3 a b n =>
    have ha := a.toNat_lt
    have hb := b.toNat_lt
    simp [filler_isSymbol, isSymbol_symbol (show n / 4096 < 64 by omega),
      isSymbol_symbol (show n / 64 % 64 < 64 by omega),
      isSymbol_symbol (show n % 64 < 64 by omega)]
  | case4 a b c rest n ih =>
    have ha := a.toNat_lt
    have hb := b.toNat_lt
    have hc := c.toNat_lt
    simp only [List.mem_cons]
    rintro x (rfl | rfl | rfl | rfl | hx)
    · exact isSymbol_symbol (by omega)
    · exact isSymbol_symbol (by omega)
    · exact isSymbol_symbol (by omega)
    · exact isSymbol_symbol (by omega)
    · exact ih x hx

end PgpCard.Base64
