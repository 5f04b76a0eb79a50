import PgpCard.Text.Json

/-!
# Reading a document that was written

Strings are plain here: they hold no quote, no backslash and no control character, so nothing in
them is escaped.

* `readNumber?_digits` : the digits of a number are read as that number;
* `readValue?_print`   : a plain document is read back from the text that it is written as, and
  reading stops where that text ends;
* `parse?_print`       : the fuel that `parse?` provides is enough for that.
-/

set_option autoImplicit false

namespace PgpCard.Json

/-! ## Plain documents -/

/-- A byte that stands for itself between quotes. -/
def IsPlainByte (b : UInt8) : Prop := ¬ b < 32 ∧ b ≠ 34 ∧ b ≠ 92

/-- A string in which every byte stands for itself. -/
def IsPlainText (raw : Bytes) : Prop := ∀ b ∈ raw, IsPlainByte b

mutual
/-- A document whose strings and names are plain. -/
def IsPlain : Json → Prop
  | string raw => IsPlainText raw
  | array items => ArePlain items
  | object members => HavePlain members
  | _ => True

/-- Items that are plain documents. -/
def ArePlain : List Json → Prop
  | [] => True
  | item :: items => IsPlain item ∧ ArePlain items

/-- Members with plain names and plain values. -/
def HavePlain : List (Bytes × Json) → Prop
  | [] => True
  | (name, value) :: members => IsPlainText name ∧ IsPlain value ∧ HavePlain members
end

/-! ## The fuel that reading takes -/

mutual
/-- The fuel that is enough for a document. -/
def fuel : Json → Nat
  | array items => 1 + fuelItems items
  | object members => 1 + fuelMembers members
  | _ => 1

/-- The fuel that is enough for the items of an array. -/
def fuelItems : List Json → Nat
  | [] => 0
  | item :: items => 1 + fuel item + fuelItems items

/-- The fuel that is enough for the members of an object. -/
def fuelMembers : List (Bytes × Json) → Nat
  | [] => 0
  | (_, value) :: members => 1 + fuel value + fuelMembers members
end

/-! ## Digits -/

/-- What follows a value: the end of the text, a comma or a closing bracket. -/
def IsDelimited (rest : Bytes) : Prop :=
  ∀ b more, rest = b :: more → b = 44 ∨ b = 93 ∨ b = 125

theorem isDelimited_nil : IsDelimited [] := by
  intro b more h
  cases h

theorem isDelimited_cons {b : UInt8} {more : Bytes} (h : b = 44 ∨ b = 93 ∨ b = 125) :
    IsDelimited (b :: more) := by
  intro b' more' heq
  cases heq
  exact h

theorem isDigit_ofNat_all : ∀ n < 10, isDigit (UInt8.ofNat (48 + n)) = true := by decide

theorem toNat_digit_all : ∀ n < 10, (UInt8.ofNat (48 + n)).toNat - 48 = n := by decide

theorem isDigit_of_mem_digits (n : Nat) : ∀ d ∈ digits n, isDigit d = true := by
  induction n using digits.induct with
  | case1 n small =>
    rw [digits, if_pos small]
    simpa using isDigit_ofNat_all n small
  | case2 n large ih =>
    rw [digits, if_neg large]
    intro d hd
    rcases List.mem_append.mp hd with hd | hd
    · exact ih d hd
    · rw [List.mem_singleton.mp hd]
      exact isDigit_ofNat_all _ (Nat.mod_lt _ (by decide))

theorem digits_ne_nil (n : Nat) : digits n ≠ [] := by
  rw [digits]
  split
  · simp
  · simp

theorem value_digits (n : Nat) :
    Numeral.value 10 ((digits n).map fun d => d.toNat - 48) = n := by
  induction n using digits.induct with
  | case1 n small =>
    rw [digits, if_pos small, List.map_singleton, toNat_digit_all n small]
    simp [Numeral.value]
  | case2 n large ih =>
    have last := toNat_digit_all (n % 10) (Nat.mod_lt _ (by decide))
    rw [digits, if_neg large, List.map_append, Numeral.value_append, ih]
    simp only [List.map_cons, List.map_nil, List.length_singleton, last]
    rw [show Numeral.value 10 [n % 10] = n % 10 by simp [Numeral.value]]
    rw [show Nat.pow 10 1 = 10 from rfl]
    omega

/-- Only zero is written with a zero in front. -/
theorem head?_digits {n : Nat} (h : (digits n).head? = some 48) : n = 0 := by
  induction n using digits.induct with
  | case1 n small =>
    rw [digits, if_pos small, List.head?_cons, Option.some.injEq] at h
    have := toNat_digit_all n small
    rw [h] at this
    exact this.symm
  | case2 n large ih =>
    obtain ⟨d, ds, hd⟩ := List.exists_cons_of_ne_nil (digits_ne_nil (n / 10))
    rw [digits, if_neg large, hd, List.cons_append, List.head?_cons] at h
    have := ih (by rw [hd, List.head?_cons, h])
    omega

theorem no_leading_zero (n : Nat) :
    ¬ ((digits n).head? = some 48 ∧ 1 < (digits n).length) := by
  rintro ⟨zero, long⟩
  rw [head?_digits zero, digits, if_pos (by decide)] at long
  exact absurd long (by decide)

theorem takeWhile_digits {ds rest : Bytes} (hd : ∀ d ∈ ds, isDigit d = true)
    (hr : IsDelimited rest) : (ds ++ rest).takeWhile isDigit = ds := by
  induction ds with
  | nil =>
    cases rest with
    | nil => rfl
    | cons b more => rcases hr b more rfl with rfl | rfl | rfl <;> rfl
  | cons d ds ih =>
    rw [List.cons_append, List.takeWhile_cons_of_pos (hd d List.mem_cons_self),
      ih fun d hd' => hd d (List.mem_cons_of_mem _ hd')]

theorem dropWhile_digits {ds rest : Bytes} (hd : ∀ d ∈ ds, isDigit d = true)
    (hr : IsDelimited rest) : (ds ++ rest).dropWhile isDigit = rest := by
  have whole := List.takeWhile_append_dropWhile (p := isDigit) (l := ds ++ rest)
  rw [takeWhile_digits hd hr] at whole
  exact List.append_cancel_left whole

theorem readDigits?_digits (n : Nat) {rest : Bytes} (hr : IsDelimited rest) :
    readDigits? (digits n ++ rest) = some (digits n, rest) := by
  have hd := isDigit_of_mem_digits n
  obtain ⟨d, ds, hcons⟩ := List.exists_cons_of_ne_nil (digits_ne_nil n)
  rw [readDigits?, takeWhile_digits hd hr, dropWhile_digits hd hr, hcons]

theorem readTail?_delimited {rest : Bytes} (hr : IsDelimited rest) :
    readTail? rest = some (false, rest) := by
  cases rest with
  | nil => rfl
  | cons b more => rcases hr b more rfl with rfl | rfl | rfl <;> rfl

/-- The digits of a number are read as that number. -/
theorem readNumber?_digits (n : Nat) {rest : Bytes} (hr : IsDelimited rest) :
    readNumber? false (digits n ++ rest) = some (natural n, rest) := by
  rw [readNumber?, readDigits?_digits n hr]
  simp only
  rw [if_neg (no_leading_zero n), readTail?_delimited hr]
  simp only [Bool.or_false, Bool.false_eq_true, if_false]
  rw [ofDigits, Numeral.valueOfLong_eq, value_digits]

/-! ## Strings -/

theorem readString?_plain {raw : Bytes} (h : IsPlainText raw) (rest : Bytes) :
    readString? (raw ++ 34 :: rest) = some (raw, rest) := by
  induction raw with
  | nil => rw [List.nil_append, readString?]
  | cons b raw ih =>
    obtain ⟨printable, no_quote, no_backslash⟩ := h b List.mem_cons_self
    have tail := ih fun c hc => h c (List.mem_cons_of_mem _ hc)
    rw [List.cons_append, readString?]
    · rw [if_neg (by rintro (low | slash) <;> contradiction), tail]
      rfl
    · exact no_quote
    · intro _ _ _ _ _ slash
      exact absurd slash no_backslash
    · intro _ _ slash
      exact absurd slash no_backslash

/-! ## Documents -/

theorem isBlank_of_isDigit {d : UInt8} (h : isDigit d = true) : isBlank d = false := by
  rw [Bool.eq_false_iff]
  intro blank
  simp only [isBlank, Bool.or_eq_true, beq_iff_eq] at blank
  rcases blank with ((rfl | rfl) | rfl) | rfl <;> exact absurd h (by decide)

/-- A document is written with a first byte that is neither a blank nor a closing bracket. -/
theorem exists_print_eq_cons (document : Json) :
    ∃ b more, print document = b :: more ∧ isBlank b = false ∧ b ≠ 93 := by
  cases document with
  | null => exact ⟨_, _, rfl, by decide, by decide⟩
  | bool b => cases b <;> exact ⟨_, _, rfl, by decide, by decide⟩
  | natural n =>
    obtain ⟨d, ds, hd⟩ := List.exists_cons_of_ne_nil (digits_ne_nil n)
    have digit := isDigit_of_mem_digits n d (by rw [hd]; exact List.mem_cons_self)
    refine ⟨d, ds, by rw [print, hd], isBlank_of_isDigit digit, ?_⟩
    rintro rfl
    exact absurd digit (by decide)
  | otherNumber => exact ⟨_, _, rfl, by decide, by decide⟩
  | string raw => exact ⟨34, _, rfl, by decide, by decide⟩
  | array items => cases items <;> exact ⟨91, _, rfl, by decide, by decide⟩
  | object members => cases members <;> exact ⟨123, _, rfl, by decide, by decide⟩

theorem skipBlanks_cons {b : UInt8} (more : Bytes) (h : isBlank b = false) :
    skipBlanks (b :: more) = b :: more := by
  rw [skipBlanks, List.dropWhile_cons, if_neg (by simp [h])]

theorem skipBlanks_print (document : Json) (rest : Bytes) :
    skipBlanks (print document ++ rest) = print document ++ rest := by
  obtain ⟨b, more, hb, blank, _⟩ := exists_print_eq_cons document
  rw [hb, List.cons_append, skipBlanks_cons _ blank]

theorem isDelimited_printItems (items : List Json) (rest : Bytes) :
    IsDelimited (printItems items ++ rest) := by
  cases items with
  | nil => exact isDelimited_cons (by decide)
  | cons item items => exact isDelimited_cons (by decide)

theorem isDelimited_printMembers (members : List (Bytes × Json)) (rest : Bytes) :
    IsDelimited (printMembers members ++ rest) := by
  cases members with
  | nil => exact isDelimited_cons (by decide)
  | cons member members => exact isDelimited_cons (by decide)

theorem readValue?_natural (n fuel : Nat) {rest : Bytes} (hr : IsDelimited rest) :
    readValue? (fuel + 1) (print (natural n) ++ rest) = some (natural n, rest) := by
  have read := readNumber?_digits n hr
  have start := skipBlanks_print (natural n) rest
  obtain ⟨d, ds, hd⟩ := List.exists_cons_of_ne_nil (digits_ne_nil n)
  have digit := isDigit_of_mem_digits n d (by rw [hd]; exact List.mem_cons_self)
  rw [print, hd, List.cons_append] at start
  rw [hd, List.cons_append] at read
  rw [print, hd, List.cons_append, readValue?, start]
  split
  all_goals first
    | exact read
    | (rename_i heq; cases heq; exact absurd digit (by decide))

mutual
/-- A plain document is read back from the text that it is written as. -/
theorem readValue?_print : ∀ (document : Json) (n : Nat) (rest : Bytes),
    fuel document ≤ n → IsPlain document → IsDelimited rest →
    readValue? n (print document ++ rest) = some (document, rest)
  | document, 0, rest, enough, _, _ => by cases document <;> simp [fuel] at enough
  | null, n + 1, rest, _, _, _ => by rfl
  | bool true, n + 1, rest, _, _, _ => by rfl
  | bool false, n + 1, rest, _, _, _ => by rfl
  | natural m, n + 1, rest, _, _, hr => readValue?_natural m n hr
  | otherNumber, n + 1, rest, _, _, hr => by
    have tail := readTail?_delimited hr
    have zero := readDigits?_digits 0 hr
    have written : Bytes.ascii "-0" = 45 :: digits 0 := by
      rw [digits]
      rfl
    rw [print, written, readValue?, List.cons_append, skipBlanks_cons _ (by decide)]
    simp only [readNumber?, zero]
    rw [if_neg (no_leading_zero 0), tail]
    rfl
  | string raw, n + 1, rest, _, plain, _ => by
    rw [print, List.append_assoc, List.cons_append, readValue?, skipBlanks_cons _ (by decide)]
    simp only [List.singleton_append, readString?_plain plain rest, Option.map_some]
  | array [], n + 1, rest, _, _, _ => by rfl
  | array (item :: items), n + 1, rest, enough, plain, _ => by
    have read := readItems?_print item items n rest (by simp only [fuel] at enough ⊢; omega) plain
    obtain ⟨b, more, hb, blank, not_closed⟩ := exists_print_eq_cons item
    rw [print, readValue?]
    simp only [List.append_assoc, List.cons_append]
    rw [skipBlanks_cons _ (by decide)]
    simp only
    rw [skipBlanks_print]
    split
    · rename_i closed
      rw [hb, List.cons_append] at closed
      exact absurd (List.cons.inj closed).1 not_closed
    · rw [read]
      rfl
  | object [], n + 1, rest, _, _, _ => by rfl
  | object ((name, value) :: members), n + 1, rest, enough, plain, _ => by
    have read := readMembers?_print name value members n rest
      (by simp only [fuel] at enough ⊢; omega) plain
    rw [print, readValue?]
    simp only [List.append_assoc, List.cons_append]
    rw [skipBlanks_cons _ (by decide)]
    simp only
    rw [skipBlanks_cons _ (by decide), read]
    rfl

/-- The items of an array are read up to the bracket that closes it. -/
theorem readItems?_print : ∀ (item : Json) (items : List Json) (n : Nat) (rest : Bytes),
    fuelItems (item :: items) ≤ n → ArePlain (item :: items) →
    readItems? n (print item ++ (printItems items ++ rest)) = some (item :: items, rest)
  | _, _, 0, _, enough, _ => by simp [fuelItems] at enough
  | item, items, n + 1, rest, enough, plain => by
    rw [fuelItems] at enough
    have first := readValue?_print item n (printItems items ++ rest) (by omega) plain.1
      (isDelimited_printItems items rest)
    rw [readItems?, first]
    simp only
    match items, enough, plain with
    | [], _, _ => rfl
    | next :: more, enough, plain =>
      have others := readItems?_print next more n rest (by omega) plain.2
      rw [printItems, List.cons_append, List.cons_append, skipBlanks_cons _ (by decide)]
      simp only [List.append_assoc, others]
      rfl

/-- The members of an object are read up to the brace that closes it. -/
theorem readMembers?_print : ∀ (name : Bytes) (value : Json) (members : List (Bytes × Json))
    (n : Nat) (rest : Bytes),
    fuelMembers ((name, value) :: members) ≤ n → HavePlain ((name, value) :: members) →
    readMembers? n (34 :: (name ++ 34 :: 58 :: (print value ++ (printMembers members ++ rest)))) =
      some ((name, value) :: members, rest)
  | _, _, _, 0, _, enough, _ => by simp [fuelMembers] at enough
  | name, value, members, n + 1, rest, enough, plain => by
    rw [fuelMembers] at enough
    have first := readValue?_print value n (printMembers members ++ rest) (by omega) plain.2.1
      (isDelimited_printMembers members rest)
    rw [readMembers?, skipBlanks_cons _ (by decide)]
    simp only [readString?_plain plain.1]
    rw [skipBlanks_cons _ (by decide)]
    simp only
    rw [first]
    simp only
    match members, enough, plain with
    | [], _, _ => rfl
    | (name', value') :: more, enough, plain =>
      have others := readMembers?_print name' value' more n rest (by omega) plain.2.2
      rw [printMembers, List.cons_append, List.cons_append, List.cons_append,
        skipBlanks_cons _ (by decide)]
      simp only [List.append_assoc, List.cons_append, others]
      rfl
end

/-! ## The fuel that is provided -/

mutual
theorem fuel_lt_length : ∀ document : Json, fuel document < 2 * (print document).length
  | null => by decide
  | bool true => by decide
  | bool false => by decide
  | natural n => by
    have := List.length_pos_iff.mpr (digits_ne_nil n)
    simp only [fuel, print]
    omega
  | otherNumber => by decide
  | string raw => by
    simp only [fuel, print, List.length_append, List.length_cons]
    omega
  | array [] => by decide
  | array (item :: items) => by
    have := fuel_lt_length item
    have := fuelItems_le_length items
    simp only [fuel, fuelItems, print, List.length_append, List.length_cons]
    omega
  | object [] => by decide
  | object ((name, value) :: members) => by
    have := fuel_lt_length value
    have := fuelMembers_le_length members
    simp only [fuel, fuelMembers, print, List.length_append, List.length_cons]
    omega

theorem fuelItems_le_length : ∀ items : List Json,
    fuelItems items ≤ 2 * (printItems items).length
  | [] => by decide
  | item :: items => by
    have := fuel_lt_length item
    have := fuelItems_le_length items
    simp only [fuelItems, printItems, List.length_append, List.length_cons]
    omega

theorem fuelMembers_le_length : ∀ members : List (Bytes × Json),
    fuelMembers members ≤ 2 * (printMembers members).length
  | [] => by decide
  | (name, value) :: members => by
    have := fuel_lt_length value
    have := fuelMembers_le_length members
    simp only [fuelMembers, printMembers, List.length_append, List.length_cons]
    omega
end

/-- A plain document is read back from the text that it is written as. -/
theorem parse?_print {document : Json} (plain : IsPlain document) :
    parse? (print document) = some document := by
  have enough := fuel_lt_length document
  have read := readValue?_print document (2 * (print document).length + 1) [] (by omega) plain
    isDelimited_nil
  rw [List.append_nil] at read
  rw [parse?, read]
  rfl

end PgpCard.Json
