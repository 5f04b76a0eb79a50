/-!
# Tables

A table gives values to keys.  It is a list of pairs in the order in which the keys were first
written, and each key stands once.

* `Table.find?` looks a key up, `Table.insert` writes one.
* `find?_insert_self` and `find?_insert_of_ne` say how the two fit together.
-/

set_option autoImplicit false

namespace PgpCard

/-- Values under keys. -/
structure Table (α : Type) where
  entries : List (String × α) := []
  deriving DecidableEq, Repr

namespace Table

variable {α : Type}

/-- No keys. -/
def empty : Table α := {}

/-- The value of a key among some pairs. -/
def lookup? (key : String) : List (String × α) → Option α
  | [] => none
  | (k, value) :: rest => if k = key then some value else lookup? key rest

/-- The pairs with a new value for a key: in its place if it is there, at the end if not. -/
def replace (key : String) (value : α) : List (String × α) → List (String × α)
  | [] => [(key, value)]
  | (k, old) :: rest => if k = key then (k, value) :: rest else (k, old) :: replace key value rest

/-- The value of a key. -/
def find? (table : Table α) (key : String) : Option α := lookup? key table.entries

/-- The table with a new value for a key. -/
def insert (table : Table α) (key : String) (value : α) : Table α :=
  ⟨replace key value table.entries⟩

/-- The table without a key. -/
def erase (table : Table α) (key : String) : Table α :=
  ⟨table.entries.filter (·.1 != key)⟩

/-! ## Looking up what was written -/

theorem lookup?_replace (key other : String) (value : α) (entries : List (String × α)) :
    lookup? other (replace key value entries) =
      if other = key then some value else lookup? other entries := by
  induction entries with
  | nil => by_cases h : key = other <;> simp [replace, lookup?, h, eq_comm]
  | cons entry rest ih =>
    obtain ⟨k, old⟩ := entry
    by_cases hk : k = key
    · subst hk
      by_cases ho : k = other
      · simp [replace, lookup?, ho]
      · have hne : other ≠ k := fun h => ho h.symm
        simp [replace, lookup?, ho, hne]
    · by_cases ho : k = other
      · subst ho
        simp [replace, lookup?, hk]
      · simp [replace, lookup?, hk, ho, ih]

@[simp] theorem find?_insert_self (table : Table α) (key : String) (value : α) :
    (table.insert key value).find? key = some value := by
  simp [insert, find?, lookup?_replace]

theorem find?_insert_of_ne (table : Table α) {key other : String} (value : α)
    (h : other ≠ key) : (table.insert key value).find? other = table.find? other := by
  simp [insert, find?, lookup?_replace, h]

end Table

end PgpCard
