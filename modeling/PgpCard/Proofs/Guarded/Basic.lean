import PgpCard.Proofs.Attempt

/-!
# Partial operations made explicit

The definitions of the card are total: a piece of a byte string beyond its end is empty, a
difference below zero is zero, and a number has no greatest value.  On a machine such a use is a
defect that ends the program.  A guarded computation carries these operations out as a machine
does: each is used within its range, or the computation is misused.

* `Misuse` : how an operation is used beyond its range; `Halt` : how a guarded computation stops
  short, with a failure that it reports or with a misuse;
* `Guarded.sub`, `Guarded.add`, `Guarded.slice`, … : the operations, each with the condition under
  which it is in its range;
* `Attempt.guarded` : a computation without such operations as a guarded one.  It takes apart along
  a computation (`guarded_bind`, `guarded_ite`, …), so that a guarded computation is compared with
  one that is not, operation by operation.
-/

set_option autoImplicit false

namespace PgpCard

/-- How an operation is used beyond its range. -/
inductive Misuse
  /-- A position, or a piece, beyond the end of a list. -/
  | outOfRange
  /-- A difference below zero. -/
  | underflow
  /-- A number that does not fit in its width. -/
  | overflow
  /-- A remainder by zero. -/
  | zeroDivisor
  deriving DecidableEq, Repr

/-- How a guarded computation stops short. -/
inductive Halt (ε : Type)
  /-- It reports a failure. -/
  | failed (error : ε)
  | misused (misuse : Misuse)
  deriving DecidableEq, Repr

/-- The same end with a failure that is reported in another way. -/
def Halt.map {ε ε' : Type} (wrap : ε → ε') : Halt ε → Halt ε'
  | .failed error => .failed (wrap error)
  | .misused misuse => .misused misuse

namespace Guarded

variable {ε α β : Type}

/-- What follows a computation that ends well. -/
theorem bind_eq_ok {act : Except (Halt ε) α} {next : α → Except (Halt ε) β} {b : β} :
    (act >>= next) = .ok b ↔ ∃ a, act = .ok a ∧ next a = .ok b := by
  cases act <;> simp [bind, Except.bind]

/-- One more than the greatest length of a machine. -/
def wordSize : Nat := UInt64.size

theorem mapError_ok {ε' : Type} {wrap : ε → ε'} {a : α} :
    (Except.ok a).mapError wrap = .ok a :=
  rfl

theorem mapError_error {ε' : Type} {wrap : ε → ε'} {e : ε} :
    (Except.error e : Except ε α).mapError wrap = .error (wrap e) :=
  rfl

/-- A computation whose failures are reported in another way ends well where it did. -/
theorem mapError_eq_ok {ε' : Type} {act : Except ε α} {wrap : ε → ε'} {a : α} :
    act.mapError wrap = .ok a ↔ act = .ok a := by
  cases act <;> simp [mapError_ok, mapError_error]

theorem mapError_eq_error {ε' : Type} {act : Except ε α} {wrap : ε → ε'} {e' : ε'} :
    act.mapError wrap = .error e' ↔ ∃ e, act = .error e ∧ wrap e = e' := by
  cases act <;> simp [mapError_ok, mapError_error]

/-! ## Arithmetic -/

/-- The difference of two numbers. -/
def sub (a b : Nat) : Except (Halt ε) Nat :=
  if b ≤ a then .ok (a - b) else .error (.misused .underflow)

/-- The difference of two bytes. -/
def subByte (a b : UInt8) : Except (Halt ε) UInt8 :=
  if b ≤ a then .ok (a - b) else .error (.misused .underflow)

/-- The sum of two numbers of a type with `size` values. -/
def add (size a b : Nat) : Except (Halt ε) Nat :=
  if a + b < size then .ok (a + b) else .error (.misused .overflow)

/-- The product of two numbers of a type with `size` values. -/
def mul (size a b : Nat) : Except (Halt ε) Nat :=
  if a * b < size then .ok (a * b) else .error (.misused .overflow)

/-- The remainder of a division. -/
def rem (a b : Nat) : Except (Halt ε) Nat :=
  if b = 0 then .error (.misused .zeroDivisor) else .ok (a % b)

theorem sub_of_le {a b : Nat} (h : b ≤ a) : (sub a b : Except (Halt ε) Nat) = .ok (a - b) :=
  if_pos h

theorem subByte_of_le {a b : UInt8} (h : b ≤ a) :
    (subByte a b : Except (Halt ε) UInt8) = .ok (a - b) :=
  if_pos h

theorem add_of_lt {size a b : Nat} (h : a + b < size) :
    (add size a b : Except (Halt ε) Nat) = .ok (a + b) :=
  if_pos h

theorem eq_of_add {size a b sum : Nat} (h : (add size a b : Except (Halt ε) Nat) = .ok sum) :
    sum = a + b := by
  unfold add at h
  split at h
  · cases h
    rfl
  · cases h

theorem mul_of_lt {size a b : Nat} (h : a * b < size) :
    (mul size a b : Except (Halt ε) Nat) = .ok (a * b) :=
  if_pos h

theorem rem_of_ne {a b : Nat} (h : b ≠ 0) : (rem a b : Except (Halt ε) Nat) = .ok (a % b) :=
  if_neg h

/-! ## Lists -/

/-- The element at a position. -/
def element (list : List α) (position : Nat) : Except (Halt ε) α :=
  match list[position]? with
  | some a => .ok a
  | none => .error (.misused .outOfRange)

/-- The piece from one position up to another. -/
def slice (list : List α) (start stop : Nat) : Except (Halt ε) (List α) :=
  if start ≤ stop ∧ stop ≤ list.length then .ok ((list.take stop).drop start)
  else .error (.misused .outOfRange)

/-- The piece from a position up to the end. -/
def sliceFrom (list : List α) (start : Nat) : Except (Halt ε) (List α) :=
  slice list start list.length

/-- The pieces before and from a position. -/
def splitAt (list : List α) (position : Nat) : Except (Halt ε) (List α × List α) :=
  if position ≤ list.length then .ok (list.take position, list.drop position)
  else .error (.misused .outOfRange)

theorem slice_of_le {list : List α} {start stop : Nat} (order : start ≤ stop)
    (inside : stop ≤ list.length) :
    (slice list start stop : Except (Halt ε) (List α)) = .ok ((list.take stop).drop start) :=
  if_pos ⟨order, inside⟩

theorem sliceFrom_of_le {list : List α} {start : Nat} (h : start ≤ list.length) :
    (sliceFrom list start : Except (Halt ε) (List α)) = .ok (list.drop start) := by
  rw [sliceFrom, slice_of_le h (Nat.le_refl _), List.take_length]

theorem eq_of_sliceFrom {list rest : List α} {start : Nat}
    (h : (sliceFrom list start : Except (Halt ε) (List α)) = .ok rest) :
    start ≤ list.length ∧ rest = list.drop start := by
  unfold sliceFrom slice at h
  split at h
  · rename_i inside
    cases h
    exact ⟨inside.1, by rw [List.take_length]⟩
  · cases h

theorem splitAt_of_le {list : List α} {position : Nat} (h : position ≤ list.length) :
    (splitAt list position : Except (Halt ε) (List α × List α)) =
      .ok (list.take position, list.drop position) :=
  if_pos h

example : (splitAt [1, 2] 3 : Except (Halt Empty) (List Nat × List Nat)) =
    .error (.misused .outOfRange) :=
  rfl

end Guarded

/-! ## Computations without partial operations -/

namespace Attempt

variable {ε ε' s α β : Type}

/-- A computation without partial operations as a guarded one. -/
def guarded (act : Attempt ε s α) : Attempt (Halt ε) s α := act.mapError .failed

@[simp] theorem guarded_pure {a : α} :
    (pure a : Attempt ε s α).guarded = pure a :=
  rfl

@[simp] theorem guarded_throw {e : ε} :
    (throw e : Attempt ε s α).guarded = throw (.failed e) :=
  rfl

@[simp] theorem guarded_bind {act : Attempt ε s α} {next : α → Attempt ε s β} :
    (act >>= next).guarded = act.guarded >>= fun a => (next a).guarded := by
  funext start
  simp only [guarded, mapError, bind, EStateM.bind]
  cases act start <;> rfl

@[simp] theorem guarded_map {act : Attempt ε s α} {f : α → β} :
    (f <$> act).guarded = f <$> act.guarded := by
  rw [map_eq_pure_bind, map_eq_pure_bind, guarded_bind]
  rfl

@[simp] theorem guarded_ite {c : Prop} [Decidable c] {act other : Attempt ε s α} :
    (if c then act else other).guarded = if c then act.guarded else other.guarded :=
  apply_ite guarded c act other

@[simp] theorem guarded_ofExcept {result : Except ε α} :
    (ofExcept result : Attempt ε s α).guarded = ofExcept (result.mapError .failed) := by
  cases result <;> rfl

@[simp] theorem guarded_mapError {act : Attempt ε s α} {wrap : ε → ε'} :
    (act.mapError wrap).guarded = act.guarded.mapError (Halt.map wrap) := by
  funext start
  simp only [guarded, mapError]
  cases act start <;> rfl

@[simp] theorem ofExcept_ok {a : α} : (ofExcept (.ok a) : Attempt ε s α) = pure a := rfl

@[simp] theorem ofExcept_error {e : ε} : (ofExcept (.error e) : Attempt ε s α) = throw e := rfl

@[simp] theorem mapError_pure {wrap : ε → ε'} {a : α} :
    (pure a : Attempt ε s α).mapError wrap = pure a :=
  rfl

/-- What would follow a failure does not happen. -/
@[simp] theorem throw_bind {e : ε} {next : α → Attempt ε s β} :
    (throw e >>= next) = throw e :=
  rfl

/-- Runs a guarded computation and hands out its failure as a value; a misuse ends it all the
same. -/
def guardedOutcome (act : Attempt (Halt ε) s α) : Attempt (Halt ε') s (Except ε α) := fun start =>
  match act start with
  | .ok a final => .ok (.ok a) final
  | .error (.failed e) final => .ok (.error e) final
  | .error (.misused misuse) final => .error (.misused misuse) final

@[simp] theorem guardedOutcome_guarded {act : Attempt ε s α} :
    (act.guarded.guardedOutcome : Attempt (Halt ε') s (Except ε α)) = act.outcome.guarded := by
  funext start
  simp only [guardedOutcome, guarded, mapError, outcome]
  cases act start <;> rfl

/-- How a guarded computation ends is how it ends without the guards. -/
theorem guarded_apply (act : Attempt ε s α) (start : s) :
    act.guarded start =
      match act start with
      | .ok a final => .ok a final
      | .error e final => .error (.failed e) final :=
  rfl

end Attempt

/-! ## In memory above a store -/

namespace Kept

open Attempt

variable {β γ σ ε α : Type}

@[simp] theorem guarded_held :
    (held : Attempt ε (Kept β σ) β).guarded = held :=
  rfl

@[simp] theorem guarded_adjust {change : β → β} :
    (adjust change : Attempt ε (Kept β σ) Unit).guarded = adjust change :=
  rfl

@[simp] theorem guarded_note [Backend σ] {audit : Audit} :
    (note audit : Attempt ε (Kept β σ) Unit).guarded = note audit :=
  rfl

@[simp] theorem guarded_onPart {part : β → γ} {put : γ → β → β}
    {act : Attempt ε (Kept γ σ) α} :
    (onPart part put act).guarded = onPart part put act.guarded := by
  funext kept
  simp only [guarded, mapError, onPart]
  cases act ⟨part kept.memory, kept.store⟩ <;> rfl

@[simp] theorem guarded_onStore {act : Attempt ε σ α} :
    (onStore act : Attempt ε (Kept β σ) α).guarded = onStore act.guarded := by
  funext kept
  simp only [guarded, mapError, onStore]
  cases act kept.store <;> rfl

end Kept

end PgpCard
