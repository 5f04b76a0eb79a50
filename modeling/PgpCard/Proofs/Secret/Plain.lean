import Mathlib.Logic.Function.Basic
import PgpCard.Secret.Secrets

/-!
# A plaintext reference for the secrets

The card keeps a secret as a digest, a length and two counts of eight bits.  The reference keeps
the value itself, if there is one, and two natural numbers; its rules are those that a user of the
card is told.

* `PlainSecrets.attempt` : what a candidate comes to.
* `PlainSecrets.step` : the reference, one operation at a time; `PlainSecrets.observe` along a
  sequence of operations.
* `PlainSecrets.change_ok_iff` : what a change takes.
-/

set_option autoImplicit false

namespace PgpCard

/-- An operation on the secrets, with its arguments. -/
inductive SecretOperation
  | verify (id : SecretId) (candidate : Bytes)
  | change (id : SecretId) (data : Bytes)
  | resetWithCode (data : Bytes)
  | resetPw1 (value : Bytes)
  | setValue (id : SecretId) (value : Bytes)
  | clearCode
  | resetWithLimit (id : SecretId) (limit : UInt8)
  deriving DecidableEq, Repr

/-- A value that is set without a check of its length is one that may be set at all. -/
def SecretOperation.IsShort : SecretOperation → Prop
  | .setValue _ value => value.length ≤ SecretId.maxLength
  | _ => True

instance : DecidablePred SecretOperation.IsShort
  | .setValue _ value => inferInstanceAs (Decidable (value.length ≤ SecretId.maxLength))
  | .verify .. | .change .. | .resetWithCode .. | .resetPw1 .. | .clearCode
  | .resetWithLimit .. => instDecidableTrue

/-- What is told about a secret. -/
structure SecretCounts where
  limit : Nat
  remaining : Nat
  length : Nat
  deriving DecidableEq, Repr

/-- A secret in plain. -/
structure PlainSecret where
  value : Option Bytes
  limit : Nat
  remaining : Nat
  deriving DecidableEq, Repr

namespace PlainSecret

/-- How long the value is; a secret without a value has length zero. -/
def length (secret : PlainSecret) : Nat := (secret.value.getD []).length

/-- What is told about a secret. -/
def counts (secret : PlainSecret) : SecretCounts where
  limit := secret.limit
  remaining := secret.remaining
  length := secret.length

/-- A value with all its attempts. -/
def ofValue (value : Bytes) (limit : Nat) : PlainSecret :=
  { value := some value, limit, remaining := limit }

/-- A secret without a value, which cannot be tried. -/
def unset (limit : Nat) : PlainSecret := { value := none, limit, remaining := 0 }

end PlainSecret

/-- The three secrets in plain. -/
abbrev PlainSecrets := SecretId → PlainSecret

namespace PlainSecrets

/-- The secret of a new card, with a limit. -/
def factorySecret (limit : Nat) : SecretId → PlainSecret
  | .pw1 => .ofValue Secrets.defaultPw1 limit
  | .pw3 => .ofValue Secrets.defaultPw3 limit
  | .rc => .unset limit

/-- The secrets of a new card. -/
def factory : PlainSecrets := factorySecret Secrets.defaultLimit.toNat

/-- One attempt: it fails if none is left, the value itself gives all attempts back, and anything
else costs one. -/
def attempt (plain : PlainSecrets) (id : SecretId) (candidate : Bytes) :
    Except CardError Bool × PlainSecrets :=
  let secret := plain id
  if secret.remaining = 0 then
    (.error .authenticationBlocked, plain)
  else if secret.value = some candidate then
    (.ok true, Function.update plain id { secret with remaining := secret.limit })
  else
    (.ok false, Function.update plain id { secret with remaining := secret.remaining - 1 })

/-- The length is looked at before the attempt. -/
def verify (plain : PlainSecrets) (id : SecretId) (candidate : Bytes) :
    Except CardError Unit × PlainSecrets :=
  if id.admits candidate.length then
    match plain.attempt id candidate with
    | (.ok true, after) => (.ok (), after)
    | (.ok false, after) =>
      if (after id).remaining = 0 then (.error .authenticationBlocked, after)
      else (.error .securityStatusNotSatisfied, after)
    | (.error e, after) => (.error e, after)
  else
    (.error .wrongData, plain)

/-- A new value keeps the limit and has all its attempts. -/
def setValue (plain : PlainSecrets) (id : SecretId) (value : Bytes) : PlainSecrets :=
  Function.update plain id (.ofValue value (plain id).limit)

/-- The data is cut after the present value; what cannot be a present value followed by a new one
costs no attempt. -/
def change (plain : PlainSecrets) (id : SecretId) (data : Bytes) :
    Except CardError Unit × PlainSecrets :=
  let length := (plain id).length
  if length ≤ data.length ∧ id.admits (data.length - length) then
    match plain.attempt id (data.take length) with
    | (.ok true, after) => (.ok (), after.setValue id (data.drop length))
    | (.ok false, after) => (.error .conditionsNotSatisfied, after)
    | (.error e, after) => (.error e, after)
  else
    (.error .conditionsNotSatisfied, plain)

/-- PW1 gets a new value of admissible length. -/
def resetPw1 (plain : PlainSecrets) (value : Bytes) : Except CardError Unit × PlainSecrets :=
  if SecretId.pw1.admits value.length then
    (.ok (), plain.setValue .pw1 value)
  else
    (.error .wrongData, plain)

/-- PW1 gets a new value against the resetting code, which must be there and not be blocked.  The
new value is looked at after the attempt. -/
def resetWithCode (plain : PlainSecrets) (data : Bytes) : Except CardError Unit × PlainSecrets :=
  let length := (plain .rc).length
  if length = 0 then
    (.error .conditionsNotSatisfied, plain)
  else if (plain .rc).remaining = 0 then
    (.error .authenticationBlocked, plain)
  else if data.length < length then
    (.error .conditionsNotSatisfied, plain)
  else
    match plain.attempt .rc (data.take length) with
    | (.ok true, after) => after.resetPw1 (data.drop length)
    | (.ok false, after) => (.error .conditionsNotSatisfied, after)
    | (.error e, after) => (.error e, after)

/-- The reference. -/
def step (plain : PlainSecrets) : SecretOperation → Except CardError Unit × PlainSecrets
  | .verify id candidate => plain.verify id candidate
  | .change id data => plain.change id data
  | .resetWithCode data => plain.resetWithCode data
  | .resetPw1 value => plain.resetPw1 value
  | .setValue id value => (.ok (), plain.setValue id value)
  | .clearCode => (.ok (), Function.update plain .rc (.unset (plain .rc).limit))
  | .resetWithLimit id limit =>
    (.ok (), Function.update plain id (factorySecret limit.toNat id))

/-- The secrets after a sequence of operations. -/
def after (plain : PlainSecrets) (operations : List SecretOperation) : PlainSecrets :=
  operations.foldl (fun plain operation => (plain.step operation).2) plain

/-- What an operation compares with a value, and the value. -/
def compared (plain : PlainSecrets) : SecretOperation → List Bytes
  | .verify id candidate => candidate :: (plain id).value.toList
  | .change id data => data.take (plain id).length :: (plain id).value.toList
  | .resetWithCode data => data.take (plain .rc).length :: (plain .rc).value.toList
  | _ => []

/-- What is told about the secrets. -/
def counts (plain : PlainSecrets) : List SecretCounts :=
  SecretId.all.map fun id => (plain id).counts

/-- The results of a sequence of operations, each with what is told afterwards. -/
def observe (plain : PlainSecrets) :
    List SecretOperation → List (Except CardError Unit × List SecretCounts)
  | [] => []
  | operation :: rest =>
    let (r, plain') := plain.step operation
    (r, plain'.counts) :: observe plain' rest

/-- The strings that a sequence of operations compares with one another. -/
def strings (plain : PlainSecrets) : List SecretOperation → List Bytes
  | [] => []
  | operation :: rest => plain.compared operation ++ strings (plain.step operation).2 rest

variable {plain : PlainSecrets} {id : SecretId}

/-- The present value followed by a new one of admissible length. -/
theorem change_of_value {old new : Bytes} (some_left : (plain id).remaining ≠ 0)
    (held : (plain id).value = some old) (admissible : id.admits new.length = true) :
    plain.change id (old ++ new) = (.ok (), plain.setValue id new) := by
  have length : (plain id).length = old.length := by rw [PlainSecret.length, held]; rfl
  simp [change, attempt, setValue, length, held, some_left, admissible]

/-- Nothing else changes a secret, and nothing does once no attempt is left. -/
theorem change_ok_iff {data : Bytes} :
    (plain.change id data).1 = .ok () ↔
      (plain id).remaining ≠ 0 ∧ ∃ old new, (plain id).value = some old ∧ data = old ++ new ∧
        id.admits new.length = true := by
  constructor
  · intro done
    unfold change attempt at done
    dsimp only at done
    split at done
    · rename_i fits
      obtain ⟨_, admissible⟩ := fits
      by_cases none_left : (plain id).remaining = 0
      · rw [if_pos none_left] at done
        cases done
      · rw [if_neg none_left] at done
        by_cases same : (plain id).value = some (data.take (plain id).length)
        · refine ⟨none_left, _, data.drop (plain id).length, same, ?_, ?_⟩
          · rw [List.take_append_drop]
          · rwa [List.length_drop]
        · rw [if_neg same] at done
          cases done
    · cases done
  · rintro ⟨some_left, old, new, held, rfl, admissible⟩
    rw [change_of_value some_left held admissible]

theorem strings_append (plain : PlainSecrets) (before rest : List SecretOperation) :
    plain.strings (before ++ rest) = plain.strings before ++ (plain.after before).strings rest := by
  induction before generalizing plain with
  | nil => rfl
  | cons operation before ih =>
    rw [List.cons_append, strings, strings, ih, List.append_assoc]
    rfl

end PlainSecrets

end PgpCard
