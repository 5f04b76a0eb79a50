import PgpCard.Apdu.StatusWord
import PgpCard.Store.Error
import PgpCard.Text.Hex

/-!
# How a command fails

Every failing command ends in one `CardError`, and every `CardError` has one status word.
-/

set_option autoImplicit false

namespace PgpCard

/-- The outcome of a command that fails. -/
inductive CardError
  | stateUnchanged
  | wrongLength
  | securityStatusNotSatisfied
  | authenticationBlocked
  | dataInvalid
  | conditionsNotSatisfied
  | wrongData
  | recordNotFound
  | incorrectP1P2
  | referencedDataNotFound
  | wrongP1P2
  | instructionNotSupported (byte : UInt8)
  | internal (text : String)
  | crypto (error : Rsa.Error)
  | storage (error : StoreError)
  deriving DecidableEq, Repr

namespace CardError

/-- The status word sent. -/
def status : CardError → StatusWord
  | .stateUnchanged => .stateUnchanged
  | .wrongLength => .wrongLength
  | .securityStatusNotSatisfied => .securityStatusNotSatisfied
  | .authenticationBlocked => .authenticationBlocked
  | .dataInvalid => .dataInvalid
  | .conditionsNotSatisfied => .conditionsNotSatisfied
  | .wrongData => .wrongData
  | .recordNotFound => .recordNotFound
  | .incorrectP1P2 => .incorrectP1P2
  | .referencedDataNotFound => .referencedDataNotFound
  | .wrongP1P2 => .wrongP1P2
  | .instructionNotSupported _ => .instructionNotSupported
  | .internal _ | .crypto _ | .storage _ => .unknown

/-- The failure may have left memory ahead of the store. -/
def isStorage : CardError → Bool
  | .storage _ => true
  | _ => false

/-- The failure in words. -/
def message : CardError → String
  | .stateUnchanged => "state unchanged"
  | .wrongLength => "wrong length"
  | .securityStatusNotSatisfied => "security status not satisfied"
  | .authenticationBlocked => "authentication method blocked"
  | .dataInvalid => "data invalid"
  | .conditionsNotSatisfied => "conditions of use not satisfied"
  | .wrongData => "wrong data"
  | .recordNotFound => "record not found"
  | .incorrectP1P2 => "incorrect P1/P2"
  | .referencedDataNotFound => "referenced data not found"
  | .wrongP1P2 => "wrong P1/P2"
  | .instructionNotSupported byte => s!"instruction 0x{Hex.upperByte byte} not supported"
  | .internal text => s!"internal error: {text}"
  | .crypto error => s!"crypto failure: {error.message}"
  | .storage error => s!"storage failure: {error.message}"

end CardError

end PgpCard
