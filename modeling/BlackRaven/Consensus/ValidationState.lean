/-!
Contract: `consensus/validation.h`.

Owns: why a check stopped. A rejection carries what `CValidationState` records; the
other two ways out of a C++ function are kept apart from it.
-/

namespace BlackRaven.Consensus

/-- `CValidationState::DoS` and `CValidationState::Invalid` (level 0). The debug
message, which only reaches the log, is left out. -/
structure Reject where
  nDoS : Nat
  chRejectCode : Nat
  strRejectReason : String
  corruptionPossible : Bool
  deriving DecidableEq, Repr

inductive Failure where
  | invalid (reject : Reject)
  /-- An exception leaves the function. -/
  | thrown (what : String)
  /-- The source's behaviour is undefined here. -/
  | undefined (what : String)
  deriving DecidableEq, Repr

def rejectInvalid : Nat := 0x10
def rejectCheckpoint : Nat := 0x43

def dos (nDoS chRejectCode : Nat) (strRejectReason : String) : Failure :=
  .invalid ⟨nDoS, chRejectCode, strRejectReason, false⟩

/-- `CValidationState::Invalid`. -/
def invalidState (chRejectCode : Nat) (strRejectReason : String) : Failure :=
  .invalid ⟨0, chRejectCode, strRejectReason, false⟩

end BlackRaven.Consensus
