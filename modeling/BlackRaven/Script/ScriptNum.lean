import BlackRaven.Script.Script

/-!
Contract: `CScriptNum` and `CScript::FindAndDelete` of `script/script.h`, the verification
flags of `script/interpreter.h`, `script/script_error.h`, and the encoding checks that
precede the loop of `script/interpreter.cpp`.

Owns: numbers on the stack, and what the flags ask of signatures, keys and pushes.

Does not own: the low-S test, which is part of the elliptic-curve library.
-/

namespace BlackRaven.Script

open Lib

/-! ## Flags and errors -/

structure ScriptFlags where
  p2sh : Bool := false
  strictenc : Bool := false
  dersig : Bool := false
  lowS : Bool := false
  nulldummy : Bool := false
  sigpushonly : Bool := false
  minimaldata : Bool := false
  discourageUpgradableNops : Bool := false
  cleanstack : Bool := false
  checklocktimeverify : Bool := false
  checksequenceverify : Bool := false
  witness : Bool := false
  discourageUpgradableWitnessProgram : Bool := false
  minimalif : Bool := false
  nullfail : Bool := false
  witnessPubkeytype : Bool := false
  deriving DecidableEq, Repr

inductive ScriptError where
  | unknownError
  | evalFalse
  | opReturn
  | scriptSize
  | pushSize
  | opCount
  | stackSize
  | sigCount
  | pubkeyCount
  | verify
  | equalverify
  | checkmultisigverify
  | checksigverify
  | numequalverify
  | badOpcode
  | disabledOpcode
  | invalidStackOperation
  | invalidAltstackOperation
  | unbalancedConditional
  | negativeLocktime
  | unsatisfiedLocktime
  | sigHashtype
  | sigDer
  | minimaldata
  | sigPushonly
  | sigHighS
  | sigNulldummy
  | pubkeytype
  | cleanstack
  | minimalif
  | sigNullfail
  | discourageUpgradableNops
  | discourageUpgradableWitnessProgram
  | witnessProgramWrongLength
  | witnessProgramWitnessEmpty
  | witnessProgramMismatch
  | witnessMalleated
  | witnessMalleatedP2sh
  | witnessUnexpected
  | witnessPubkeytype
  /-- Not a value of the enumeration: an assertion stops the process. -/
  | assertionFailed
  deriving DecidableEq, Repr

inductive SigVersion where
  | base
  | witnessV0
  deriving DecidableEq, Repr

/-! ## Numbers -/

/-- `CScriptNum::set_vch`: little endian with the sign in the highest bit. -/
def setVch (vch : Bytes) : Int :=
  if vch.getLastD 0 &&& 0x80 ≠ 0 then
    -((ofBytesLE vch - 0x80 * 256 ^ (vch.length - 1) : Nat) : Int)
  else (ofBytesLE vch : Int)

/-- The most significant byte is needed, for its value or for the sign bit. -/
def isMinimalNumber (vch : Bytes) : Bool :=
  vch.isEmpty || vch.getLastD 0 &&& 0x7f != 0
    || (decide (1 < vch.length) && vch.getD (vch.length - 2) 0 &&& 0x80 != 0)

/-- The constructor of `CScriptNum` from bytes. What it throws is caught at the end of
`EvalScript`. -/
def scriptNum (fRequireMinimal : Bool) (nMaxNumSize : Nat) (vch : Bytes) :
    Except ScriptError Int :=
  if vch.length > nMaxNumSize then .error .unknownError
  else if fRequireMinimal ∧ !isMinimalNumber vch then .error .unknownError
  else .ok (setVch vch)

def nDefaultMaxNumSize : Nat := 4

/-- The digits of the absolute value; eight are enough for an `int64_t`. -/
def absBytes : Nat → Nat → Bytes
  | 0, _ => []
  | fuel + 1, absvalue =>
    if absvalue = 0 then [] else UInt8.ofNat (absvalue % 256) :: absBytes fuel (absvalue / 256)

def serialize (value : Int) : Bytes :=
  let result := absBytes 8 value.natAbs
  if value = 0 then []
  else if result.getLastD 0 &&& 0x80 ≠ 0 then result ++ [if value < 0 then 0x80 else 0]
  else if value < 0 then result.dropLast ++ [result.getLastD 0 ||| 0x80]
  else result

/-- False are zeros, and zeros before a last `0x80`. -/
def castToBool : Bytes → Bool
  | [] => false
  | [last] => last != 0 && last != 0x80
  | byte :: rest => byte != 0 || castToBool rest

def vchFalse : Bytes := []
def vchTrue : Bytes := [1]

def boolBytes (value : Bool) : Bytes := if value then vchTrue else vchFalse

@[simp] theorem castToBool_boolBytes (value : Bool) : castToBool (boolBytes value) = value := by
  cases value <;> rfl

/-! ## Deleting a signature from a script -/

def dropCopies (b : Bytes) : Nat → Bytes → Bytes
  | 0, pc => pc
  | fuel + 1, pc => if b.isPrefixOf pc then dropCopies b fuel (pc.drop b.length) else pc

/-- The loop of `FindAndDelete`: copies of `b` are dropped where an operation starts. -/
def findAndDeleteFrom (b : Bytes) : Nat → Bytes → Bytes
  | 0, pc => pc
  | fuel + 1, pc =>
    let kept := dropCopies b pc.length pc
    match getOp kept with
    | none => kept
    | some (_, _, rest) =>
      kept.take (kept.length - rest.length) ++ findAndDeleteFrom b fuel rest

/-- `FindAndDelete`. One operation takes at least one byte. -/
def findAndDelete (script b : Bytes) : Bytes :=
  if b.isEmpty then script else findAndDeleteFrom b (script.length + 1) script

/-! ## Encodings -/

def isCompressedOrUncompressedPubKey (vchPubKey : Bytes) : Bool :=
  if vchPubKey.length < 33 then false
  else if vchPubKey.getD 0 0 = 4 then vchPubKey.length == 65
  else if vchPubKey.getD 0 0 = 2 ∨ vchPubKey.getD 0 0 = 3 then vchPubKey.length == 33
  else false

def isCompressedPubKey (vchPubKey : Bytes) : Bool :=
  vchPubKey.length == 33 && (vchPubKey.getD 0 0 == 2 || vchPubKey.getD 0 0 == 3)

/-- An integer of a signature: `0x02`, its length, and a positive number that is not
padded, which starts at `start`. -/
def isDerInteger (sig : Bytes) (start length : Nat) : Bool :=
  sig.getD (start - 2) 0 == 2 && length != 0 && sig.getD start 0 &&& 0x80 == 0
    && !(decide (1 < length) && sig.getD start 0 == 0 && sig.getD (start + 1) 0 &&& 0x80 == 0)

def isValidSignatureEncoding (sig : Bytes) : Bool :=
  let lenR := (sig.getD 3 0).toNat
  let lenS := (sig.getD (5 + lenR) 0).toNat
  decide (9 ≤ sig.length) && decide (sig.length ≤ 73) && sig.getD 0 0 == 0x30
    && (sig.getD 1 0).toNat == sig.length - 3
    && decide (5 + lenR < sig.length) && lenR + lenS + 7 == sig.length
    && isDerInteger sig 4 lenR && isDerInteger sig (lenR + 6) lenS

def isDefinedHashtypeSignature (vchSig : Bytes) : Bool :=
  let nHashType := vchSig.getLastD 0 &&& 0x7f
  !vchSig.isEmpty && decide (1 ≤ nHashType) && decide (nHashType ≤ 3)

/-- `CheckSignatureEncoding`, with `CPubKey::CheckLowS`. -/
def checkSignatureEncoding (checkLowS : Bytes → Bool) (flags : ScriptFlags) (vchSig : Bytes) :
    Except ScriptError Unit :=
  if vchSig.isEmpty then .ok ()
  else if (flags.dersig ∨ flags.lowS ∨ flags.strictenc) ∧ !isValidSignatureEncoding vchSig then
    .error .sigDer
  else if flags.lowS ∧ !checkLowS vchSig.dropLast then .error .sigHighS
  else if flags.strictenc ∧ !isDefinedHashtypeSignature vchSig then .error .sigHashtype
  else .ok ()

def checkPubKeyEncoding (flags : ScriptFlags) (sigversion : SigVersion) (vchPubKey : Bytes) :
    Except ScriptError Unit :=
  if flags.strictenc ∧ !isCompressedOrUncompressedPubKey vchPubKey then .error .pubkeytype
  else if flags.witnessPubkeytype ∧ sigversion = .witnessV0 ∧ !isCompressedPubKey vchPubKey then
    .error .witnessPubkeytype
  else .ok ()

def checkMinimalPush (data : Bytes) (opcode : UInt8) : Bool :=
  let first := data.getD 0 0
  if data.length = 0 then opcode == op0
  else if data.length = 1 ∧ 1 ≤ first ∧ first ≤ 16 then opcode == op1 + (first - 1)
  else if data.length = 1 ∧ first = 0x81 then opcode == op1Negate
  else if data.length ≤ 75 then opcode.toNat == data.length
  else if data.length ≤ 255 then opcode == opPushdata1
  else if data.length ≤ 65535 then opcode == opPushdata2
  else true

end BlackRaven.Script
