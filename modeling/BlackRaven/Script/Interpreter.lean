import BlackRaven.Lib.Outcome
import BlackRaven.Primitives.Hashes
import BlackRaven.Script.ScriptNum

/-!
Contract: `EvalScript`, `VerifyWitnessProgram` and `VerifyScript` of
`script/interpreter.cpp`.

Owns: the stack machine with every opcode of the switch, and the verdict on a spend.

Does not own: signature hashes and the elliptic-curve library, which stand behind
`SignatureChecker`.

Stacks are lists with the top first.
-/

namespace BlackRaven.Script

open Primitives

def maxOpsPerScript : Nat := 201
def maxPubkeysPerMultisig : Nat := 20
def maxStackSize : Nat := 1000

/-- `BaseSignatureChecker`, and `CPubKey::CheckLowS`. -/
structure SignatureChecker where
  checkSig : (vchSig vchPubKey scriptCode : Bytes) → SigVersion → Bool
  checkLockTime : Int → Bool
  checkSequence : Int → Bool
  checkLowS : Bytes → Bool

structure ScriptContext where
  digests : Digests
  flags : ScriptFlags
  checker : SignatureChecker

/-! ## Opcodes -/

inductive StackOp where
  | drop2 | dup2 | dup3 | over2 | rot2 | swap2 | ifdup | depth | drop | dup | nip | over
  | pick | roll | rot | swap | tuck | size
  deriving DecidableEq, Repr

inductive UnaryOp where
  | add1 | sub1 | negate | abs | not | notEqual0
  deriving DecidableEq, Repr

inductive BinaryOp where
  | add | sub | boolAnd | boolOr | numEqual | numEqualVerify | numNotEqual | lessThan
  | greaterThan | lessThanOrEqual | greaterThanOrEqual | min | max
  deriving DecidableEq, Repr

inductive HashOp where
  | ripemd160 | sha1 | sha256 | hash160 | hash256
  deriving DecidableEq, Repr

/-- The cases of the switch. The opcodes that only differ in a final `VERIFY` share a
constructor. -/
inductive Opcode where
  | number (value : Int)
  | nop
  | checklocktimeverify
  | checksequenceverify
  | upgradableNop
  | branch (negated : Bool)
  | otherwise
  | endif
  | verify
  | ret
  | toaltstack
  | fromaltstack
  | stack (op : StackOp)
  | equal (verify : Bool)
  | unary (op : UnaryOp)
  | binary (op : BinaryOp)
  | within
  | hash (op : HashOp)
  | codeseparator
  | checksig (verify : Bool)
  | checkmultisig (verify : Bool)
  | blkrAsset
  | invalid
  deriving DecidableEq, Repr

/-- `OP_CAT`, `OP_SUBSTR`, `OP_LEFT`, `OP_RIGHT`, `OP_INVERT`, `OP_AND`, `OP_OR`, `OP_XOR`,
`OP_2MUL`, `OP_2DIV`, `OP_MUL`, `OP_DIV`, `OP_MOD`, `OP_LSHIFT`, `OP_RSHIFT`. -/
def disabledOpcodes : List UInt8 :=
  [0x7e, 0x7f, 0x80, 0x81, 0x83, 0x84, 0x85, 0x86, 0x8d, 0x8e, 0x95, 0x96, 0x97, 0x98, 0x99]

/-- The labels of the switch, apart from `OP_1NEGATE` and `OP_1` to `OP_16`. -/
def switchLabels : List (UInt8 × Opcode) :=
  [(0x61, .nop), (0x63, .branch false), (0x64, .branch true), (0x67, .otherwise), (0x68, .endif),
    (0x69, .verify), (0x6a, .ret), (0x6b, .toaltstack), (0x6c, .fromaltstack),
    (0x6d, .stack .drop2), (0x6e, .stack .dup2), (0x6f, .stack .dup3), (0x70, .stack .over2),
    (0x71, .stack .rot2), (0x72, .stack .swap2), (0x73, .stack .ifdup), (0x74, .stack .depth),
    (0x75, .stack .drop), (0x76, .stack .dup), (0x77, .stack .nip), (0x78, .stack .over),
    (0x79, .stack .pick), (0x7a, .stack .roll), (0x7b, .stack .rot), (0x7c, .stack .swap),
    (0x7d, .stack .tuck), (0x82, .stack .size), (0x87, .equal false), (0x88, .equal true),
    (0x8b, .unary .add1), (0x8c, .unary .sub1), (0x8f, .unary .negate), (0x90, .unary .abs),
    (0x91, .unary .not), (0x92, .unary .notEqual0), (0x93, .binary .add), (0x94, .binary .sub),
    (0x9a, .binary .boolAnd), (0x9b, .binary .boolOr), (0x9c, .binary .numEqual),
    (0x9d, .binary .numEqualVerify), (0x9e, .binary .numNotEqual), (0x9f, .binary .lessThan),
    (0xa0, .binary .greaterThan), (0xa1, .binary .lessThanOrEqual),
    (0xa2, .binary .greaterThanOrEqual), (0xa3, .binary .min), (0xa4, .binary .max),
    (0xa5, .within), (0xa6, .hash .ripemd160), (0xa7, .hash .sha1), (0xa8, .hash .sha256),
    (0xa9, .hash .hash160), (0xaa, .hash .hash256), (0xab, .codeseparator),
    (0xac, .checksig false), (0xad, .checksig true), (0xae, .checkmultisig false),
    (0xaf, .checkmultisig true), (0xb0, .upgradableNop), (0xb1, .checklocktimeverify),
    (0xb2, .checksequenceverify), (0xb3, .upgradableNop), (0xb4, .upgradableNop),
    (0xb5, .upgradableNop), (0xb6, .upgradableNop), (0xb7, .upgradableNop),
    (0xb8, .upgradableNop), (0xb9, .upgradableNop), (0xc0, .blkrAsset)]

/-- The case of an opcode byte; `invalid` is the default. -/
def Opcode.ofByte (opcode : UInt8) : Opcode :=
  if opcode = op1Negate ∨ (op1 ≤ opcode ∧ opcode ≤ op16) then
    .number ((opcode.toNat : Int) - 0x50)
  else (switchLabels.lookup opcode).getD .invalid

/-! ## Stack, number and hash operations -/

variable (fRequireMinimal : Bool)

/-- `OP_PICK` and `OP_ROLL` find their element at this depth. -/
def pickDepth (top : Bytes) (stack : List Bytes) :
    Except ScriptError Nat := do
  let n ← scriptNum fRequireMinimal nDefaultMaxNumSize top
  if n < 0 ∨ n ≥ stack.length then .error .invalidStackOperation else .ok n.toNat

def StackOp.run : StackOp → List Bytes → Except ScriptError (List Bytes)
  | .drop2, _ :: _ :: stack => .ok stack
  | .dup2, x2 :: x1 :: stack => .ok (x2 :: x1 :: x2 :: x1 :: stack)
  | .dup3, x3 :: x2 :: x1 :: stack => .ok (x3 :: x2 :: x1 :: x3 :: x2 :: x1 :: stack)
  | .over2, x4 :: x3 :: x2 :: x1 :: stack => .ok (x2 :: x1 :: x4 :: x3 :: x2 :: x1 :: stack)
  | .rot2, x6 :: x5 :: x4 :: x3 :: x2 :: x1 :: stack =>
    .ok (x2 :: x1 :: x6 :: x5 :: x4 :: x3 :: stack)
  | .swap2, x4 :: x3 :: x2 :: x1 :: stack => .ok (x2 :: x1 :: x4 :: x3 :: stack)
  | .ifdup, x :: stack => .ok (if castToBool x then x :: x :: stack else x :: stack)
  | .depth, stack => .ok (serialize stack.length :: stack)
  | .drop, _ :: stack => .ok stack
  | .dup, x :: stack => .ok (x :: x :: stack)
  | .nip, x2 :: _ :: stack => .ok (x2 :: stack)
  | .over, x2 :: x1 :: stack => .ok (x1 :: x2 :: x1 :: stack)
  | .pick, top :: x :: stack =>
    (pickDepth fRequireMinimal top (x :: stack)).map fun n => (x :: stack).getD n [] :: x :: stack
  | .roll, top :: x :: stack =>
    (pickDepth fRequireMinimal top (x :: stack)).map fun n =>
      (x :: stack).getD n [] :: (x :: stack).eraseIdx n
  | .rot, x3 :: x2 :: x1 :: stack => .ok (x1 :: x3 :: x2 :: stack)
  | .swap, x2 :: x1 :: stack => .ok (x1 :: x2 :: stack)
  | .tuck, x2 :: x1 :: stack => .ok (x2 :: x1 :: x2 :: stack)
  | .size, x :: stack => .ok (serialize x.length :: x :: stack)
  | _, _ => .error .invalidStackOperation

def truth (value : Bool) : Int := if value then 1 else 0

def UnaryOp.run : UnaryOp → Int → Int
  | .add1, bn => bn + 1
  | .sub1, bn => bn - 1
  | .negate, bn => -bn
  | .abs, bn => if bn < 0 then -bn else bn
  | .not, bn => truth (bn == 0)
  | .notEqual0, bn => truth (bn != 0)

def BinaryOp.run : BinaryOp → Int → Int → Int
  | .add, bn1, bn2 => bn1 + bn2
  | .sub, bn1, bn2 => bn1 - bn2
  | .boolAnd, bn1, bn2 => truth (bn1 != 0 && bn2 != 0)
  | .boolOr, bn1, bn2 => truth (bn1 != 0 || bn2 != 0)
  | .numEqual, bn1, bn2 => truth (bn1 == bn2)
  | .numEqualVerify, bn1, bn2 => truth (bn1 == bn2)
  | .numNotEqual, bn1, bn2 => truth (bn1 != bn2)
  | .lessThan, bn1, bn2 => truth (decide (bn1 < bn2))
  | .greaterThan, bn1, bn2 => truth (decide (bn1 > bn2))
  | .lessThanOrEqual, bn1, bn2 => truth (decide (bn1 ≤ bn2))
  | .greaterThanOrEqual, bn1, bn2 => truth (decide (bn1 ≥ bn2))
  | .min, bn1, bn2 => if bn1 < bn2 then bn1 else bn2
  | .max, bn1, bn2 => if bn1 > bn2 then bn1 else bn2

def HashOp.run (digests : Digests) : HashOp → Bytes → Bytes
  | .ripemd160, vch => digests.ripemd160 vch
  | .sha1, vch => digests.sha1 vch
  | .sha256, vch => digests.sha256 vch
  | .hash160, vch => digests.hash160 vch
  | .hash256, vch => digests.hash256 vch

/-- Push a verdict, or for a `VERIFY` opcode require it. -/
def pushVerdict (verify : Bool) (failure : ScriptError) (fSuccess : Bool) (stack : List Bytes) :
    Except ScriptError (List Bytes) :=
  if verify then if fSuccess then .ok stack else .error failure
  else .ok (boolBytes fSuccess :: stack)

def unaryStep (op : UnaryOp) : List Bytes → Except ScriptError (List Bytes)
  | top :: stack => do
      let bn ← scriptNum fRequireMinimal nDefaultMaxNumSize top
      return serialize (op.run bn) :: stack
  | [] => .error .invalidStackOperation

def binaryStep (op : BinaryOp) :
    List Bytes → Except ScriptError (List Bytes)
  | x2 :: x1 :: stack => do
      let bn1 ← scriptNum fRequireMinimal nDefaultMaxNumSize x1
      let bn2 ← scriptNum fRequireMinimal nDefaultMaxNumSize x2
      let bn := op.run bn1 bn2
      if op = .numEqualVerify then
        if castToBool (serialize bn) then .ok stack else .error .numequalverify
      else .ok (serialize bn :: stack)
  | _ => .error .invalidStackOperation

def withinStep : List Bytes → Except ScriptError (List Bytes)
  | max :: min :: x :: stack => do
      let bn1 ← scriptNum fRequireMinimal nDefaultMaxNumSize x
      let bn2 ← scriptNum fRequireMinimal nDefaultMaxNumSize min
      let bn3 ← scriptNum fRequireMinimal nDefaultMaxNumSize max
      return boolBytes (decide (bn2 ≤ bn1) && decide (bn1 < bn3)) :: stack
  | _ => .error .invalidStackOperation

/-! ## Signature operations -/

section Signatures

variable (ctx : ScriptContext) (sigversion : SigVersion)

/-- Both encodings, as `OP_CHECKSIG` and `OP_CHECKMULTISIG` check them before a
signature. -/
def checkEncodings (vchSig vchPubKey : Bytes) : Except ScriptError Unit := do
  checkSignatureEncoding ctx.checker.checkLowS ctx.flags vchSig
  checkPubKeyEncoding ctx.flags sigversion vchPubKey

/-- The signed part of the script: without the signature itself, except in witness
scripts. -/
def dropSignature (scriptCode vchSig : Bytes) : Bytes :=
  if sigversion = .base then findAndDelete scriptCode (pushData vchSig) else scriptCode

def checksigStep (verify : Bool) (scriptCode : Bytes) :
    List Bytes → Except ScriptError (List Bytes)
  | vchPubKey :: vchSig :: stack => do
      checkEncodings ctx sigversion vchSig vchPubKey
      let fSuccess := ctx.checker.checkSig vchSig vchPubKey
        (dropSignature sigversion scriptCode vchSig) sigversion
      if !fSuccess ∧ ctx.flags.nullfail ∧ !vchSig.isEmpty then .error .sigNullfail
      else pushVerdict verify .checksigverify fSuccess stack
  | _ => .error .invalidStackOperation

/-- The loop over signatures and keys, both from the top. It stops when more signatures
than keys are left. -/
def multisigLoop (scriptCode : Bytes) : (sigs keys : List Bytes) → Except ScriptError Bool
  | [], _ => .ok true
  | _ :: _, [] => .ok false
  | vchSig :: sigs, vchPubKey :: keys => do
      checkEncodings ctx sigversion vchSig vchPubKey
      let fOk := ctx.checker.checkSig vchSig vchPubKey scriptCode sigversion
      let remaining := if fOk then sigs else vchSig :: sigs
      if remaining.length > keys.length then .ok false else multisigLoop scriptCode remaining keys

/-- `OP_CHECKMULTISIG`: the new stack and the number of keys, which counts as operations. -/
def checkmultisigStep (verify : Bool) (scriptCode : Bytes) (nOpCount : Nat) (stack : List Bytes) :
    Except ScriptError (List Bytes × Nat) :=
  match stack with
  | [] => .error .invalidStackOperation
  | keysTop :: belowCount => do
      let nKeysCount ← scriptNum ctx.flags.minimaldata nDefaultMaxNumSize keysTop
      if nKeysCount < 0 ∨ nKeysCount > maxPubkeysPerMultisig then .error .pubkeyCount
      else if nOpCount + nKeysCount.toNat > maxOpsPerScript then .error .opCount
      else
        let keys := belowCount.take nKeysCount.toNat
        match belowCount.drop nKeysCount.toNat with
        | [] => .error .invalidStackOperation
        | sigsTop :: belowKeys => do
            let nSigsCount ← scriptNum ctx.flags.minimaldata nDefaultMaxNumSize sigsTop
            if nSigsCount < 0 ∨ nSigsCount > nKeysCount then .error .sigCount
            else
              let sigs := belowKeys.take nSigsCount.toNat
              match belowKeys.drop nSigsCount.toNat with
              | [] => .error .invalidStackOperation
              | dummy :: below => do
                  let signedCode := sigs.foldl (dropSignature sigversion) scriptCode
                  let fSuccess ← multisigLoop ctx sigversion signedCode sigs keys
                  if !fSuccess ∧ ctx.flags.nullfail ∧ sigs.any (!·.isEmpty) then .error .sigNullfail
                  else if ctx.flags.nulldummy ∧ !dummy.isEmpty then .error .sigNulldummy
                  else do
                    let next ← pushVerdict verify .checkmultisigverify fSuccess below
                    return (next, nOpCount + nKeysCount.toNat)

end Signatures

/-! ## The loop of `EvalScript` -/

structure EvalState where
  stack : List Bytes
  altstack : List Bytes
  vfExec : List Bool
  nOpCount : Nat
  /-- The script from `pbegincodehash` on. -/
  codeHash : Bytes
  deriving DecidableEq, Repr

def EvalState.onStack (s : EvalState) (outcome : Except ScriptError (List Bytes)) :
    Except ScriptError EvalState :=
  outcome.map fun stack => { s with stack := stack }

section Loop

variable (ctx : ScriptContext) (sigversion : SigVersion)

variable (s : EvalState) (opcode : UInt8)

/-- A `NOP` that an upgrade may give a meaning. -/
def upgradableNopStep : Except ScriptError EvalState :=
  if ctx.flags.discourageUpgradableNops then .error .discourageUpgradableNops else .ok s

def checklocktimeverifyStep : Except ScriptError EvalState :=
  if !ctx.flags.checklocktimeverify then upgradableNopStep ctx s
  else
    match s.stack with
    | [] => .error .invalidStackOperation
    | top :: _ => do
        let nLockTime ← scriptNum ctx.flags.minimaldata 5 top
        if nLockTime < 0 then .error .negativeLocktime
        else if !ctx.checker.checkLockTime nLockTime then .error .unsatisfiedLocktime
        else .ok s

/-- Bit 31, `SEQUENCE_LOCKTIME_DISABLE_FLAG`, makes the opcode a `NOP`. -/
def checksequenceverifyStep : Except ScriptError EvalState :=
  if !ctx.flags.checksequenceverify then upgradableNopStep ctx s
  else
    match s.stack with
    | [] => .error .invalidStackOperation
    | top :: _ => do
        let nSequence ← scriptNum ctx.flags.minimaldata 5 top
        if nSequence < 0 then .error .negativeLocktime
        else if nSequence.toNat.testBit 31 then .ok s
        else if !ctx.checker.checkSequence nSequence then .error .unsatisfiedLocktime
        else .ok s

/-- `OP_IF` and `OP_NOTIF`. Where nothing executes, the operand stays on the stack. -/
def branchStep (fExec negated : Bool) (s : EvalState) : Except ScriptError EvalState :=
  if !fExec then .ok { s with vfExec := false :: s.vfExec }
  else
    match s.stack with
    | [] => .error .unbalancedConditional
    | vch :: stack =>
      if sigversion = .witnessV0 ∧ ctx.flags.minimalif
          ∧ (vch.length > 1 ∨ (vch.length = 1 ∧ vch.getD 0 0 ≠ 1)) then .error .minimalif
      else .ok { s with stack := stack, vfExec := (castToBool vch != negated) :: s.vfExec }

def execOpcode (fExec : Bool) (rest : Bytes) (s : EvalState) : Opcode → Except ScriptError EvalState
  | .number value => .ok { s with stack := serialize value :: s.stack }
  | .nop => .ok s
  | .checklocktimeverify => checklocktimeverifyStep ctx s
  | .checksequenceverify => checksequenceverifyStep ctx s
  | .upgradableNop => upgradableNopStep ctx s
  | .branch negated => branchStep ctx sigversion fExec negated s
  | .otherwise =>
    match s.vfExec with
    | [] => .error .unbalancedConditional
    | innermost :: outer => .ok { s with vfExec := (!innermost) :: outer }
  | .endif =>
    match s.vfExec with
    | [] => .error .unbalancedConditional
    | _ :: outer => .ok { s with vfExec := outer }
  | .verify =>
    match s.stack with
    | [] => .error .invalidStackOperation
    | top :: stack => if castToBool top then .ok { s with stack := stack } else .error .verify
  | .ret => .error .opReturn
  | .toaltstack =>
    match s.stack with
    | [] => .error .invalidStackOperation
    | top :: stack => .ok { s with stack := stack, altstack := top :: s.altstack }
  | .fromaltstack =>
    match s.altstack with
    | [] => .error .invalidAltstackOperation
    | top :: altstack => .ok { s with stack := top :: s.stack, altstack := altstack }
  | .stack op => s.onStack (op.run ctx.flags.minimaldata s.stack)
  | .equal verify =>
    match s.stack with
    | vch2 :: vch1 :: stack => s.onStack (pushVerdict verify .equalverify (vch1 == vch2) stack)
    | _ => .error .invalidStackOperation
  | .unary op => s.onStack (unaryStep ctx.flags.minimaldata op s.stack)
  | .binary op => s.onStack (binaryStep ctx.flags.minimaldata op s.stack)
  | .within => s.onStack (withinStep ctx.flags.minimaldata s.stack)
  | .hash op =>
    match s.stack with
    | [] => .error .invalidStackOperation
    | vch :: stack => .ok { s with stack := op.run ctx.digests vch :: stack }
  | .codeseparator => .ok { s with codeHash := rest }
  | .checksig verify => s.onStack (checksigStep ctx sigversion verify s.codeHash s.stack)
  | .checkmultisig verify =>
    (checkmultisigStep ctx sigversion verify s.codeHash s.nOpCount s.stack).map fun next =>
      { s with stack := next.1, nOpCount := next.2 }
  | .blkrAsset => .ok s
  | .invalid => .error .badOpcode

/-- Opcodes above `OP_16` count towards the limit. -/
def EvalState.counted : EvalState :=
  if opcode > op16 then { s with nOpCount := s.nOpCount + 1 } else s

/-- `OP_IF` to `OP_ENDIF` are looked at even where nothing executes. -/
def isControl : Bool := decide (0x63 ≤ opcode) && decide (opcode ≤ 0x68)

/-- What one opcode does, after the limits on it and before the limit on the stacks. -/
def dispatch (vchPushValue rest : Bytes) (s : EvalState) :
    Except ScriptError EvalState :=
  let fExec := s.vfExec.all id
  if fExec ∧ opcode ≤ opPushdata4 then
    if ctx.flags.minimaldata ∧ !checkMinimalPush vchPushValue opcode then .error .minimaldata
    else .ok { s with stack := vchPushValue :: s.stack }
  else if fExec ∨ isControl opcode then
    execOpcode ctx sigversion fExec rest s (Opcode.ofByte opcode)
  else .ok s

/-- One turn of the loop, once the operation is read. -/
def evalStep (vchPushValue rest : Bytes) (s : EvalState) :
    Except ScriptError EvalState :=
  if vchPushValue.length > maxScriptElementSize then .error .pushSize
  else if opcode > op16 ∧ s.nOpCount + 1 > maxOpsPerScript then .error .opCount
  else if opcode ∈ disabledOpcodes then .error .disabledOpcode
  else do
    let next ← dispatch ctx sigversion opcode vchPushValue rest (s.counted opcode)
    if next.stack.length + next.altstack.length > maxStackSize then .error .stackSize
    else .ok next

/-- The loop. One operation takes at least one byte, so the length of the script is
enough fuel. -/
def evalFrom : Nat → Bytes → EvalState → Except ScriptError EvalState
  | 0, _, s => .ok s
  | fuel + 1, pc, s =>
    if pc.isEmpty then .ok s
    else
      match getOp pc with
      | none => .error .badOpcode
      | some (opcode, vchPushValue, rest) => do
          let next ← evalStep ctx sigversion opcode vchPushValue rest s
          evalFrom fuel rest next

/-- `EvalScript`: the stack it leaves. -/
def evalScript (stack : List Bytes) (script : Bytes) : Except ScriptError (List Bytes) :=
  if script.length > maxScriptSize then .error .scriptSize
  else do
    let final ← evalFrom ctx sigversion script.length script ⟨stack, [], [], 0, script⟩
    if !final.vfExec.isEmpty then .error .unbalancedConditional else .ok final.stack

end Loop

/-! ## `VerifyScript` -/

section Verify

variable (ctx : ScriptContext)

/-- The stack must not be empty and its top must be true. -/
def requireTrue : List Bytes → Except ScriptError Unit
  | [] => .error .evalFalse
  | top :: _ => if castToBool top then .ok () else .error .evalFalse

variable (witness : List Bytes)

/-- The script and the stack that a version 0 witness program runs. -/
def witnessProgramScript (program : Bytes) :
    Except ScriptError (Bytes × List Bytes) :=
  if program.length = 32 then
    match witness.reverse with
    | [] => .error .witnessProgramWitnessEmpty
    | scriptPubKey :: stack =>
      if ctx.digests.sha256 scriptPubKey ≠ program then .error .witnessProgramMismatch
      else .ok (scriptPubKey, stack)
  else if program.length = 20 then
    if witness.length ≠ 2 then .error .witnessProgramMismatch
    else .ok ([opDup, opHash160] ++ pushData program ++ [opEqualverify, opChecksig], witness.reverse)
  else .error .witnessProgramWrongLength

def verifyWitnessProgram (witversion : Nat) (program : Bytes) :
    Except ScriptError Unit :=
  if witversion = 0 then do
    let (scriptPubKey, stack) ← witnessProgramScript ctx witness program
    if stack.any fun item => decide (item.length > maxScriptElementSize) then .error .pushSize
    else do
      let final ← evalScript ctx .witnessV0 stack scriptPubKey
      if final.length ≠ 1 then .error .evalFalse else requireTrue final
  else if ctx.flags.discourageUpgradableWitnessProgram then
    .error .discourageUpgradableWitnessProgram
  else .ok ()

/-- What the stages of `VerifyScript` hand on: the stack, and whether a witness program
was run. -/
structure VerifyState where
  stack : List Bytes
  hadWitness : Bool

/-- Run the witness program that `script` is, if it is one. The script signature must be
exactly `expected`. -/
def verifyWitness (script scriptSig expected : Bytes) (malleated : ScriptError) (s : VerifyState) :
    Except ScriptError VerifyState :=
  if !ctx.flags.witness then .ok s
  else
    match isWitnessProgram script with
    | none => .ok s
    | some (witnessversion, witnessprogram) =>
      if scriptSig ≠ expected then .error malleated
      else do
        verifyWitnessProgram ctx witness witnessversion witnessprogram
        -- `stack.resize(1)` keeps the bottom element.
        return ⟨s.stack.drop (s.stack.length - 1), true⟩

/-- The second evaluation, of the script whose hash the output has. -/
def verifyP2SH (scriptSig scriptPubKey : Bytes) (witness stackCopy : List Bytes) (s : VerifyState) :
    Except ScriptError VerifyState :=
  if !(ctx.flags.p2sh && isPayToScriptHash scriptPubKey) then .ok s
  else if !isPushOnly scriptSig then .error .sigPushonly
  else
    match stackCopy with
    | [] => .error .assertionFailed
    | pubKey2 :: below => do
        let stack ← evalScript ctx .base below pubKey2
        requireTrue stack
        verifyWitness ctx witness pubKey2 scriptSig (pushData pubKey2) .witnessMalleatedP2sh
          ⟨stack, s.hadWitness⟩

def verifyEnd (s : VerifyState) : Except ScriptError Unit :=
  if ctx.flags.cleanstack ∧ !(ctx.flags.p2sh && ctx.flags.witness) then .error .assertionFailed
  else if ctx.flags.cleanstack ∧ s.stack.length ≠ 1 then .error .cleanstack
  else if ctx.flags.witness ∧ !ctx.flags.p2sh then .error .assertionFailed
  else if ctx.flags.witness ∧ !s.hadWitness ∧ !witness.isEmpty then .error .witnessUnexpected
  else .ok ()

def verifyScript (scriptSig scriptPubKey : Bytes) (witness : List Bytes) :
    Except ScriptError Unit :=
  if ctx.flags.sigpushonly ∧ !isPushOnly scriptSig then .error .sigPushonly
  else do
    let stackCopy ← evalScript ctx .base [] scriptSig
    let stack ← evalScript ctx .base stackCopy scriptPubKey
    requireTrue stack
    let bare ← verifyWitness ctx witness scriptPubKey scriptSig [] .witnessMalleated ⟨stack, false⟩
    let final ← verifyP2SH ctx scriptSig scriptPubKey witness stackCopy bare
    verifyEnd ctx witness final

end Verify

end BlackRaven.Script
