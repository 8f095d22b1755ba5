import BlackRaven.Script.Interpreter
import BlackRaven.Script.Standard

/-!
Contract: what an asset script asks of a spend.

Owns: the evaluation of an asset script behind the pay-to-public-key-hash template, and of
one behind a push.

The data of the asset is the operand of `OP_BLKR_ASSET`, which does nothing; the spend is
decided by the 25 bytes before it.
-/

namespace BlackRaven.Script

open Lib

/-! ## Rules for the loop -/

section Rules

variable {ctx : ScriptContext} {sigversion : SigVersion}

variable {data rest script : Bytes} {opcode : UInt8} {s next : EvalState} {stack : List Bytes}

theorem evalFrom_read {pc : Bytes} (read : getOp pc = some (opcode, data, rest)) (fuel : Nat) (s : EvalState) :
    evalFrom ctx sigversion (fuel + 1) pc s
      = evalStep ctx sigversion opcode data rest s >>= evalFrom ctx sigversion fuel rest := by
  have notEnd : ¬ pc.isEmpty = true := by
    intro isEmpty
    rw [List.isEmpty_iff.mp isEmpty] at read
    cases read
  rw [evalFrom, if_neg notEnd, read]

/-- A loop that ends reads an operation, takes the step and goes on. -/
theorem evalFrom_ok {pc : Bytes} {fuel : Nat} {last : EvalState}
    (runs : evalFrom ctx sigversion (fuel + 1) pc s = .ok last) (read : getOp pc = some (opcode, data, rest)) :
    ∃ next, evalStep ctx sigversion opcode data rest s = .ok next
      ∧ evalFrom ctx sigversion fuel rest next = .ok last := by
  rw [evalFrom_read read] at runs
  exact bind_eq_ok.mp runs

theorem evalStep_dispatch (steps : evalStep ctx sigversion opcode data rest s = .ok next) :
    dispatch ctx sigversion opcode data rest (s.counted opcode) = .ok next := by
  unfold evalStep at steps
  simp only [ite_error_eq_ok] at steps
  obtain ⟨middle, dispatched, limit⟩ := bind_eq_ok.mp steps.2.2.2
  rw [ite_error_eq_ok] at limit
  rw [dispatched, limit.2]

/-- Outside conditionals, with this stack and with nothing cut off the signed script. -/
structure RunsOn (script : Bytes) (stack : List Bytes) (s : EvalState) : Prop where
  executes : s.vfExec = []
  code : s.codeHash = script
  onTop : s.stack = stack

theorem RunsOn.counted (runs : RunsOn script stack s) (opcode : UInt8)
    : RunsOn script stack (s.counted opcode) := by
  unfold EvalState.counted
  split
  · exact ⟨runs.executes, runs.code, runs.onTop⟩
  · exact runs

theorem push_runsOn (isPush : opcode ≤ opPushdata4) (runs : RunsOn script stack s)
    (steps : evalStep ctx sigversion opcode data rest s = .ok next) :
    RunsOn script (data :: stack) next := by
  have counted := runs.counted opcode
  have dispatched := evalStep_dispatch steps
  simp only [dispatch, counted.executes, List.all_nil, isPush, and_self, if_true, ite_error_eq_ok] at dispatched
  cases dispatched.2
  exact ⟨rfl, counted.code, congrArg (data :: ·) counted.onTop⟩

/-- Any other opcode outside conditionals goes through the switch. -/
theorem switch_runsOn (above : ¬ opcode ≤ opPushdata4) (runs : RunsOn script stack s)
    (steps : evalStep ctx sigversion opcode data rest s = .ok next) :
    ∃ before, RunsOn script stack before
      ∧ execOpcode ctx sigversion true rest before (Opcode.ofByte opcode) = .ok next := by
  have counted := runs.counted opcode
  have dispatched := evalStep_dispatch steps
  simp only [dispatch, counted.executes, List.all_nil, above, and_false, if_false, true_or,
    if_true] at dispatched
  exact ⟨s.counted opcode, counted, dispatched⟩

theorem RunsOn.onStack {outcome : Except ScriptError (List Bytes)} (runs : RunsOn script stack s)
    (steps : s.onStack outcome = .ok next) :
    ∃ result, outcome = .ok result ∧ RunsOn script result next := by
  obtain ⟨result, succeeds, isNext⟩ := map_eq_ok.mp steps
  cases isNext
  exact ⟨result, succeeds, runs.executes, runs.code, rfl⟩

end Rules

/-! ## The opcodes of the template -/

section Opcodes

variable {ctx : ScriptContext} {sigversion : SigVersion} {script data rest : Bytes}
  {stack : List Bytes} {s next : EvalState}

section

variable (runs : RunsOn script stack s)

include runs

theorem dup_runsOn (steps : evalStep ctx sigversion opDup data rest s = .ok next) :
    ∃ x below, stack = x :: below ∧ RunsOn script (x :: x :: below) next := by
  obtain ⟨before, runsBefore, executed⟩ := switch_runsOn (by decide) runs steps
  obtain ⟨result, copied, runsNext⟩ := runsBefore.onStack executed
  rw [runsBefore.onTop] at copied
  cases stack with
  | nil => cases copied
  | cons x below =>
    cases copied
    exact ⟨x, below, rfl, runsNext⟩

theorem hash160_runsOn (steps : evalStep ctx sigversion opHash160 data rest s = .ok next) :
    ∃ vch below, stack = vch :: below ∧ RunsOn script (ctx.digests.hash160 vch :: below) next := by
  obtain ⟨before, runsBefore, executed⟩ := switch_runsOn (by decide) runs steps
  have isHash : Opcode.ofByte opHash160 = .hash .hash160 := by decide
  simp only [execOpcode, runsBefore.onTop] at executed
  cases stack with
  | nil => cases executed
  | cons vch below =>
    cases executed
    exact ⟨vch, below, rfl, runsBefore.executes, runsBefore.code, rfl⟩

theorem equalverify_runsOn (steps : evalStep ctx sigversion opEqualverify data rest s = .ok next) :
    ∃ vch below, stack = vch :: vch :: below ∧ RunsOn script below next := by
  obtain ⟨before, runsBefore, executed⟩ := switch_runsOn (by decide) runs steps
  have isEqual : Opcode.ofByte opEqualverify = .equal true := by decide
  simp only [execOpcode, runsBefore.onTop] at executed
  match stack, executed with
  | [], impossible => cases impossible
  | [_], impossible => cases impossible
  | vch2 :: vch1 :: below, compared =>
    obtain ⟨result, verdict, runsNext⟩ := runsBefore.onStack compared
    by_cases same : vch1 = vch2
    · rw [same] at verdict ⊢
      simp only [pushVerdict, beq_self_eq_true, if_true] at verdict
      cases verdict
      exact ⟨vch2, below, rfl, runsNext⟩
    · simp [pushVerdict, same] at verdict

theorem checksig_runsOn (steps : evalStep ctx sigversion opChecksig data rest s = .ok next) :
    ∃ vchPubKey vchSig below, stack = vchPubKey :: vchSig :: below
      ∧ RunsOn script (boolBytes (ctx.checker.checkSig vchSig vchPubKey
          (dropSignature sigversion script vchSig) sigversion) :: below) next := by
  obtain ⟨before, runsBefore, executed⟩ := switch_runsOn (by decide) runs steps
  obtain ⟨result, checked, runsNext⟩ := runsBefore.onStack executed
  rw [runsBefore.onTop, runsBefore.code] at checked
  match stack, checked with
  | [], impossible => cases impossible
  | [_], impossible => cases impossible
  | vchPubKey :: vchSig :: below, verdict =>
    obtain ⟨_, _, pushed⟩ := bind_eq_ok.mp verdict
    simp only [ite_error_eq_ok] at pushed
    cases pushed.2
    exact ⟨vchPubKey, vchSig, below, rfl, runsNext⟩

theorem blkrAsset_runsOn (steps : evalStep ctx sigversion opBlkrAsset data rest s = .ok next) :
    RunsOn script stack next := by
  obtain ⟨before, runsBefore, executed⟩ := switch_runsOn (by decide) runs steps
  cases executed
  exact runsBefore

end

end Opcodes

/-! ## A script behind the template -/

/-- The template, then `OP_BLKR_ASSET` and its data. -/
def keyAssetScript (keyID data : Bytes) : Bytes := payToPubkeyHash keyID ++ opBlkrAsset :: data

variable {ctx : ScriptContext} {data : Bytes}

/-- Where such a script leaves a true stack, a key of the hash and a signature by it were
on top of the stack before. -/
theorem evalScript_keyAssetScript {sigversion : SigVersion} {keyID : Bytes}
    {stack final : List Bytes} (sized : keyID.length = 20)
    (runs : evalScript ctx sigversion stack (keyAssetScript keyID data) = .ok final)
    (isTrue : requireTrue final = .ok ()) :
    ∃ vchPubKey vchSig below, stack = vchPubKey :: vchSig :: below
      ∧ ctx.digests.hash160 vchPubKey = keyID
      ∧ ctx.checker.checkSig vchSig vchPubKey
          (dropSignature sigversion (keyAssetScript keyID data) vchSig) sigversion = true := by
  have shape : keyAssetScript keyID data
      = opDup :: opHash160 :: UInt8.ofNat keyID.length
          :: (keyID ++ opEqualverify :: opChecksig :: opBlkrAsset :: data) := by
    simp [keyAssetScript, payToPubkeyHash, pushData, sized, opPushdata1]
  have length : (keyAssetScript keyID data).length = data.length + 20 + 6 := by
    rw [shape]
    simp only [List.length_cons, List.length_append, sized]
    omega
  unfold evalScript at runs
  rw [ite_error_eq_ok, length] at runs
  obtain ⟨last, loop, isFinal⟩ := bind_eq_ok.mp runs.2
  rw [ite_error_eq_ok] at isFinal
  cases isFinal.2
  have starts : RunsOn (keyAssetScript keyID data) stack ⟨stack, [], [], 0, keyAssetScript keyID data⟩ :=
    ⟨rfl, rfl, rfl⟩
  generalize (⟨stack, [], [], 0, keyAssetScript keyID data⟩ : EvalState) = s0 at loop starts
  rw [shape] at loop
  -- One operation after the other, with the stack each one needs.
  obtain ⟨s1, step1, loop1⟩ := evalFrom_ok loop (getOp_plain _ (by decide) (by decide))
  obtain ⟨vchPubKey, below, isStack, runs1⟩ := dup_runsOn starts step1
  obtain ⟨s2, step2, loop2⟩ := evalFrom_ok loop1 (getOp_plain _ (by decide) (by decide))
  obtain ⟨_, _, hashed, runs2⟩ := hash160_runsOn runs1 step2
  cases hashed
  obtain ⟨s3, step3, loop3⟩ := evalFrom_ok loop2 (getOp_push _ (by rw [sized]; decide))
  have runs3 := push_runsOn (by rw [sized]; decide) runs2 step3
  obtain ⟨s4, step4, loop4⟩ := evalFrom_ok loop3 (getOp_plain _ (by decide) (by decide))
  obtain ⟨_, _, compared, runs4⟩ := equalverify_runsOn runs3 step4
  obtain ⟨isHash, isBelow⟩ := List.cons.inj compared
  obtain ⟨sameHash, isRest⟩ := List.cons.inj isBelow
  rw [← isRest] at runs4
  obtain ⟨s5, step5, loop5⟩ := evalFrom_ok loop4 (getOp_plain _ (by decide) (by decide))
  obtain ⟨_, vchSig, bottom, signed, runs5⟩ := checksig_runsOn runs4 step5
  obtain ⟨isKey, isBottom⟩ := List.cons.inj signed
  rw [← isKey] at runs5
  obtain ⟨s6, step6, loop6⟩ := evalFrom_ok loop5 (getOp_blkrAsset data)
  have runs6 := blkrAsset_runsOn runs5 step6
  cases loop6
  refine ⟨vchPubKey, vchSig, bottom, by rw [isStack, isBottom], sameHash.trans isHash.symm, ?_⟩
  rw [runs6.onTop] at isTrue
  by_contra notSigned
  simp [requireTrue, notSigned] at isTrue

/-- The bytes 3 to 22, to which an asset script is attributed. -/
def attributedKeyID (script : Bytes) : Bytes := (script.drop 3).take 20

/-- The first 25 bytes are the template of the key hash the script is attributed to. -/
def HasKeyTemplate (script : Bytes) : Prop :=
  script.take 25 = payToPubkeyHash (attributedKeyID script)

instance (script : Bytes) : Decidable (HasKeyTemplate script) := by
  unfold HasKeyTemplate
  infer_instance

/-- An asset script is 25 bytes, then `OP_BLKR_ASSET` and its data. -/
theorem isAssetScript_split {script : Bytes} (recognised : (isAssetScript script).isSome = true) :
    script = script.take 25 ++ opBlkrAsset :: script.drop 26 ∧ (attributedKeyID script).length = 20 := by
  obtain ⟨⟨kind, start⟩, isKind⟩ := Option.isSome_iff_exists.mp recognised
  have shape := isAssetScript_some isKind
  have inside : 25 < script.length := by omega
  have atOffset : script[25] = opBlkrAsset := by
    rw [← shape.2.1, List.getD_eq_getElem?_getD, List.getElem?_eq_getElem inside, Option.getD_some]
  constructor
  · rw [← atOffset, ← List.drop_eq_getElem_cons inside, List.take_append_drop]
  · simp only [attributedKeyID, List.length_take, List.length_drop]
    omega

theorem verifyScript_evaluations {scriptSig scriptPubKey : Bytes} {witness : List Bytes}
    (accepted : verifyScript ctx scriptSig scriptPubKey witness = .ok ()) :
    ∃ stackCopy stack, evalScript ctx .base [] scriptSig = .ok stackCopy
      ∧ evalScript ctx .base stackCopy scriptPubKey = .ok stack ∧ requireTrue stack = .ok () := by
  unfold verifyScript at accepted
  rw [ite_error_eq_ok] at accepted
  obtain ⟨stackCopy, first, later⟩ := bind_eq_ok.mp accepted.2
  obtain ⟨stack, second, verdict⟩ := bind_eq_ok.mp later
  obtain ⟨_, isTrue, _⟩ := bind_eq_ok.mp verdict
  exact ⟨stackCopy, stack, first, second, isTrue⟩

/-- A spend of an asset script behind the template presents a key of the attributed hash
and a signature by it. -/
theorem verifyScript_keyTemplate {scriptSig scriptPubKey : Bytes} {witness : List Bytes}
    (recognised : (isAssetScript scriptPubKey).isSome = true) (template : HasKeyTemplate scriptPubKey)
    (accepted : verifyScript ctx scriptSig scriptPubKey witness = .ok ()) :
    ∃ vchPubKey vchSig below,
      evalScript ctx .base [] scriptSig = .ok (vchPubKey :: vchSig :: below)
      ∧ ctx.digests.hash160 vchPubKey = attributedKeyID scriptPubKey
      ∧ ctx.checker.checkSig vchSig vchPubKey (findAndDelete scriptPubKey (pushData vchSig)) .base = true := by
  obtain ⟨stackCopy, stack, first, second, isTrue⟩ := verifyScript_evaluations accepted
  obtain ⟨split, sized⟩ := isAssetScript_split recognised
  have isKeyAsset : scriptPubKey
      = keyAssetScript (attributedKeyID scriptPubKey) (scriptPubKey.drop 26) := by
    rw [keyAssetScript, ← template]
    exact split
  rw [isKeyAsset] at second
  obtain ⟨vchPubKey, vchSig, below, isStack, isKey, signed⟩ := evalScript_keyAssetScript sized second isTrue
  rw [← isKeyAsset] at signed
  rw [isStack] at first
  exact ⟨vchPubKey, vchSig, below, first, isKey, signed⟩

/-! ## A script behind a push -/

def opPush24 : UInt8 := 0x18

/-- An asset script whose first 25 bytes are one push leaves the pushed bytes on the stack. -/
theorem evalScript_pushAssetScript (ctx : ScriptContext) {pushed : Bytes}
    (anyPush : ctx.flags.minimaldata = false) (sized : pushed.length = 24)
    (small : data.length ≤ maxScriptElementSize) :
    evalScript ctx .base [] (opPush24 :: (pushed ++ opBlkrAsset :: data)) = .ok [pushed] := by
  have length : (opPush24 :: (pushed ++ opBlkrAsset :: data)).length = data.length + 24 + 2 := by
    simp only [List.length_cons, List.length_append, sized]
    omega
  have fits : ¬ data.length + 24 + 2 > maxScriptSize := by
    simp only [maxScriptElementSize] at small
    simp only [maxScriptSize]
    omega
  have readPush : getOp (UInt8.ofNat pushed.length :: (pushed ++ opBlkrAsset :: data))
      = some (UInt8.ofNat pushed.length, pushed, opBlkrAsset :: data) :=
    getOp_push _ (by rw [sized]; decide)
  have isPush24 : UInt8.ofNat pushed.length = opPush24 := by rw [sized]; decide
  rw [isPush24] at readPush
  have pushStep (rest code : Bytes) : evalStep ctx .base opPush24 pushed rest ⟨[], [], [], 0, code⟩
      = .ok ⟨[pushed], [], [], 0, code⟩ := by
    have below : ¬ opPush24 > op16 := by decide
    have isPush : opPush24 ≤ opPushdata4 := by decide
    have enabled : opPush24 ∉ disabledOpcodes := by decide
    simp [evalStep, dispatch, EvalState.counted, below, isPush, enabled, anyPush, sized,
      maxScriptElementSize, maxStackSize, bind, Except.bind]
  have assetStep (code : Bytes) : evalStep ctx .base opBlkrAsset data [] ⟨[pushed], [], [], 0, code⟩
      = .ok ⟨[pushed], [], [], 1, code⟩ := by
    have counts : opBlkrAsset > op16 := by decide
    have above : ¬ opBlkrAsset ≤ opPushdata4 := by decide
    have enabled : opBlkrAsset ∉ disabledOpcodes := by decide
    have isAsset : Opcode.ofByte opBlkrAsset = .blkrAsset := by decide
    simp [evalStep, dispatch, EvalState.counted, execOpcode, counts, above, enabled, isAsset,
      not_lt.mpr small, maxOpsPerScript, maxStackSize, bind, Except.bind]
  rw [evalScript, length, if_neg fits, evalFrom_read readPush, pushStep]
  simp only [bind, Except.bind]
  rw [evalFrom_read (getOp_blkrAsset data), assetStep]
  rfl

theorem verifyScript_pushAssetScript (ctx : ScriptContext) {pushed : Bytes}
    (anyPush : ctx.flags.minimaldata = false) (anyStack : ctx.flags.cleanstack = false)
    (consistent : ctx.flags.witness = true → ctx.flags.p2sh = true) (sized : pushed.length = 24)
    (isTrue : castToBool pushed = true) (small : data.length ≤ maxScriptElementSize) :
    verifyScript ctx [] (opPush24 :: (pushed ++ opBlkrAsset :: data)) [] = .ok () := by
  have noSignature : evalScript ctx .base [] [] = .ok [] := rfl
  have notProgram : isWitnessProgram (opPush24 :: (pushed ++ opBlkrAsset :: data)) = none := by
    have notSmall : isSmallInteger opPush24 = false := by decide
    simp [isWitnessProgram, notSmall]
  have notP2SH : isPayToScriptHash (opPush24 :: (pushed ++ opBlkrAsset :: data)) = false := by
    have notHash : (opPush24 == opHash160) = false := by decide
    simp [isPayToScriptHash, notHash]
  have pushOnly : isPushOnly [] = true := rfl
  have bare : verifyWitness ctx [] (opPush24 :: (pushed ++ opBlkrAsset :: data)) [] []
      .witnessMalleated ⟨[pushed], false⟩ = .ok ⟨[pushed], false⟩ := by
    simp [verifyWitness, notProgram]
  have ends : verifyEnd ctx [] ⟨[pushed], false⟩ = .ok () := by
    by_cases witness : ctx.flags.witness = true
    · simp [verifyEnd, anyStack, witness, consistent witness]
    · simp [verifyEnd, anyStack, witness]
  simp [verifyScript, pushOnly, noSignature, evalScript_pushAssetScript ctx anyPush sized small,
    requireTrue, isTrue, bare, verifyP2SH, notP2SH, ends, bind, Except.bind]

end BlackRaven.Script
