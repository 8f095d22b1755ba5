import BlackRaven.Assets.DumpTransparency

/-!
Contract: the verifier string of an asset after changes of it, flushes and dumps.

A change is recorded on its side unless the side holds an entry for the name already, and a
removal below hides an addition above.

Owns: when the answer is that of the last change of the name, whatever flushes, dumps and
changes of other names follow.
-/

namespace BlackRaven.Assets

open Lib

inductive VerifierChange where
  | add (verifier : Bytes)
  | remove (verifier : Bytes) (fUndoingReissue : Bool)

namespace VerifierChange

def op (name : Bytes) : VerifierChange → CacheOp
  | .add verifier => .addRestrictedVerifier name verifier
  | .remove verifier fUndoingReissue => .removeRestrictedVerifier name verifier fUndoingReissue

/-- The verifier string that the change is to leave. -/
def answer : VerifierChange → Option Bytes
  | .add verifier => some verifier
  | .remove verifier fUndoingReissue => if fUndoingReissue then some verifier else none

/-- No entry that the change meets says anything else. -/
def TakesEffect (state : CacheState) (name : Bytes) : VerifierChange → Prop
  | .add verifier =>
    (∀ held, state.cache.setNewRestrictedVerifier.toAdd[name]? = some held → held.verifier = verifier)
      ∧ ∀ held, state.globals.passets.setNewRestrictedVerifier.toRemove[name]? = some held →
        held.fUndoingRessiue = true ∧ held.verifier = verifier
  | .remove verifier fUndoingReissue =>
    ∀ held, state.cache.setNewRestrictedVerifier.toRemove[name]? = some held →
      (remove held.verifier held.fUndoingRessiue).answer = (remove verifier fUndoingReissue).answer

end VerifierChange

/-- A flush, a dump or a change of the verifier of another asset. -/
def StoreStep.SparesVerifier (name : Bytes) : StoreStep → Prop
  | .cache (.flush _) | .dump => True
  | .cache (.op (.addRestrictedVerifier other _)) => other ≠ name
  | .cache (.op (.removeRestrictedVerifier other _ _)) => other ≠ name
  | _ => False

/-- What two layers and the store hold for one asset, when the answer is `answer` and stays
it: no removal below hides another verifier, and no issue is dropped that would take the
stored verifier with it. -/
structure Settled (answer stored : Option Bytes)
    (removal addition removalBelow additionBelow : Option CAssetCacheRestrictedVerifiers)
    (dropped droppedBelow : Option CAssetCacheNewAsset) : Prop where
  answers : verifierFor stored (removal.map .removal <|> removalBelow.map .removal
    <|> addition.map .addition <|> additionBelow.map .addition) = answer
  revealed : removal = none → ∀ entry held, addition = some entry → removalBelow = some held →
    held.fUndoingRessiue = true ∧ held.verifier = entry.verifier
  own : removal = none → addition = none → dropped = none
  below : removal = none → addition = none → removalBelow = none → additionBelow = none → droppedBelow = none

section Settled

variable {answer stored : Option Bytes}
  {removal addition removalBelow additionBelow : Option CAssetCacheRestrictedVerifiers}
  {dropped droppedBelow droppedAfter : Option CAssetCacheNewAsset}
  (settled : Settled answer stored removal addition removalBelow additionBelow dropped droppedBelow)

theorem Settled.of_addition {entry : CAssetCacheRestrictedVerifiers} {verifier : Bytes}
    (same : entry.verifier = verifier)
    (hidden : ∀ held, removalBelow = some held → held.fUndoingRessiue = true ∧ held.verifier = verifier) :
    Settled (some verifier) stored none (some entry) removalBelow additionBelow dropped droppedBelow := by
  cases removalBelow <;> constructor <;> simp_all [verifierFor]

theorem Settled.of_removal (entry : CAssetCacheRestrictedVerifiers) :
    Settled (verifierFor none (some (.removal entry))) stored (some entry) addition removalBelow
      additionBelow dropped droppedBelow := by
  constructor <;> simp [verifierFor]

include settled

theorem Settled.flush (drops : dropped = none → droppedBelow = none → droppedAfter = none) (renew : Bool) :
    Settled answer stored (if renew then none else removal) (if renew then none else addition)
      (ChangeSet.passOn true (if addition.isSome then none else removalBelow) removal)
      (if removal.isSome then none else ChangeSet.passOn true additionBelow addition)
      (if renew then none else dropped) droppedAfter := by
  obtain ⟨answers, revealed, own, below⟩ := settled
  cases removal with
  | some entry => cases renew <;> constructor <;> simp_all [ChangeSet.passOn]
  | none =>
    cases addition with
    | some entry =>
      cases removalBelow <;> cases renew <;> constructor <;> simp_all [ChangeSet.passOn, verifierFor]
    | none => cases renew <;> constructor <;> simp_all [ChangeSet.passOn]

theorem Settled.dump {after : Option Bytes}
    (written : ∀ change, (removalBelow.map .removal <|> additionBelow.map .addition) = some change →
      after = verifierFor none (some change))
    (kept : removalBelow = none → additionBelow = none → droppedBelow = none → after = stored) :
    Settled answer after removal addition none none dropped none := by
  obtain ⟨answers, revealed, own, below⟩ := settled
  cases removal with
  | some entry => constructor <;> simp_all [verifierFor]
  | none =>
    cases addition with
    | some entry => cases removalBelow <;> constructor <;> simp_all [verifierFor]
    | none => cases removalBelow <;> cases additionBelow <;> constructor <;> simp_all [verifierFor]

end Settled

namespace CacheState

def verifier (state : CacheState) (name : Bytes) : Option Bytes :=
  state.cache.getAssetVerifierStringIfExists state.globals false name

structure Answers (name : Bytes) (answer : Option Bytes) (state : CacheState) : Prop where
  sound : state.AssetsSound Set.univ
  settled : Assets.Settled answer (state.globals.storedVerifier name)
    state.cache.setNewRestrictedVerifier.toRemove[name]? state.cache.setNewRestrictedVerifier.toAdd[name]?
    state.globals.passets.setNewRestrictedVerifier.toRemove[name]?
    state.globals.passets.setNewRestrictedVerifier.toAdd[name]?
    state.cache.setNewAssets.toRemove[name]? state.globals.passets.setNewAssets.toRemove[name]?

variable {state : CacheState} {name : Bytes} {answer : Option Bytes}

theorem Answers.storeStep (holds : state.Answers name answer) {step : StoreStep}
    (spares : step.SparesVerifier name) : (state.storeStep step).Answers name answer := by
  obtain ⟨sound, settled⟩ := holds
  refine ⟨sound.storeStep (storeStep_within_univ step), ?_⟩
  match step, spares with
  | .cache (.flush renew), _ =>
    have flushed := ChangeSet.getElem?_flush true state.cache.setNewRestrictedVerifier
      state.globals.passets.setNewRestrictedVerifier name
    have drops : state.cache.setNewAssets.toRemove[name]? = none →
        state.globals.passets.setNewAssets.toRemove[name]? = none →
        (state.cache.setNewAssets.flush false state.globals.passets.setNewAssets).toRemove[name]? = none := by
      intro notAbove notBelow
      rw [(ChangeSet.getElem?_flush false _ _ name).2, notAbove, notBelow, ite_self]
      rfl
    have after := settled.flush drops renew
    rw [← flushed.1, ← flushed.2] at after
    cases renew <;> exact after
  | .dump, _ =>
    have row := CAssetsCache.verifier_dumpStore state.globals.env state.globals.fAssetIndex
      state.globals.toAssetStore sound.passets name
    have cached := CAssetsCache.verifierCache_dumpStore state.globals.env state.globals.fAssetIndex
      state.globals.toAssetStore sound.passets name
    rw [ChangeSet.pending_self] at row cached
    have stored : (state.storeStep .dump).globals.storedVerifier name = _ := congrArg₂ (· <|> ·) cached row
    have after : Assets.Settled _ ((state.storeStep .dump).globals.storedVerifier name) _ _ _ _ _ _ :=
      settled.dump
        (fun change pending => by
          rw [stored, pending]
          cases change <;> rfl)
        (fun notRemoved notAdded notDropped => by
          rw [stored, notRemoved, notAdded, notDropped]
          rfl)
    exact after
  | .cache (.op (.addRestrictedVerifier other verifier)), differs =>
    simpa [CacheState.storeStep, CacheState.step, CacheOp.apply, CAssetsCache.addRestrictedVerifier, ChangeSet.add,
      ChangeSet.getElem?_record, getElem?_erase_eq, Ne.symm differs] using settled
  | .cache (.op (.removeRestrictedVerifier other verifier undoing)), differs =>
    simpa [CacheState.storeStep, CacheState.step, CacheOp.apply, CAssetsCache.removeRestrictedVerifier, ChangeSet.remove,
      ChangeSet.getElem?_record, getElem?_erase_eq, Ne.symm differs] using settled

theorem Answers.verifier (holds : state.Answers name answer) : state.verifier name = answer :=
  holds.settled.answers

end CacheState

/-! ## The last change -/

section Change

variable {state : CacheState} {name verifier : Bytes} {undoing : Bool} {change : VerifierChange}

theorem storeStep_add :
    let next := state.storeStep (.cache (.op (.addRestrictedVerifier name verifier)))
    next.cache.setNewRestrictedVerifier.toRemove[name]? = none
      ∧ next.cache.setNewRestrictedVerifier.toAdd[name]?
        = some (state.cache.setNewRestrictedVerifier.toAdd[name]?.getD ⟨name, verifier, false⟩) :=
  ⟨Std.TreeMap.getElem?_erase_self, (ChangeSet.getElem?_record false _ name name _).trans (if_pos rfl)⟩

theorem storeStep_remove :
    (state.storeStep (.cache (.op (.removeRestrictedVerifier name verifier undoing)))
      ).cache.setNewRestrictedVerifier.toRemove[name]?
        = some (state.cache.setNewRestrictedVerifier.toRemove[name]?.getD ⟨name, verifier, undoing⟩) :=
  (ChangeSet.getElem?_record false _ name name _).trans (if_pos rfl)

theorem VerifierChange.TakesEffect.answers (sound : state.AssetsSound Set.univ)
    (effective : change.TakesEffect state name) :
    (state.storeStep (.cache (.op (change.op name)))).Answers name change.answer := by
  refine ⟨sound.storeStep (CacheState.storeStep_within_univ _), ?_⟩
  cases change with
  | add verifier =>
    have same : (state.cache.setNewRestrictedVerifier.toAdd[name]?.getD ⟨name, verifier, false⟩).verifier
        = verifier := by
      cases held : state.cache.setNewRestrictedVerifier.toAdd[name]? with
      | none => rfl
      | some entry => exact effective.1 entry held
    rw [op, storeStep_add.1, storeStep_add.2]
    exact Settled.of_addition same effective.2
  | remove verifier undoing =>
    rw [op, storeStep_remove]
    cases held : state.cache.setNewRestrictedVerifier.toRemove[name]? with
    | none => exact Settled.of_removal ⟨name, verifier, undoing⟩
    | some entry =>
      rw [← effective entry held]
      exact Settled.of_removal entry

theorem VerifierChange.takesEffect_of_answers
    (now : (state.storeStep (.cache (.op (change.op name)))).verifier name = change.answer)
    (flushed : ((state.storeStep (.cache (.op (change.op name)))).storeStep (.cache (.flush true))).verifier name
      = change.answer) : change.TakesEffect state name := by
  cases change with
  | add verifier =>
    obtain ⟨removed, added⟩ := @storeStep_add state name verifier
    obtain ⟨above, below⟩ := ChangeSet.pending_flush_addition true
      state.globals.passets.setNewRestrictedVerifier removed added
    have now := (congrArg (verifierFor _) above).symm.trans now
    rw [ChangeSet.pending_self] at below
    have flushed := (congrArg (verifierFor _) below).symm.trans flushed
    constructor
    · intro held isHeld
      rw [isHeld] at flushed
      exact Option.some.inj flushed
    · intro held isHeld
      rw [isHeld] at now
      simpa [verifierFor, answer] using now
  | remove verifier undoing =>
    intro held isHeld
    have removed := @storeStep_remove state name verifier undoing
    rw [isHeld] at removed
    have pending := (ChangeSet.pending_flush_removal true
      state.globals.passets.setNewRestrictedVerifier removed).1
    exact (congrArg (verifierFor _) pending).symm.trans now

end Change

/-- The answer for a name is that of the last change of its verifier, after any flushes, dumps
and changes of other verifiers. -/
theorem verifier_last_iff (env : AssetEnv) (fAssetIndex : Bool) (steps : List StoreStep) (name : Bytes)
    (change : VerifierChange) :
    (∀ later : List StoreStep, (∀ step ∈ later, step.SparesVerifier name) →
        (((CacheState.start env fAssetIndex).storeRun steps).storeRun
          (.cache (.op (change.op name)) :: later)).verifier name = change.answer)
      ↔ change.TakesEffect ((CacheState.start env fAssetIndex).storeRun steps) name := by
  have sound := CacheState.assetsSound_storeRun env fAssetIndex steps
  constructor
  · intro always
    exact VerifierChange.takesEffect_of_answers (always [] (List.forall_mem_nil _))
      (always [.cache (.flush true)] (by simp [StoreStep.SparesVerifier]))
  · intro effective later spares
    apply CacheState.Answers.verifier
    exact foldl_invariant (CacheState.Answers name change.answer)
      (fun step member _ holds => holds.storeStep (spares step member)) (effective.answers sound)

/-- The second of two verifiers for a name that no flush has parted is ignored. -/
theorem second_verifier_ignored :
    let gold := ascii "$GOLD"
    ((CacheState.start untabulatedEnv false).storeRun
      [.cache (.op (.addRestrictedVerifier gold (ascii "KYC"))),
        .cache (.op (.addRestrictedVerifier gold (ascii "TAG")))]).verifier gold
      = some (ascii "KYC") := by
  decide

end BlackRaven.Assets
