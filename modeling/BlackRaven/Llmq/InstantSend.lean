import BlackRaven.Primitives.Transaction
import Mathlib.Data.List.Nodup

/-!
Contract: `ProcessPendingInstantSendLocks` of `quorums_instantsend.cpp`, with the batch verifier
it collects signatures in.

Owns: which pending locks reach `ProcessInstantSendLock`, and when each of them has a signature
that verifies.

Does not own: BLS, the choice of a quorum, the scores of peers, and the recovered signatures
made from locks.
-/

namespace BlackRaven.Llmq

open Primitives

structure CInstantSendLock (Sig : Type) where
  inputs : List COutPoint
  txid : Uint256
  sig : Sig

/-- An entry of `pendingInstantSendLocks`. -/
structure PendingLock (Sig : Type) where
  hash : Uint256
  nodeId : Int
  islock : CInstantSendLock Sig

structure SigningEnv (Sig Key : Type) where
  sigIsValid : Sig → Bool
  getRequestId : List COutPoint → Uint256
  getActiveQuorumSet : Int → List Uint256
  /-- The hash of the quorum and its public key. -/
  selectQuorumForSigning : Int → Uint256 → Option (Uint256 × Key)
  buildSignHash : Uint256 → Uint256 → Uint256 → Uint256
  verifyInsecure : Key → Uint256 → Sig → Bool

structure Pass (Sig Key : Type) extends SigningEnv Sig Key where
  /-- `HasRecoveredSig` at the time of the pass, by id and message hash. -/
  hasRecoveredSig : Uint256 → Uint256 → Bool
  signHeight : Int

/-! ## The batch verifier -/

structure Message (Sig Key : Type) where
  sourceId : Int
  msgId : Uint256
  msgHash : Uint256
  sig : Sig
  pubKey : Key

structure BatchVerifier (Sig Key : Type) where
  messages : List (Message Sig Key)
  badSources : List Int
  badMessages : List Uint256

variable {Sig Key : Type}

/-- The messages that do not verify, with their sources. -/
def BatchVerifier.failures (verifies : Key → Uint256 → Sig → Bool) (b : BatchVerifier Sig Key) : List (Int × Uint256) :=
  (b.messages.filter fun m => !verifies m.pubKey m.msgHash m.sig).map fun m =>
    (m.sourceId, m.msgId)

/-- `Verify` falls back to single sources and then to single messages. -/
def BatchVerifier.verify (verifies : Key → Uint256 → Sig → Bool) (b : BatchVerifier Sig Key) : BatchVerifier Sig Key :=
  { b with
    badSources := (b.failures verifies).map Prod.fst ++ b.badSources
    badMessages := (b.failures verifies).map Prod.snd ++ b.badMessages }

def subBatchSize : Nat := 8

def BatchVerifier.pushMessage (verifies : Key → Uint256 → Sig → Bool) (b : BatchVerifier Sig Key)
    (message : Message Sig Key) : BatchVerifier Sig Key :=
  let pushed := { b with messages := message :: b.messages }
  if pushed.messages.length ≥ subBatchSize then { pushed.verify verifies with messages := [] } else pushed

/-! ## The pending locks -/

variable (pass : Pass Sig Key)

def Pass.id (p : PendingLock Sig) : Uint256 := pass.getRequestId p.islock.inputs

/-- One round of the first loop; `none` is the return without a result. -/
def Pass.collectLock (b : BatchVerifier Sig Key) (p : PendingLock Sig) : Option (BatchVerifier Sig Key) :=
  if p.nodeId ∈ b.badSources then some b
  else if !pass.sigIsValid p.islock.sig then some { b with badSources := p.nodeId :: b.badSources }
  else if pass.hasRecoveredSig (pass.id p) p.islock.txid then some b
  else match pass.selectQuorumForSigning pass.signHeight (pass.id p) with
    | none => none
    | some (quorumHash, pubKey) => some (b.pushMessage pass.verifyInsecure
        { sourceId := p.nodeId
          msgId := p.hash
          msgHash := pass.buildSignHash quorumHash (pass.id p) p.islock.txid
          sig := p.islock.sig
          pubKey := pubKey })

/-- The locks handed to `ProcessInstantSendLock` at a height, and `badISLocks`. -/
def Pass.processPending (pend : List (PendingLock Sig)) : List (PendingLock Sig) × List (PendingLock Sig) :=
  match pend.foldlM (pass.collectLock) ⟨[], [], []⟩ with
  | none => ([], [])
  | some b =>
    let badMessages := (b.verify pass.verifyInsecure).badMessages
    (pend.filter (·.hash ∉ badMessages), pend.filter (·.hash ∈ badMessages))

/-- The locks handed over, each with the pass it was tried in. -/
def processPendingInstantSendLocks (env : SigningEnv Sig Key)
    (hasRecoveredSig₁ hasRecoveredSig₂ : Uint256 → Uint256 → Bool) (isInstantSendEnabled : Bool)
    (tipHeight : Int) (pend : List (PendingLock Sig)) : List (Pass Sig Key × PendingLock Sig) :=
  if !isInstantSendEnabled then []
  else
    let first : Pass Sig Key := ⟨env, hasRecoveredSig₁, tipHeight⟩
    let second : Pass Sig Key := ⟨env, hasRecoveredSig₂, tipHeight - 1⟩
    let (handed, badISLocks) := first.processPending pend
    if env.getActiveQuorumSet tipHeight ≠ env.getActiveQuorumSet (tipHeight - 1) then
      handed.map (first, ·) ++ (second.processPending badISLocks).1.map (second, ·)
    else handed.map (first, ·)

/-! ## Which locks are checked -/

/-- The signature verifies under the key of the quorum selected at the height. -/
def Pass.verifies (p : PendingLock Sig) : Bool :=
  (pass.selectQuorumForSigning pass.signHeight (pass.id p)).any fun quorum =>
    pass.verifyInsecure quorum.2 (pass.buildSignHash quorum.1 (pass.id p) p.islock.txid) p.islock.sig

namespace Pass

/-- The locks that are checked, the latest first. A lock is checked when its signature is a valid
point, its recovered signature is not known, no earlier lock of the peer has an invalid point, and
no lock of the peer has failed in the full batches checked so far. -/
def checked : List (PendingLock Sig) → List (PendingLock Sig)
  | [] => []
  | p :: earlier =>
    let sofar := checked earlier
    let settled := sofar.drop (sofar.length % subBatchSize)
    if pass.sigIsValid p.islock.sig ∧ ¬ pass.hasRecoveredSig (pass.id p) p.islock.txid
        ∧ (∀ q ∈ earlier, q.nodeId = p.nodeId → pass.sigIsValid q.islock.sig)
        ∧ ∀ q ∈ settled, q.nodeId = p.nodeId → pass.verifies q then p :: sofar
    else sofar

/-- A quorum is found for every lock that is checked. -/
def Selectable (pend : List (PendingLock Sig)) : Prop :=
  ∀ p ∈ pass.checked pend.reverse, (pass.selectQuorumForSigning pass.signHeight (pass.id p)).isSome

def failures (locks : List (PendingLock Sig)) : List (Int × Uint256) :=
  (locks.filter fun p => !pass.verifies p).map fun p => (p.nodeId, p.hash)

/-- The verifier after the locks `earlier`, the latest first. -/
structure Matches (b : BatchVerifier Sig Key) (earlier sofar : List (PendingLock Sig)) : Prop where
  length : b.messages.length = sofar.length % subBatchSize
  current : b.failures pass.verifyInsecure = pass.failures (sofar.take (sofar.length % subBatchSize))
  messages : b.badMessages = (pass.failures (sofar.drop (sofar.length % subBatchSize))).map Prod.snd
  sources : ∀ nodeId, nodeId ∈ b.badSources ↔
    (∃ q ∈ earlier, q.nodeId = nodeId ∧ ¬ pass.sigIsValid q.islock.sig) ∨
      ∃ q ∈ sofar.drop (sofar.length % subBatchSize), q.nodeId = nodeId ∧ ¬ pass.verifies q

variable {pass} {b : BatchVerifier Sig Key} {p : PendingLock Sig}
  {earlier sofar : List (PendingLock Sig)}

theorem mem_failures_fst {locks : List (PendingLock Sig)} {nodeId : Int} :
    nodeId ∈ (pass.failures locks).map Prod.fst ↔ ∃ q ∈ locks, q.nodeId = nodeId ∧ ¬ pass.verifies q := by
  simp [failures, and_left_comm, and_comm]

/-- A lock that is not pushed changes the bad sources at most. -/
theorem Matches.skip (matched : pass.Matches b earlier sofar)
    (noted : pass.sigIsValid p.islock.sig ∨ p.nodeId ∈ b.badSources) :
    pass.Matches b (p :: earlier) sofar := by
  refine ⟨matched.length, matched.current, matched.messages, fun nodeId => ?_⟩
  rw [matched.sources, List.exists_mem_cons_iff]
  constructor
  · rintro (invalid | failed)
    · exact .inl (.inr invalid)
    · exact .inr failed
  · rintro ((⟨rfl, invalid⟩ | invalid) | failed)
    · exact (matched.sources _).mp (noted.resolve_left invalid)
    · exact .inl invalid
    · exact .inr failed

theorem Matches.refuse (matched : pass.Matches b earlier sofar) (invalid : ¬ pass.sigIsValid p.islock.sig) :
    pass.Matches { b with badSources := p.nodeId :: b.badSources } (p :: earlier) sofar := by
  refine ⟨matched.length, matched.current, matched.messages, fun nodeId => ?_⟩
  rw [List.mem_cons, matched.sources, List.exists_mem_cons_iff, or_assoc, and_iff_left invalid, eq_comm]

theorem Matches.push (matched : pass.Matches b earlier sofar) {message : Message Sig Key}
    (valid : pass.sigIsValid p.islock.sig) (isSource : message.sourceId = p.nodeId)
    (isHash : message.msgId = p.hash)
    (verifies : pass.verifyInsecure message.pubKey message.msgHash message.sig = pass.verifies p) :
    pass.Matches (b.pushMessage pass.verifyInsecure message) (p :: earlier) (p :: sofar) := by
  have pushed : BatchVerifier.failures pass.verifyInsecure { b with messages := message :: b.messages }
      = pass.failures (p :: sofar.take (sofar.length % subBatchSize)) := by
    have current := matched.current
    simp only [BatchVerifier.failures, failures, List.filter_cons, verifies] at current ⊢
    split
    · rw [List.map_cons, List.map_cons, current, isSource, isHash]
    · exact current
  have untouched : ∀ nodeId, (∃ q ∈ p :: earlier, q.nodeId = nodeId ∧ ¬ pass.sigIsValid q.islock.sig)
      ↔ ∃ q ∈ earlier, q.nodeId = nodeId ∧ ¬ pass.sigIsValid q.islock.sig := by
    simp [valid]
  have length := matched.length
  have small : sofar.length % subBatchSize < 8 := Nat.mod_lt _ (by decide)
  unfold BatchVerifier.pushMessage
  dsimp only
  rw [List.length_cons, length]
  by_cases full : sofar.length % subBatchSize + 1 ≥ subBatchSize
  · -- the batch is full: all that was checked is settled
    have settled : (p :: sofar).length % subBatchSize = 0 := by
      simp only [subBatchSize, List.length_cons] at full small ⊢
      omega
    have all : pass.failures (p :: sofar)
        = pass.failures (p :: sofar.take (sofar.length % subBatchSize))
          ++ pass.failures (sofar.drop (sofar.length % subBatchSize)) := by
      unfold failures
      rw [← List.map_append, ← List.filter_append, List.cons_append, List.take_append_drop]
    rw [if_pos full]
    refine ⟨settled.symm, by rw [settled]; rfl, ?_, fun nodeId => ?_⟩
    · rw [settled, List.drop_zero, all, List.map_append, ← pushed, ← matched.messages]
      rfl
    · rw [settled, List.drop_zero, ← mem_failures_fst, all, List.map_append, List.mem_append, ← pushed,
        mem_failures_fst, untouched]
      exact List.mem_append.trans ((or_congr_right (matched.sources nodeId)).trans or_left_comm)
  · have open_ : (p :: sofar).length % subBatchSize = sofar.length % subBatchSize + 1 := by
      simp only [subBatchSize, List.length_cons] at full small ⊢
      omega
    rw [if_neg full]
    refine ⟨?_, ?_, ?_, fun nodeId => ?_⟩
    · rw [open_, List.length_cons, length]
    · rw [open_, List.take_succ_cons, pushed]
    · rw [open_, List.drop_succ_cons, matched.messages]
    · rw [open_, List.drop_succ_cons, matched.sources, untouched]

theorem collectLock_spec (matched : pass.Matches b earlier (pass.checked earlier)) :
    match pass.collectLock b p with
    | none => ∃ q ∈ pass.checked (p :: earlier),
        (pass.selectQuorumForSigning pass.signHeight (pass.id q)).isSome = false
    | some next => pass.Matches next (p :: earlier) (pass.checked (p :: earlier))
        ∧ ∀ q ∈ pass.checked (p :: earlier), q ∈ pass.checked earlier ∨
          (pass.selectQuorumForSigning pass.signHeight (pass.id q)).isSome := by
  have sources := matched.sources p.nodeId
  unfold collectLock
  by_cases bad : p.nodeId ∈ b.badSources
  · have skipped : pass.checked (p :: earlier) = pass.checked earlier := by
      refine if_neg ?_
      rintro ⟨-, -, points, passed⟩
      obtain ⟨q, member, same, invalid⟩ | ⟨q, member, same, failed⟩ := sources.mp bad
      · exact invalid (points q member same)
      · exact failed (passed q member same)
    rw [if_pos bad, skipped]
    exact ⟨matched.skip (.inr bad), fun _ => .inl⟩
  · rw [if_neg bad]
    cases valid : pass.sigIsValid p.islock.sig with
    | false =>
      have skipped : pass.checked (p :: earlier) = pass.checked earlier :=
        if_neg fun passes => Bool.false_ne_true (valid.symm.trans passes.1)
      rw [skipped]
      exact ⟨matched.refuse (by simp [valid]), fun _ => .inl⟩
    | true =>
      cases isKnown : pass.hasRecoveredSig (pass.id p) p.islock.txid with
      | true =>
        have skipped : pass.checked (p :: earlier)
            = pass.checked earlier := if_neg fun passes => passes.2.1 isKnown
        rw [skipped]
        exact ⟨matched.skip (.inl valid), fun _ => .inl⟩
      | false =>
        have pushed : pass.checked (p :: earlier)
            = p :: pass.checked earlier := by
          refine if_pos ⟨valid, by simp [isKnown], fun q member same => ?_, fun q member same => ?_⟩
          · by_contra invalid
            exact bad (sources.mpr (.inl ⟨q, member, same, invalid⟩))
          · by_contra failed
            exact bad (sources.mpr (.inr ⟨q, member, same, failed⟩))
        rw [pushed]
        cases selected : pass.selectQuorumForSigning pass.signHeight (pass.id p) with
        | none => exact ⟨p, List.mem_cons_self, by rw [selected]; rfl⟩
        | some quorum =>
          refine ⟨matched.push valid rfl rfl (by rw [verifies, selected]; rfl), ?_⟩
          intro q member
          obtain rfl | before := List.mem_cons.mp member
          · exact .inr (by rw [selected]; rfl)
          · exact .inl before

/-- The first loop, over the locks in the order of the map. -/
theorem collect_spec (earlier : List (PendingLock Sig)) :
    match earlier.reverse.foldlM (pass.collectLock) ⟨[], [], []⟩ with
    | none => ¬ pass.Selectable earlier.reverse
    | some b => pass.Selectable earlier.reverse
        ∧ pass.Matches b earlier (pass.checked earlier) := by
  unfold Selectable
  induction earlier with
  | nil => exact ⟨nofun, rfl, rfl, rfl, by simp [checked]⟩
  | cons p earlier ih =>
    rw [List.reverse_cons, List.foldlM_append]
    rw [List.reverse_reverse] at ih
    rw [← List.reverse_cons, List.reverse_reverse]
    have kept : ∀ q ∈ pass.checked earlier, q ∈ pass.checked (p :: earlier) := by
      intro q member
      rw [checked]
      split
      · exact List.mem_cons_of_mem _ member
      · exact member
    cases collected : earlier.reverse.foldlM (pass.collectLock) ⟨[], [], []⟩ with
    | none =>
      rw [collected] at ih
      exact fun selectable => ih fun q member => selectable q (kept q member)
    | some b =>
      rw [collected] at ih
      obtain ⟨selectable, matched⟩ := ih
      have round := @collectLock_spec _ _ pass b p earlier matched
      simp only [Option.bind_eq_bind, Option.bind_some, List.foldlM_cons, List.foldlM_nil, bind_pure]
      cases next : pass.collectLock b p with
      | none =>
        rw [next] at round
        obtain ⟨q, member, missing⟩ := round
        exact fun selectable => absurd (missing.symm.trans (selectable q member)) nofun
      | some next =>
        rw [next] at round
        refine ⟨fun q member => ?_, round.1⟩
        exact (round.2 q member).elim (selectable q) fun found => found

theorem checked_subset : ∀ {earlier : List (PendingLock Sig)}, pass.checked earlier ⊆ earlier
  | [] => fun _ member => member
  | p :: earlier => by
      rw [checked]
      split
      · exact List.cons_subset_cons p checked_subset
      · exact List.Subset.trans checked_subset (List.subset_cons_self p earlier)

/-- The hashes of the locks that are checked and do not verify. -/
def refusedHashes (pass : Pass Sig Key) (pend : List (PendingLock Sig)) : List Uint256 :=
  (pass.failures (pass.checked pend.reverse)).map Prod.snd

variable {pend : List (PendingLock Sig)}

theorem processPending_eq (selectable : pass.Selectable pend) :
    pass.processPending pend
      = (pend.filter (·.hash ∉ pass.refusedHashes pend), pend.filter (·.hash ∈ pass.refusedHashes pend)) := by
  have loop := @collect_spec _ _ pass pend.reverse
  rw [List.reverse_reverse] at loop
  unfold processPending
  split at loop
  · exact absurd selectable loop
  · next b collected =>
      have all : (b.verify pass.verifyInsecure).badMessages = pass.refusedHashes pend := by
        rw [BatchVerifier.verify, loop.2.current, loop.2.messages, refusedHashes, ← List.map_append,
          failures, failures, ← List.map_append, ← List.filter_append, List.take_append_drop, failures]
      rw [← all]

theorem processPending_none (unselectable : ¬ pass.Selectable pend) : pass.processPending pend = ([], []) := by
  have loop := @collect_spec _ _ pass pend.reverse
  rw [List.reverse_reverse] at loop
  unfold processPending
  split at loop
  · rfl
  · exact absurd loop.1 unselectable

/-- The locks that are not checked verify all the same, or none is handed over at all. -/
def Covered (pass : Pass Sig Key) (pend : List (PendingLock Sig)) : Prop :=
  pass.Selectable pend → ∀ p ∈ pend, p ∉ pass.checked pend.reverse → pass.verifies p

theorem handed_verified_iff (distinct : (pend.map PendingLock.hash).Nodup) :
    (∀ p ∈ (pass.processPending pend).1, pass.verifies p) ↔ pass.Covered pend := by
  by_cases selectable : pass.Selectable pend
  · have refused : ∀ p ∈ pend, p.hash ∈ pass.refusedHashes pend ↔
        p ∈ pass.checked pend.reverse ∧ ¬ pass.verifies p := by
      intro p member
      simp only [refusedHashes, failures, List.map_map, List.mem_map, List.mem_filter, Bool.not_eq_true',
        Bool.not_eq_true]
      constructor
      · rintro ⟨q, found, sameHash⟩
        rwa [← List.inj_on_of_nodup_map distinct (List.mem_reverse.mp (checked_subset found.1)) member sameHash]
      · exact fun found => ⟨p, found, rfl⟩
    rw [processPending_eq selectable, Covered]
    simp only [List.mem_filter, decide_not, Bool.not_eq_true', decide_eq_false_iff_not, forall_const,
      selectable, and_imp]
    refine forall₂_congr fun p member => ?_
    rw [refused p member]
    by_cases verifies : pass.verifies p <;> simp [verifies]
  · rw [processPending_none selectable]
    exact ⟨fun _ found => absurd found selectable, fun _ => nofun⟩

end Pass

/-! ## Both passes -/

/-- A map from hashes to locks, in the order it is gone through. -/
structure PendingLocks (Sig : Type) where
  locks : List (PendingLock Sig)
  distinct : (locks.map PendingLock.hash).Nodup

/-- All locks handed over verify in the pass they were tried in, exactly when the locks that are
not checked do. A second pass, at the height before, is over the locks refused in the first. -/
theorem handed_locks_verified_iff (env : SigningEnv Sig Key)
    (hasRecoveredSig₁ hasRecoveredSig₂ : Uint256 → Uint256 → Bool) (isInstantSendEnabled : Bool)
    (tipHeight : Int) (pend : PendingLocks Sig) :
    let first : Pass Sig Key := ⟨env, hasRecoveredSig₁, tipHeight⟩
    (∀ entry ∈ processPendingInstantSendLocks env hasRecoveredSig₁ hasRecoveredSig₂ isInstantSendEnabled
        tipHeight pend.locks, entry.1.verifies entry.2) ↔
      (isInstantSendEnabled → first.Covered pend.locks ∧
        (env.getActiveQuorumSet tipHeight ≠ env.getActiveQuorumSet (tipHeight - 1) →
          first.Selectable pend.locks →
          Pass.Covered ⟨env, hasRecoveredSig₂, tipHeight - 1⟩
            (pend.locks.filter (·.hash ∈ first.refusedHashes pend.locks)))) := by
  intro first
  have handed := @Pass.handed_verified_iff _ _ first _ pend.distinct
  unfold processPendingInstantSendLocks
  cases isInstantSendEnabled with
  | false => simp
  | true =>
    simp only [Bool.not_true, Bool.false_eq_true, if_false, forall_const]
    by_cases rotated : env.getActiveQuorumSet tipHeight ≠ env.getActiveQuorumSet (tipHeight - 1)
    · simp only [rotated, ne_eq, not_false_eq_true, if_true, List.forall_mem_append, List.forall_mem_map,
        forall_const]
      refine and_congr handed ?_
      by_cases selectable : first.Selectable pend.locks
      · have distinct : ((pend.locks.filter (·.hash ∈ first.refusedHashes pend.locks)).map
            PendingLock.hash).Nodup := pend.distinct.sublist (List.filter_sublist.map _)
        rw [Pass.processPending_eq selectable, Pass.handed_verified_iff distinct]
        simp only [selectable, forall_const]
      · rw [Pass.processPending_none selectable]
        exact ⟨fun _ found => absurd found selectable, fun _ => nofun⟩
    · simp only [rotated, if_false, List.forall_mem_map, false_implies, and_true]
      exact handed

section Unchecked

/-- Signatures are numbers: 0 is no point, and 1 is the only one that verifies. -/
def numberedSigs : SigningEnv Nat Unit where
  sigIsValid sig := sig != 0
  getRequestId inputs := BitVec.ofNat 256 inputs.length
  getActiveQuorumSet _ := [1]
  selectQuorumForSigning _ _ := some (1, ())
  buildSignHash _ _ msgHash := msgHash
  verifyInsecure _ _ sig := sig == 1

def unsignedLock : PendingLock Nat := ⟨7, 3, ⟨[⟨5, 0⟩], 9, 0⟩⟩

theorem unsigned_lock_handed :
    (processPendingInstantSendLocks numberedSigs (fun _ _ => false) (fun _ _ => false) true 100
        [unsignedLock]).map (fun entry => (entry.1.verifies entry.2, entry.2.hash)) = [(false, 7)] := rfl

end Unchecked

end BlackRaven.Llmq
