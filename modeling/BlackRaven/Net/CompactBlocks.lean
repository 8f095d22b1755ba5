import BlackRaven.Chain.FounderFee
import BlackRaven.Lib.Since
import BlackRaven.Net.InitData

/-!
Contract: the handlers of `cmpctblock`, `blocktxn` and `block` in `net_processing.cpp`, over
any sequence of messages.

Owns: the blocks in flight with their partial blocks, the ring of extra transactions, which
messages leave an emptied partial block in flight, and the runs that pass every assertion of
`PartiallyDownloadedBlock`.

Does not own: the acceptance of headers and blocks, the choice of what to request, and the
penalties of peers. What they come to at a message is part of the message's circumstances.
-/

namespace BlackRaven.Net

open Chain Consensus Lib Primitives

/-! ## The ring -/

/-- `vExtraTxnForCompact` and `vExtraTxnForCompactIt` under `-blockreconstructionextratxn`. -/
structure ExtraRing (max_extra_txn : Nat) where
  entries : List (Uint256 × CTransactionRef)
  it : Nat
  fits : entries = [] ∧ it = 0 ∨ entries.length = max_extra_txn ∧ it < max_extra_txn

def ExtraRing.start (max_extra_txn : Nat) : ExtraRing max_extra_txn := ⟨[], 0, .inl ⟨rfl, rfl⟩⟩

variable {max_extra_txn : Nat} (ring : ExtraRing max_extra_txn)

/-- `vExtraTxnForCompact.resize(max_extra_txn)` when it is empty. The new entries hold no
transaction. -/
def ExtraRing.resized : List (Uint256 × CTransactionRef) :=
  if ring.entries.isEmpty then List.replicate max_extra_txn (0, none) else ring.entries

theorem ExtraRing.resized_length : ring.resized.length = max_extra_txn := by
  unfold resized
  rcases ring.fits with ⟨isEmpty, -⟩ | ⟨length, -⟩
  · rw [isEmpty]
    exact List.length_replicate
  · split
    · exact List.length_replicate
    · exact length

def addToCompactExtraTransactions (env : ShortIDs) {max_extra_txn : Nat} (ring : ExtraRing max_extra_txn)
    (tx : CTransaction) : ExtraRing max_extra_txn :=
  if positive : 0 < max_extra_txn then
    { entries := ring.resized.set ring.it (env.getWitnessHash tx, some tx)
      it := (ring.it + 1) % max_extra_txn
      fits := .inr ⟨List.length_set.trans ring.resized_length, Nat.mod_lt _ positive⟩ }
  else ring

/-! ## Blocks in flight -/

abbrev NodeId := Int

/-- An entry of `mapBlocksInFlight` with its `QueuedBlock`. -/
structure QueuedBlock where
  nodeid : NodeId
  partialBlock : Option PartiallyDownloadedBlock

structure DownloadState (max_extra_txn : Nat) where
  mapBlocksInFlight : Uint256 → Option QueuedBlock
  extra : ExtraRing max_extra_txn

def DownloadState.start (max_extra_txn : Nat) : DownloadState max_extra_txn := ⟨fun _ => none, .start _⟩

section Handlers

variable {max_extra_txn : Nat}

variable (env : NetEnv) (around : Circumstances) (state : DownloadState max_extra_txn)
  (peer nodeid : NodeId) (hash : Uint256) (entry : QueuedBlock) (cmpctblock : CBlockHeaderAndShortTxIDs)

def markBlockAsReceived : DownloadState max_extra_txn :=
  { state with mapBlocksInFlight := Function.update state.mapBlocksInFlight hash none }

/-- The entry of a block with its partial block as it is now. -/
def queue :
    DownloadState max_extra_txn :=
  { state with mapBlocksInFlight := Function.update state.mapBlocksInFlight hash (some entry) }

@[simp] theorem queue_self : (queue state hash entry).mapBlocksInFlight hash = some entry := by
  simp [queue]

/-- `MarkBlockAsInFlight` as the code that requests whole blocks calls it. -/
def markBlockAsInFlight :
    DownloadState max_extra_txn :=
  if (state.mapBlocksInFlight hash).any (·.nodeid == nodeid) then state
  else queue state hash ⟨nodeid, none⟩

/-- What `FinalizeNode` does to the blocks in flight from a peer. -/
def finalizeNode : DownloadState max_extra_txn :=
  { state with
    mapBlocksInFlight := fun hash => (state.mapBlocksInFlight hash).filter (·.nodeid != nodeid) }

structure NetEnv extends ShortIDs where
  getHash : CBlockHeader → Uint256

/-- What a message meets: whether the block is wanted and near enough to be put together,
whether its peer has room for another block in flight, the mempool, the verdict of
`CheckBlock`, and whether the block is valid once processed. -/
structure Circumstances where
  wanted : Bool
  room : Bool
  vTxHashes : List (Uint256 × CTransaction)
  checkBlock : CBlock → Option Reject
  validAfter : Bool

/-! ## Handlers -/

def processBlockTxn (checkBlock : CBlock → Option Reject) (state : DownloadState max_extra_txn) (peer : NodeId)
    (blockhash : Uint256) (txn : List CTransaction) : Except Failure (DownloadState max_extra_txn) :=
  match state.mapBlocksInFlight blockhash with
  | some ⟨nodeid, some partialBlock⟩ =>
    if nodeid ≠ peer then .ok state
    else (fillBlock checkBlock partialBlock txn).map fun (status, left) =>
      -- After READ_STATUS_FAILED the whole block is asked for and the entry stays.
      if status = .failed then queue state blockhash ⟨nodeid, some left⟩
      else markBlockAsReceived state blockhash
  | _ => .ok state

def missingIndexes (partialBlock : PartiallyDownloadedBlock) (blockTxCount : Nat) : Except Failure (List Nat) :=
  (List.range blockTxCount).foldlM
    (fun indexes index => (isTxAvailable partialBlock index).map fun available =>
      if available then indexes else indexes ++ [index]) []

/-- A compact block whose transactions this peer is asked for. -/
def downloadFrom : Except Failure (DownloadState max_extra_txn) :=
  let hash := env.getHash cmpctblock.header
  initData env.toShortIDs .empty cmpctblock around.vTxHashes state.extra.entries >>=
    fun (status, partialBlock) =>
  let queued := queue state hash ⟨peer, some partialBlock⟩
  match status with
  | .invalid => .ok (markBlockAsReceived state hash)
  | .failed => .ok queued
  | _ =>
    missingIndexes partialBlock cmpctblock.blockTxCount >>= fun indexes =>
    if indexes.isEmpty then processBlockTxn around.checkBlock queued peer hash [] else .ok queued

/-- A compact block that is in flight from another peer, or one too many. -/
def reconstruct : Except Failure (DownloadState max_extra_txn) :=
  initData env.toShortIDs .empty cmpctblock around.vTxHashes state.extra.entries >>= fun (status, tempBlock) =>
  if status ≠ .ok then .ok state
  else (fillBlock around.checkBlock tempBlock []).map fun (status, _) =>
    if status = .ok ∧ around.validAfter then markBlockAsReceived state (env.getHash cmpctblock.header)
    else state

def processCmpctBlock : Except Failure (DownloadState max_extra_txn) :=
  if !around.wanted then .ok state
  else match state.mapBlocksInFlight (env.getHash cmpctblock.header) with
    | none =>
      if around.room then downloadFrom env around state peer cmpctblock
      else reconstruct env around state cmpctblock
    | some ⟨nodeid, partialBlock⟩ =>
      if nodeid ≠ peer then reconstruct env around state cmpctblock
      -- "Peer sent us compact block we were already syncing!"
      else if partialBlock.isSome then .ok state
      else downloadFrom env around state peer cmpctblock

inductive Event where
  | cmpctblock (peer : NodeId) (message : CBlockHeaderAndShortTxIDs) (around : Circumstances)
  | blocktxn (peer : NodeId) (blockhash : Uint256) (txn : List CTransaction)
      (checkBlock : CBlock → Option Reject)
  | block (hash : Uint256)
  /-- A whole block is asked for. -/
  | request (peer : NodeId) (hash : Uint256)
  | disconnect (peer : NodeId)
  /-- An orphan, a rejected or a replaced transaction. -/
  | extra (tx : CTransaction)

def step : Event → Except Failure (DownloadState max_extra_txn)
  | .cmpctblock peer message around => processCmpctBlock env around state peer message
  | .blocktxn peer blockhash txn checkBlock => processBlockTxn checkBlock state peer blockhash txn
  | .block hash => .ok (markBlockAsReceived state hash)
  | .request peer hash => .ok (markBlockAsInFlight state peer hash)
  | .disconnect peer => .ok (finalizeNode state peer)
  | .extra tx => .ok { state with extra := addToCompactExtraTransactions env.toShortIDs state.extra tx }

def run (max_extra_txn : Nat) (events : List Event) :
    Except Failure (DownloadState max_extra_txn) :=
  events.foldlM (step env) (.start max_extra_txn)

end Handlers

/-! ## What each handler does -/

section Safety

variable {max_extra_txn : Nat} {env : NetEnv} {state : DownloadState max_extra_txn}

def Survives {α : Type} (outcome : Except Failure α) : Prop := Ends (fun _ => False) (fun _ => True) outcome

theorem survives_iff {α : Type} {outcome : Except Failure α} : Survives outcome ↔ ∃ value, outcome = .ok value :=
  Ends.total_iff.trans (exists_congr fun _ => and_iff_left trivial)

variable {checkBlock : CBlock → Option Reject} {partialBlock : PartiallyDownloadedBlock}

theorem fillBlock_survives_iff {vtx_missing : List CTransaction} :
    Survives (fillBlock checkBlock partialBlock vtx_missing) ↔ isNullHeader partialBlock.header = false := by
  unfold fillBlock
  cases isNull : isNullHeader partialBlock.header with
  | true => exact iff_of_false id nofun
  | false =>
    refine iff_of_true ?_ rfl
    rw [if_neg Bool.false_ne_true]
    cases fillMissing partialBlock.txn_available vtx_missing with
    | none => trivial
    | some filled =>
      dsimp only
      split <;> trivial

/-- The peer has a download of this block whose partial block an earlier `FillBlock` has
emptied. -/
def Emptied (state : DownloadState max_extra_txn) (peer : NodeId) (blockhash : Uint256) : Prop :=
  ∃ partialBlock, state.mapBlocksInFlight blockhash = some ⟨peer, some partialBlock⟩
    ∧ isNullHeader partialBlock.header = true

theorem processBlockTxn_survives_iff {peer : NodeId} {blockhash : Uint256} {txn : List CTransaction} :
    Survives (processBlockTxn checkBlock state peer blockhash txn) ↔ ¬ Emptied state peer blockhash := by
  unfold processBlockTxn
  split
  case h_1 nodeid partialBlock found =>
    split
    case isTrue foreign =>
      refine iff_of_true trivial ?_
      rintro ⟨_, own, -⟩
      rw [found] at own
      cases own
      exact foreign rfl
    case isFalse own =>
      obtain rfl := not_not.mp own
      have fills := @fillBlock_survives_iff checkBlock partialBlock txn
      have emptied : Emptied state nodeid blockhash ↔ isNullHeader partialBlock.header = true := by
        simp [Emptied, found]
      rw [emptied, Bool.not_eq_true, ← fills]
      cases fillBlock checkBlock partialBlock txn <;> exact Iff.rfl
  case h_2 other =>
    refine iff_of_true trivial ?_
    rintro ⟨partialBlock, found, -⟩
    exact other peer partialBlock found

theorem missingIndexes_survives {blockTxCount : Nat} (header : isNullHeader partialBlock.header = false)
    (positions : partialBlock.txn_available.length = blockTxCount) :
    Survives (missingIndexes partialBlock blockTxCount) := by
  refine Ends.foldlM (fun index member indexes _ => ?_) trivial
  have inside : index < partialBlock.txn_available.length := positions ▸ List.mem_range.mp member
  unfold isTxAvailable
  rw [header, if_neg Bool.false_ne_true, List.getElem?_eq_getElem inside]
  trivial

variable {around : Circumstances} {peer : NodeId} {cmpctblock : CBlockHeaderAndShortTxIDs}

theorem downloadFrom_survives (readable : Readable env.toShortIDs state.extra.entries cmpctblock) :
    Survives (downloadFrom env around state peer cmpctblock) := by
  refine (initData_ends readable).bind fun result initialised => ?_
  obtain ⟨status, partialBlock⟩ := result
  dsimp only
  split
  case h_1 => trivial
  case h_2 => trivial
  case h_3 notInvalid notFailed =>
    have header : isNullHeader partialBlock.header = false := initialised.header notInvalid
    have positions := initialised.positions (not_or.mpr ⟨notInvalid, notFailed⟩)
    refine (missingIndexes_survives header positions).bind fun indexes _ => ?_
    split
    · refine processBlockTxn_survives_iff.mpr ?_
      rintro ⟨queued, found, isNull⟩
      rw [queue_self] at found
      cases found
      exact Bool.false_ne_true (header.symm.trans isNull)
    · trivial

theorem reconstruct_survives (readable : Readable env.toShortIDs state.extra.entries cmpctblock) :
    Survives (reconstruct env around state cmpctblock) := by
  refine (initData_ends readable).bind fun result initialised => ?_
  obtain ⟨status, tempBlock⟩ := result
  dsimp only
  split
  case isTrue => trivial
  case isFalse isOk =>
    obtain rfl := not_not.mp isOk
    exact (fillBlock_survives_iff.mpr (initialised.header nofun)).map fun _ _ => trivial

theorem processCmpctBlock_survives
    (readable : around.wanted = true → Readable env.toShortIDs state.extra.entries cmpctblock) :
    Survives (processCmpctBlock env around state peer cmpctblock) := by
  unfold processCmpctBlock
  cases wanted : around.wanted with
  | false => trivial
  | true =>
    rw [Bool.not_true, if_neg Bool.false_ne_true]
    split
    · split
      · exact downloadFrom_survives (readable wanted)
      · exact reconstruct_survives (readable wanted)
    · split
      · exact reconstruct_survives (readable wanted)
      · split
        · trivial
        · exact downloadFrom_survives (readable wanted)

/-! ## Emptied partial blocks -/

/-- The transactions make up a block that `CheckBlock` finds corrupted. -/
def Corrupted (checkBlock : CBlock → Option Reject) (partialBlock : PartiallyDownloadedBlock)
    (txn : List CTransaction) : Prop :=
  ∃ vtx, fillMissing partialBlock.txn_available txn = some (vtx, [])
    ∧ (checkBlock ⟨partialBlock.header, vtx, false⟩).any Reject.corruptionPossible = true

theorem fillBlock_cases {txn : List CTransaction} {status : ReadStatus} {left : PartiallyDownloadedBlock}
    (fills : fillBlock checkBlock partialBlock txn = .ok (status, left)) :
    (status = .failed ↔ Corrupted checkBlock partialBlock txn)
      ∧ (status = .failed → isNullHeader left.header = true) := by
  unfold fillBlock at fills
  unfold Corrupted
  split at fills
  · cases fills
  split at fills
  case h_1 short =>
    cases fills
    simp [short]
  case h_2 vtx rest fitting =>
    split at fills
    case isTrue more =>
      cases fills
      simp [fitting]
      intro isNil
      simp [isNil] at more
    case isFalse exact_ =>
      have isNil : rest = [] := by simpa using exact_
      cases fills
      refine ⟨?_, fun _ => rfl⟩
      cases verdict : checkBlock ⟨partialBlock.header, vtx, false⟩ <;> simp [fitting, isNil, statusOf, verdict]

variable {peer sender : NodeId} {hash other : Uint256} {entry : QueuedBlock} {next : DownloadState max_extra_txn}

theorem emptied_received : Emptied (markBlockAsReceived state other) peer hash ↔ other ≠ hash ∧ Emptied state peer hash := by
  unfold Emptied markBlockAsReceived
  by_cases same : other = hash
  · simp [same]
  · simp [same, Function.update_of_ne (Ne.symm same)]

theorem emptied_queue : Emptied (queue state other entry) peer hash ↔
    if other = hash then entry.nodeid = peer ∧ entry.partialBlock.any (isNullHeader ·.header) = true
    else Emptied state peer hash := by
  unfold Emptied queue
  obtain ⟨nodeid, partialBlock⟩ := entry
  by_cases same : other = hash
  · cases partialBlock <;> simp [same]
  · simp [same, Function.update_of_ne (Ne.symm same)]

theorem emptied_owner (emptied : Emptied state peer hash) (found : state.mapBlocksInFlight hash = some entry) :
    entry.nodeid = peer ∧ entry.partialBlock.isSome = true := by
  obtain ⟨partialBlock, present, -⟩ := emptied
  rw [found] at present
  cases present
  exact ⟨rfl, rfl⟩

/-- The transactions of a peer complete its partial block to a corrupted one. -/
def TxnSpoils (state : DownloadState max_extra_txn) (peer : NodeId) (hash : Uint256) (txn : List CTransaction)
    (checkBlock : CBlock → Option Reject) : Prop :=
  ∃ partialBlock, state.mapBlocksInFlight hash = some ⟨peer, some partialBlock⟩
    ∧ Corrupted checkBlock partialBlock txn

theorem processBlockTxn_emptied {txn : List CTransaction}
    (steps : processBlockTxn checkBlock state sender other txn = .ok next) :
    Emptied next peer hash ↔
      (sender = peer ∧ other = hash ∧ TxnSpoils state peer hash txn checkBlock) ∨ Emptied state peer hash := by
  have survives := processBlockTxn_survives_iff.mp (survives_iff.mpr ⟨next, steps⟩)
  unfold processBlockTxn at steps
  split at steps
  case h_1 nodeid partialBlock found =>
    split at steps
    case isTrue foreign =>
      cases steps
      refine (or_iff_right ?_).symm
      rintro ⟨rfl, rfl, _, own, -⟩
      rw [found] at own
      cases own
      exact foreign rfl
    case isFalse own =>
      obtain rfl := not_not.mp own
      obtain ⟨⟨status, left⟩, fills, rfl⟩ := map_eq_ok.mp steps
      obtain ⟨corrupted, emptied⟩ := fillBlock_cases fills
      -- The peer's own block was not emptied before, or the step would have failed.
      have spoils : TxnSpoils state nodeid other txn checkBlock ↔ status = .failed := by
        simp [TxnSpoils, found, corrupted]
      have before : other = hash → Emptied state peer hash → False := by
        rintro rfl isEmptied
        obtain rfl : nodeid = peer := (emptied_owner isEmptied found).1
        exact survives isEmptied
      dsimp only
      split
      case isTrue failed =>
        rw [emptied_queue]
        split
        case isTrue same =>
          subst same
          have isNull := emptied failed
          constructor
          · rintro ⟨rfl, -⟩
            exact .inl ⟨rfl, rfl, spoils.mpr failed⟩
          · rintro (⟨rfl, -, -⟩ | isEmptied)
            · exact ⟨rfl, isNull⟩
            · exact (before rfl isEmptied).elim
        case isFalse differs => exact (or_iff_right fun spoiled => differs spoiled.2.1).symm
      case isFalse passed =>
        rw [emptied_received]
        constructor
        · exact fun kept => .inr kept.2
        · rintro (⟨rfl, rfl, spoiled⟩ | isEmptied)
          · exact absurd (spoils.mp spoiled) passed
          · exact ⟨fun same => before same isEmptied, isEmptied⟩
  case h_2 none_ =>
    cases steps
    refine (or_iff_right ?_).symm
    rintro ⟨rfl, rfl, partialBlock, found, -⟩
    exact none_ sender partialBlock found

variable {around : Circumstances} {cmpctblock : CBlockHeaderAndShortTxIDs}

theorem initData_header {status : ReadStatus} {vTxHashes : List (Uint256 × CTransaction)}
    {extra_txn : List (Uint256 × CTransactionRef)}
    (starts : initData env.toShortIDs .empty cmpctblock vTxHashes extra_txn = .ok (status, partialBlock))
    (valid : status ≠ .invalid) : isNullHeader partialBlock.header = false := by
  unfold initData at starts
  split at starts
  · cases starts
    exact absurd rfl valid
  split at starts
  · cases starts
    exact absurd rfl valid
  split at starts
  · cases starts
  rename_i present _ _
  obtain ⟨result, -, isResult⟩ := map_eq_ok.mp starts
  cases isResult
  exact Bool.eq_false_iff.mpr fun isNull => present (.inl isNull)

/-- A compact block whose transactions are all there makes up a corrupted block. -/
def CompactSpoils (env : NetEnv) (around : Circumstances) (state : DownloadState max_extra_txn)
    (cmpctblock : CBlockHeaderAndShortTxIDs) : Prop :=
  ∃ status partialBlock, initData env.toShortIDs .empty cmpctblock around.vTxHashes state.extra.entries
      = .ok (status, partialBlock)
    ∧ ¬ (status = .invalid ∨ status = .failed)
    ∧ missingIndexes partialBlock cmpctblock.blockTxCount = .ok []
    ∧ Corrupted around.checkBlock partialBlock []

theorem downloadFrom_emptied (steps : downloadFrom env around state sender cmpctblock = .ok next) :
    Emptied next peer hash ↔
      if env.getHash cmpctblock.header = hash then sender = peer ∧ CompactSpoils env around state cmpctblock
      else Emptied state peer hash := by
  obtain ⟨⟨status, partialBlock⟩, starts, steps⟩ := bind_eq_ok.mp steps
  have header := initData_header starts
  have spoils : CompactSpoils env around state cmpctblock ↔ ¬ (status = .invalid ∨ status = .failed)
      ∧ missingIndexes partialBlock cmpctblock.blockTxCount = .ok []
      ∧ Corrupted around.checkBlock partialBlock [] := by
    simp [CompactSpoils, starts]
  -- A block that is only queued has its header.
  have queued : status ≠ .invalid →
      (Emptied (queue state (env.getHash cmpctblock.header) ⟨sender, some partialBlock⟩) peer hash
        ↔ if env.getHash cmpctblock.header = hash then False else Emptied state peer hash) := by
    intro valid
    rw [emptied_queue]
    simp [header valid]
  dsimp only at steps
  split at steps
  case h_1 =>
    cases steps
    rw [emptied_received, spoils]
    split <;> simp_all
  case h_2 =>
    cases steps
    rw [queued nofun, spoils]
    split <;> simp
  case h_3 notInvalid notFailed =>
    have goesOn : ¬ (status = .invalid ∨ status = .failed) := not_or.mpr ⟨notInvalid, notFailed⟩
    obtain ⟨indexes, missing, steps⟩ := bind_eq_ok.mp steps
    split at steps
    case isTrue isEmpty =>
      rw [processBlockTxn_emptied steps, queued notInvalid, spoils]
      have isNil : indexes = [] := by simpa using isEmpty
      subst isNil
      split
      case isTrue same =>
        subst same
        simp only [true_and, or_false, goesOn, missing, not_false_eq_true, TxnSpoils, queue_self]
        constructor
        · rintro ⟨rfl, _, ⟨⟩, corrupted⟩
          exact ⟨rfl, corrupted⟩
        · rintro ⟨rfl, corrupted⟩
          exact ⟨rfl, partialBlock, rfl, corrupted⟩
      case isFalse differs => simp [differs]
    case isFalse notEmpty =>
      cases steps
      have some_ : indexes ≠ [] := by simpa using notEmpty
      rw [queued notInvalid, spoils, missing]
      split <;> simp [some_]

/-- A compact block is put together out of what the node has, and is valid. -/
def Reconstructs (env : NetEnv) (around : Circumstances) (state : DownloadState max_extra_txn)
    (cmpctblock : CBlockHeaderAndShortTxIDs) : Prop :=
  ∃ tempBlock left, initData env.toShortIDs .empty cmpctblock around.vTxHashes state.extra.entries
      = .ok (.ok, tempBlock)
    ∧ fillBlock around.checkBlock tempBlock [] = .ok (.ok, left) ∧ around.validAfter = true

theorem reconstruct_emptied (steps : reconstruct env around state cmpctblock = .ok next) :
    Emptied next peer hash ↔ Emptied state peer hash
      ∧ ¬ (env.getHash cmpctblock.header = hash ∧ Reconstructs env around state cmpctblock) := by
  obtain ⟨⟨status, tempBlock⟩, starts, steps⟩ := bind_eq_ok.mp steps
  dsimp only at steps
  split at steps
  case isTrue failed =>
    cases steps
    have notReconstructed : ¬ Reconstructs env around state cmpctblock := by simp [Reconstructs, starts, failed]
    simp [notReconstructed]
  case isFalse isOk =>
    obtain rfl := not_not.mp isOk
    obtain ⟨⟨filled, left⟩, fills, rfl⟩ := map_eq_ok.mp steps
    have reconstructed : Reconstructs env around state cmpctblock ↔ filled = .ok ∧ around.validAfter = true := by
      simp [Reconstructs, starts, fills]
    rw [reconstructed]
    dsimp only
    split
    case isTrue valid =>
      rw [emptied_received]
      simp [valid, and_comm]
    case isFalse notValid => simp [notValid]

/-- A message that makes the peer's partial block of this hash complete, and corrupted: the whole
block is asked for, and the emptied partial block stays in flight. -/
def Spoils (env : NetEnv) (peer : NodeId) (hash : Uint256) (state : DownloadState max_extra_txn) :
    Event → Prop
  | .cmpctblock sender message around =>
    sender = peer ∧ env.getHash message.header = hash ∧ around.wanted = true
      ∧ (match state.mapBlocksInFlight hash with
        | none => around.room = true
        | some entry => entry.nodeid = peer ∧ entry.partialBlock = none)
      ∧ CompactSpoils env around state message
  | .blocktxn sender blockhash txn checkBlock =>
    sender = peer ∧ blockhash = hash ∧ TxnSpoils state peer hash txn checkBlock
  | _ => False

/-- A message after which the peer has no partial block of this hash: the block itself, a request
to another peer, a compact block of another peer that gives the block, or the peer's end. -/
def Clears (env : NetEnv) (peer : NodeId) (hash : Uint256) (state : DownloadState max_extra_txn) :
    Event → Prop
  | .cmpctblock sender message around =>
    sender ≠ peer ∧ env.getHash message.header = hash ∧ around.wanted = true
      ∧ Reconstructs env around state message
  | .block received => received = hash
  | .request requested received => requested ≠ peer ∧ received = hash
  | .disconnect gone => gone = peer
  | _ => False

theorem processCmpctBlock_emptied (steps : processCmpctBlock env around state sender cmpctblock = .ok next) :
    Emptied next peer hash ↔ Spoils env peer hash state (.cmpctblock sender cmpctblock around)
      ∨ Emptied state peer hash ∧ ¬ Clears env peer hash state (.cmpctblock sender cmpctblock around) := by
  unfold processCmpctBlock at steps
  simp only [Spoils, Clears]
  cases wanted : around.wanted with
  | false =>
    rw [wanted, Bool.not_false, if_pos rfl] at steps
    cases steps
    simp
  | true =>
    rw [wanted, Bool.not_true, if_neg Bool.false_ne_true] at steps
    by_cases same : env.getHash cmpctblock.header = hash
    case neg =>
      -- A message about another block.
      have kept : Emptied next peer hash ↔ Emptied state peer hash := by
        split at steps
        · split at steps
          · simp [downloadFrom_emptied steps, same]
          · simp [reconstruct_emptied steps, same]
        · split at steps
          · simp [reconstruct_emptied steps, same]
          · split at steps
            · cases steps
              rfl
            · simp [downloadFrom_emptied steps, same]
      simp [kept, same]
    case pos =>
      subst same
      split at steps
      case h_1 unknown =>
        have notEmptied : ¬ Emptied state peer (env.getHash cmpctblock.header) := by simp [Emptied, unknown]
        split at steps
        case isTrue room => simp [downloadFrom_emptied steps, unknown, notEmptied, room]
        case isFalse noRoom => simp [reconstruct_emptied steps, unknown, notEmptied, noRoom]
      case h_2 nodeid partialBlock found =>
        have owns : Emptied state peer (env.getHash cmpctblock.header) → nodeid = peer ∧ partialBlock.isSome = true :=
          fun emptied => emptied_owner emptied found
        split at steps
        case isTrue foreign =>
          rw [reconstruct_emptied steps]
          grind
        case isFalse isOwn =>
          obtain rfl := not_not.mp isOwn
          split at steps
          case isTrue present =>
            cases steps
            grind
          case isFalse absent =>
            have isNone : partialBlock = none := by simpa using absent
            rw [downloadFrom_emptied steps]
            grind

/-- What one message does to an emptied partial block in flight. -/
theorem step_emptied {event : Event} (steps : step env state event = .ok next) :
    Emptied next peer hash ↔
      Spoils env peer hash state event ∨ Emptied state peer hash ∧ ¬ Clears env peer hash state event := by
  cases event with
  | cmpctblock sender message around => exact processCmpctBlock_emptied steps
  | blocktxn sender blockhash txn checkBlock =>
    rw [processBlockTxn_emptied steps]
    simp [Spoils, Clears]
  | block received =>
    cases steps
    rw [emptied_received]
    simp [Spoils, Clears, and_comm]
  | request requested received =>
    cases steps
    have owns := @emptied_owner _ state peer hash
    unfold markBlockAsInFlight
    simp only [Spoils, Clears, false_or]
    split
    case isTrue known =>
      obtain ⟨entry, found, isPeer⟩ := (Option.any_eq_true _ _).mp known
      grind
    case isFalse unknown =>
      rw [emptied_queue]
      split
      case isTrue same =>
        subst same
        refine iff_of_false (by simp) ?_
        rintro ⟨⟨partialBlock, found, isNull⟩, kept⟩
        rw [found] at unknown
        grind
      case isFalse differs => simp [differs]
  | disconnect gone =>
    cases steps
    simp only [Spoils, Clears, false_or, Emptied, finalizeNode, Option.filter_eq_some_iff]
    grind
  | extra tx =>
    cases steps
    simp [Spoils, Clears, Emptied]

/-! ## Runs -/

/-- Some message has emptied the peer's partial block of this hash, and nothing since then has
cleared it. -/
def LeftEmptied (env : NetEnv) (max_extra_txn : Nat) (events : List Event) (peer : NodeId) (hash : Uint256) : Prop :=
  SetSince (step env) (Spoils env peer hash) (Clears env peer hash) (.start max_extra_txn) events

theorem run_emptied_iff {events : List Event} (runs : run env max_extra_txn events = .ok state) :
    Emptied state peer hash ↔ LeftEmptied env max_extra_txn events peer hash := by
  have nothing : ¬ Emptied (.start max_extra_txn) peer hash := by simp [Emptied, DownloadState.start]
  refine (holds_after_iff step_emptied runs).trans (or_iff_right fun started => nothing started.1)

/-- A compact block that is to be put together can be read. -/
def Legible (env : NetEnv) (state : DownloadState max_extra_txn) : Event → Prop
  | .cmpctblock _ message around =>
    around.wanted = true → Readable env.toShortIDs state.extra.entries message
  | _ => True

theorem step_survives_iff {event : Event} (legible : Legible env state event) :
    Survives (step env state event)
      ↔ ∀ peer blockhash txn checkBlock, event = .blocktxn peer blockhash txn checkBlock →
        ¬ Emptied state peer blockhash := by
  cases event with
  | cmpctblock peer message around => exact iff_of_true (processCmpctBlock_survives legible) nofun
  | blocktxn peer blockhash txn checkBlock =>
    refine processBlockTxn_survives_iff.trans ⟨?_, fun timely => timely _ _ _ _ rfl⟩
    rintro timely _ _ _ _ ⟨⟩
    exact timely
  | block hash => exact iff_of_true trivial nofun
  | request peer hash => exact iff_of_true trivial nofun
  | disconnect peer => exact iff_of_true trivial nofun
  | extra tx => exact iff_of_true trivial nofun

end Safety

/-- Over any messages whose compact blocks can be read, the node stops exactly when transactions
arrive from a peer for a block which an earlier message of that peer has made complete and
`CheckBlock` has found corrupted, with nothing in between that ends the peer's download of it. -/
theorem run_survives_iff (env : NetEnv) (max_extra_txn : Nat) (events : List Event)
    (legible : ∀ before event after state, events = before ++ event :: after →
      run env max_extra_txn before = .ok state → Legible env state event) :
    (∃ final, run env max_extra_txn events = .ok final)
      ↔ ∀ before peer blockhash txn checkBlock after,
        events = before ++ .blocktxn peer blockhash txn checkBlock :: after →
          ¬ LeftEmptied env max_extra_txn before peer blockhash := by
  constructor
  · rintro ⟨final, runs⟩ before peer blockhash txn checkBlock after rfl left
    rw [run, List.foldlM_append] at runs
    obtain ⟨state, reached, later⟩ := bind_eq_ok.mp runs
    obtain ⟨next, steps, -⟩ := foldlM_cons_ok.mp later
    exact processBlockTxn_survives_iff.mp (survives_iff.mpr ⟨next, steps⟩) ((run_emptied_iff reached).mpr left)
  · intro timely
    refine survives_iff.mp (foldlM_ends_iff.mpr fun before event after state splits reached => ?_)
    refine (step_survives_iff (legible before event after state splits reached)).mpr ?_
    rintro peer blockhash txn checkBlock rfl emptied
    exact timely before peer blockhash txn checkBlock after splits ((run_emptied_iff reached).mp emptied)

/-! ## A compact block with another block's coinbase -/

/-- `CheckBlock` as `FillBlock` calls it. -/
def checkBlockVerdict (env : BlockEnv) (map : BlockMap) (block : CBlock) : Option Reject :=
  match checkBlock env map block (claimedHeight block.header) true true false with
  | .error (.invalid reject) => some reject
  | _ => none

namespace Misleading

def net : NetEnv where
  getShortID := fun _ _ hash => hash.truncate 64 &&& 0xffffffffffff
  crowded := fun _ _ => false
  getWitnessHash := fun tx => tx.getWitnessHash feeEnv.digests
  getHash := fun header => header.getHash launchNode.crypto

def check : CBlock → Option Reject :=
  checkBlockVerdict ⟨launchNode.crypto, launchNode.chainparams, feeEnv, launchNode.curve, 2⟩
    (feeTree 2).mapBlockIndex

/-- The third block's header, with the first block's coinbase. -/
def message : CBlockHeaderAndShortTxIDs where
  header := (launchBlock 2).header
  nonce := 0
  shorttxids := []
  prefilledtxn := [⟨0, firstCoinbase⟩]

def hash : Uint256 := net.getHash message.header

def received : Event := .cmpctblock 0 message ⟨true, true, [], check, false⟩

def supplied : Event := .blocktxn 0 hash [] check

/-- The coinbase does not hash to the header's Merkle root, which leaves the partial block
empty and in flight. An answer from the same peer then meets the assertion. -/
theorem blocktxn_stops_node :
    run net 100 [received, supplied] = .error (.thrown "assert(!header.IsNull())") := by
  have stops : (run net 100 [received, supplied]).map (fun _ => ())
      = .error (.thrown "assert(!header.IsNull())") := by decide +kernel
  exact map_eq_error.mp stops

/-- Had the block come in between, the answer would have been ignored. -/
theorem run_survives_block : ∃ final, run net 100 [received, .block hash, supplied] = .ok final := by
  refine (run_survives_iff net 100 [received, .block hash, supplied] ?_).mpr ?_
  · intro before event after state splits _
    have member : event ∈ [received, .block hash, supplied] := by
      rw [splits]
      exact List.mem_append_right before List.mem_cons_self
    rcases List.mem_cons.mp member with rfl | member
    · exact fun _ => ⟨.inr rfl, fun _ _ _ => List.not_mem_nil⟩
    rcases List.mem_cons.mp member with rfl | member
    · trivial
    · obtain rfl := List.mem_singleton.mp member
      trivial
  · -- The compact block empties the partial block, and the block clears it.
    have cleared : ¬ LeftEmptied net 100 [received, .block hash] 0 hash := by
      rintro ⟨_, -, ⟨-, kept, -⟩ | ⟨_, -, ⟨spoils, -⟩ | none_⟩⟩
      · exact kept rfl
      · exact spoils
      · exact none_
    rintro before peer blockhash txn checkBlock after splits
    match before with
    | [] => cases splits
    | [_] => cases splits
    | [_, _] =>
      cases splits
      exact cleared
    | _ :: _ :: _ :: rest => simp at splits

end Misleading

end BlackRaven.Net
