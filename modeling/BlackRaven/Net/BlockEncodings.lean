import BlackRaven.Consensus.ValidationState
import BlackRaven.Primitives.Block

/-!
Contract: `PartiallyDownloadedBlock` of `blockencodings.cpp`.

Owns: `InitData`, `IsTxAvailable` and `FillBlock` with their assertions, their positions in
`txn_available` and the transactions they dereference.

Does not own: the short-id hash, the buckets of `std::unordered_map` and `CheckBlock`, which
are parameters, and the counters that are only logged.
-/

namespace BlackRaven.Net

open Consensus Primitives

/-- A `CTransactionRef`, which may be null. -/
abbrev CTransactionRef := Option CTransaction

def isNullTx (tx : CTransaction) : Bool := tx.vin.isEmpty && tx.vout.isEmpty

def isNullHeader (header : CBlockHeader) : Bool := header.nBits == 0

def nullHeader : CBlockHeader := ⟨0, 0, 0, 0, 0, 0, 0, 0, 0⟩

/-- `index` counts from the prefilled transaction before. -/
structure PrefilledTransaction where
  index : BitVec 16
  tx : CTransaction

structure CBlockHeaderAndShortTxIDs where
  header : CBlockHeader
  nonce : Uint64
  shorttxids : List Uint64
  prefilledtxn : List PrefilledTransaction

variable (env : ShortIDs) (partialBlock : PartiallyDownloadedBlock)
  (cmpctblock : CBlockHeaderAndShortTxIDs) (vTxHashes : List (Uint256 × CTransaction))
  (extra_txn : List (Uint256 × CTransactionRef))

def CBlockHeaderAndShortTxIDs.blockTxCount : Nat :=
  cmpctblock.shorttxids.length + cmpctblock.prefilledtxn.length

inductive ReadStatus where
  | ok
  | invalid
  | failed
  | checkBlockFailed
  deriving DecidableEq, Repr

structure PartiallyDownloadedBlock where
  txn_available : List CTransactionRef
  header : CBlockHeader

def PartiallyDownloadedBlock.empty : PartiallyDownloadedBlock := ⟨[], nullHeader⟩

structure ShortIDs where
  /-- `GetShortID` under the keys of a header and a nonce. -/
  getShortID : CBlockHeader → Uint64 → Uint256 → Uint64
  /-- Whether the bucket of a short id holds more than 12 entries. -/
  crowded : List (Uint64 × Nat) → Uint64 → Bool
  getWitnessHash : CTransaction → Uint256

/-- The end of a phase of `InitData` before its last line. -/
inductive Halt where
  | crash (failed : Failure)
  | status (status : ReadStatus)

/-! ## InitData -/

/-- `GetMaxBlockWeight() / MIN_SERIALIZABLE_TRANSACTION_WEIGHT`. -/
def maxCompactTxs : Nat := 8000000 / (4 * 10)

/-- A round of the first loop: the list and `lastprefilledindex`. -/
def placePrefilled (shortCount : Nat) (state : List CTransactionRef × Int)
    (entry : PrefilledTransaction × Nat) : Except Halt (List CTransactionRef × Int) :=
  let (txn_available, lastprefilledindex) := state
  if isNullTx entry.1.tx then .error (.status .invalid)
  else
    let lastprefilledindex := lastprefilledindex + entry.1.index.toNat + 1
    if lastprefilledindex > 65535 then .error (.status .invalid)
    else if lastprefilledindex.toNat > shortCount + entry.2 then .error (.status .invalid)
    else if lastprefilledindex.toNat < txn_available.length then
      .ok (txn_available.set lastprefilledindex.toNat (some entry.1.tx), lastprefilledindex)
    else .error (.crash (.undefined "txn_available[lastprefilledindex]"))

/-- `while (txn_available[i + index_offset]) index_offset++;` with an offset of 16 bits. When
all offsets have been tried the loop has come round and never ends. -/
def skipAvailable (txn_available : List CTransactionRef) (i : Nat) : Nat → Nat → Except Halt Nat
  | 0, _ => .error (.crash (.undefined "while (txn_available[i + index_offset])"))
  | untried + 1, index_offset =>
    match txn_available[i + index_offset]? with
    | none => .error (.crash (.undefined "txn_available[i + index_offset]"))
    | some none => .ok index_offset
    | some (some _) => skipAvailable txn_available i untried ((index_offset + 1) % 65536)

def assign (shorttxids : List (Uint64 × Nat)) (key : Uint64) (value : Nat) : List (Uint64 × Nat) :=
  (key, value) :: shorttxids.filter (·.1 != key)

/-- A round of the second loop: the map and `index_offset`. Positions are 16 bits wide. -/
def placeShortID (txn_available : List CTransactionRef) (state : List (Uint64 × Nat) × Nat)
    (entry : Uint64 × Nat) :
    Except Halt (List (Uint64 × Nat) × Nat) :=
  skipAvailable txn_available entry.2 65536 state.2 >>= fun index_offset =>
  let shorttxids := assign state.1 entry.1 ((entry.2 + index_offset) % 65536)
  if env.crowded shorttxids entry.1 then .error (.status .failed) else .ok (shorttxids, index_offset)

structure Matching where
  txn_available : List CTransactionRef
  have_txn : List Bool
  mempool_count : Uint64

/-- What a transaction of a pool does at the position of its short id: it takes the position
if it is the first; another one there is dropped if the two differ. -/
def matchAt (differs : CTransaction → Except Failure Bool) (ref : CTransactionRef) (state : Matching)
    (position : Nat) : Except Failure Matching :=
  match state.have_txn[position]?, state.txn_available[position]? with
  | some false, some _ =>
    .ok ⟨state.txn_available.set position ref, state.have_txn.set position true, state.mempool_count + 1⟩
  | some true, some none => .ok state
  | some true, some (some present) =>
    differs present >>= fun different =>
    .ok (if different then
      { state with
        txn_available := state.txn_available.set position none
        mempool_count := state.mempool_count - 1 }
    else state)
  | _, _ => .error (.undefined "txn_available[idit->second]")

/-- A loop over a pool, which ends early when every short id has been matched. -/
def matchPool {α : Type} (shorttxids : List (Uint64 × Nat)) (shortID : α → Uint64)
    (round : α → Matching → Nat → Except Failure Matching) : List α → Matching → Except Failure Matching
  | [], state => .ok state
  | entry :: entries, state =>
    (match shorttxids.lookup (shortID entry) with
      | none => .ok state
      | some position => round entry state position) >>= fun state =>
    if state.mempool_count = BitVec.ofNat 64 shorttxids.length then .ok state
    else matchPool shorttxids shortID round entries state

/-- A transaction of the mempool: any second one drops the first. -/
def matchMempool (entry : Uint256 × CTransaction) : Matching → Nat → Except Failure Matching :=
  matchAt (fun _ => .ok true) (some entry.2)

/-- A transaction of `extra_txn`: the hashes are compared first. -/
def matchExtra (entry : Uint256 × CTransactionRef) :
    Matching → Nat → Except Failure Matching :=
  matchAt (fun present =>
    match entry.2 with
    | none => .error (.undefined "extra_txn[i].second->GetWitnessHash()")
    | some extra => .ok (env.getWitnessHash present != env.getWitnessHash extra)) entry.2

/-- The loops over the mempool and `extra_txn`. -/
def matchPools (shorttxids : List (Uint64 × Nat)) (txn_available : List CTransactionRef) :
    Except Failure (List CTransactionRef) :=
  let getShortID := env.getShortID cmpctblock.header cmpctblock.nonce
  (matchPool shorttxids (fun entry => getShortID entry.1) matchMempool vTxHashes
    ⟨txn_available, List.replicate txn_available.length false, 0⟩ >>=
  matchPool shorttxids (fun entry => getShortID entry.1) (matchExtra env) extra_txn).map Matching.txn_available

/-- The phases of `InitData` after the assertion: the positions of the prefilled
transactions, of the short ids, and what the pools have. -/
def initTransactions :
    Except Failure (ReadStatus × List CTransactionRef) :=
  match cmpctblock.prefilledtxn.zipIdx.foldlM (placePrefilled cmpctblock.shorttxids.length)
      (List.replicate cmpctblock.blockTxCount none, -1) with
  | .error (.crash failed) => .error failed
  | .error (.status status) => .ok (status, [])
  | .ok (txn_available, _) =>
    match cmpctblock.shorttxids.zipIdx.foldlM (placeShortID env txn_available) ([], 0) with
    | .error (.crash failed) => .error failed
    | .error (.status status) => .ok (status, txn_available)
    | .ok (shorttxids, _) =>
      if shorttxids.length ≠ cmpctblock.shorttxids.length then .ok (.failed, txn_available)
      else (matchPools env cmpctblock vTxHashes extra_txn shorttxids txn_available).map fun matched =>
        (.ok, matched)

/-- `InitData`. A block that is read as invalid is thrown away by every caller, so its
transactions are left out. -/
def initData :
    Except Failure (ReadStatus × PartiallyDownloadedBlock) :=
  if isNullHeader cmpctblock.header
      ∨ (cmpctblock.shorttxids.isEmpty ∧ cmpctblock.prefilledtxn.isEmpty) then
    .ok (.invalid, partialBlock)
  else if cmpctblock.blockTxCount > maxCompactTxs then .ok (.invalid, partialBlock)
  else if ¬ (isNullHeader partialBlock.header ∧ partialBlock.txn_available.isEmpty) then
    .error (.thrown "assert(header.IsNull() && txn_available.empty())")
  else (initTransactions env cmpctblock vTxHashes extra_txn).map fun (status, txn_available) =>
    (status, ⟨txn_available, cmpctblock.header⟩)

/-! ## IsTxAvailable and FillBlock -/

def isTxAvailable (index : Nat) : Except Failure Bool :=
  if isNullHeader partialBlock.header then .error (.thrown "assert(!header.IsNull())")
  else match partialBlock.txn_available[index]? with
    | none => .error (.thrown "assert(index < txn_available.size())")
    | some ref => .ok ref.isSome

/-- The loop of `FillBlock`: the block's transactions and what is left of `vtx_missing`. -/
def fillMissing : List CTransactionRef → List CTransaction → Option (List CTransaction × List CTransaction)
  | [], vtx_missing => some ([], vtx_missing)
  | some tx :: refs, vtx_missing => (fillMissing refs vtx_missing).map fun filled => (tx :: filled.1, filled.2)
  | none :: _, [] => none
  | none :: refs, tx :: vtx_missing =>
    (fillMissing refs vtx_missing).map fun filled => (tx :: filled.1, filled.2)

/-- What `FillBlock` makes of the verdict of `CheckBlock`. -/
def statusOf : Option Reject → ReadStatus
  | none => .ok
  | some reject => if reject.corruptionPossible then .failed else .checkBlockFailed

/-- `FillBlock`. Once the transactions are in place the object is empty again. -/
def fillBlock (checkBlock : CBlock → Option Reject) (partialBlock : PartiallyDownloadedBlock)
    (vtx_missing : List CTransaction) : Except Failure (ReadStatus × PartiallyDownloadedBlock) :=
  if isNullHeader partialBlock.header then .error (.thrown "assert(!header.IsNull())")
  else match fillMissing partialBlock.txn_available vtx_missing with
    | none => .ok (.invalid, partialBlock)
    | some (vtx, left) =>
      if !left.isEmpty then .ok (.invalid, .empty)
      else .ok (statusOf (checkBlock ⟨partialBlock.header, vtx, false⟩), .empty)

end BlackRaven.Net
