import BlackRaven.Assets.Names
import BlackRaven.Consensus.Amount
import BlackRaven.Lib.SortedMap
import Mathlib.Data.Finset.Basic
import Mathlib.Data.Set.Function

/-!
Contract: the snapshot requests of `snapshotrequestdb.cpp` and the ownership snapshots of
`assetsnapshotdb.cpp`, with their keys.

Owns: for which assets and heights the calls for one pair leave the rows of the others alone.
-/

namespace BlackRaven.Assets

open Consensus Lib

/-- An asset name and a height. -/
abbrev SnapshotPair := Bytes × Nat

/-- `heightAndName`, the key in either database. -/
def heightAndName (pair : SnapshotPair) : Bytes :=
  (Nat.toDigits 10 pair.2).map (fun digit => UInt8.ofNat digit.toNat) ++ pair.1

/-- `CSnapshotRequestDBEntry`, apart from the key it repeats. -/
structure CSnapshotRequestDBEntry where
  assetName : Bytes
  heightForSnapshot : Nat
  deriving DecidableEq

/-- `CAssetSnapshotDBEntry`, apart from the key it repeats. -/
structure CAssetSnapshotDBEntry where
  height : Nat
  assetName : Bytes
  ownersAndAmounts : Finset (Bytes × CAmount)

/-- What a snapshot asks the asset index: the number of entries of `AssetAddressDir`, a page
of them from an offset on, and which addresses decode to a destination. -/
structure OwnerDirectory where
  totalEntryCount : Option Nat
  page : Nat → Option (List (Bytes × CAmount))
  isValidDestination : Bytes → Bool

def maxRetrievalCount : Nat := 100

/-- The loop of `AddAssetOwnershipSnapshot` over the pages. -/
def OwnerDirectory.ownersAndAmounts (directory : OwnerDirectory) :
    Option (Finset (Bytes × CAmount)) := do
  let total ← directory.totalEntryCount
  let pages ← (List.range ((total + maxRetrievalCount - 1) / maxRetrievalCount)).mapM fun batch =>
    directory.page (batch * maxRetrievalCount)
  return (pages.flatten.filter fun owner => directory.isValidDestination owner.1).toFinset

inductive SnapshotCall where
  | scheduleSnapshot
  | removeSnapshotRequest
  | addAssetOwnershipSnapshot (directory : OwnerDirectory)
  | removeOwnershipSnapshot

/-- What a call does to the request of its pair: nothing, or write it, or erase it. -/
def SnapshotCall.request (pair : SnapshotPair) :
    SnapshotCall → Option (Option CSnapshotRequestDBEntry)
  | .scheduleSnapshot => some (some ⟨pair.1, pair.2⟩)
  | .removeSnapshotRequest => some none
  | _ => none

/-- The same for the ownership snapshot. None is made where an error occurs or nobody owns
the asset. -/
def SnapshotCall.snapshot (pair : SnapshotPair) :
    SnapshotCall → Option (Option CAssetSnapshotDBEntry)
  | .addAssetOwnershipSnapshot directory =>
    (directory.ownersAndAmounts.filter (· ≠ ∅)).map fun owners => some ⟨pair.2, pair.1, owners⟩
  | .removeOwnershipSnapshot => some none
  | _ => none

/-- `Write` or `Erase`, under the key of the pair. -/
def changeRow {ν : Type} (rows : Std.TreeMap Bytes ν) (pair : SnapshotPair) :
    Option (Option ν) → Std.TreeMap Bytes ν
  | none => rows
  | some none => rows.erase (heightAndName pair)
  | some (some row) => rows.insert (heightAndName pair) row

structure SnapshotStores where
  requests : Std.TreeMap Bytes CSnapshotRequestDBEntry := {}
  snapshots : Std.TreeMap Bytes CAssetSnapshotDBEntry := {}

namespace SnapshotStores

variable (stores : SnapshotStores)

def call (call : SnapshotPair × SnapshotCall) : SnapshotStores where
  requests := changeRow stores.requests call.1 (call.2.request call.1)
  snapshots := changeRow stores.snapshots call.1 (call.2.snapshot call.1)

def retrieveSnapshotRequest (pair : SnapshotPair) : Option CSnapshotRequestDBEntry :=
  stores.requests[heightAndName pair]?

def containsSnapshotRequest (pair : SnapshotPair) : Bool := (stores.retrieveSnapshotRequest pair).isSome

def retrieveOwnershipSnapshot (pair : SnapshotPair) : Option CAssetSnapshotDBEntry :=
  stores.snapshots[heightAndName pair]?

/-- `RetrieveSnapshotRequestsForHeight`. The loop reads a key as a flag and an `int`, for which
a key with a name is always long enough. -/
def retrieveSnapshotRequestsForHeight (assetName : Bytes) (blockHeight : Nat) :
    List CSnapshotRequestDBEntry :=
  (stores.requests.toList.map Prod.snd).filter fun entry =>
    (decide (blockHeight = 0) || decide (entry.heightForSnapshot = blockHeight))
      && (assetName.isEmpty || decide (assetName = entry.assetName))

end SnapshotStores

/-! ## The records last stored -/

/-- What the calls for a pair alone left. -/
def lastStored {ν : Type} (change : SnapshotPair → SnapshotCall → Option (Option ν))
    (calls : List (SnapshotPair × SnapshotCall)) (pair : SnapshotPair) : Option ν :=
  calls.foldl (fun held call => if call.1 = pair then (change call.1 call.2).getD held else held) none

/-- The questions about a pair are answered by what was stored for it, and a listing by what
was stored for the pairs it asks for. -/
structure Answered (pairs : Set SnapshotPair) (calls : List (SnapshotPair × SnapshotCall))
    (stores : SnapshotStores) (pair : SnapshotPair) : Prop where
  request : stores.retrieveSnapshotRequest pair = lastStored SnapshotCall.request calls pair
  contained : stores.containsSnapshotRequest pair = (lastStored SnapshotCall.request calls pair).isSome
  snapshot : stores.retrieveOwnershipSnapshot pair = lastStored SnapshotCall.snapshot calls pair
  listed : 0 < pair.2 → ∀ assetName entry,
    entry ∈ stores.retrieveSnapshotRequestsForHeight assetName pair.2 ↔
      ∃ other ∈ pairs, lastStored SnapshotCall.request calls other = some entry ∧
        other.2 = pair.2 ∧ (assetName = [] ∨ assetName = other.1)

/-- The rows are those of the pairs in use, each under its key. -/
structure Keeps {ν : Type} (pairs : Set SnapshotPair) (rows : Std.TreeMap Bytes ν)
    (last : SnapshotPair → Option ν) : Prop where
  read : ∀ pair ∈ pairs, rows[heightAndName pair]? = last pair
  used : ∀ (key : Bytes) row, rows[key]? = some row → ∃ pair ∈ pairs, heightAndName pair = key

variable {pairs : Set SnapshotPair} {calls : List (SnapshotPair × SnapshotCall)}

theorem Keeps.change {ν : Type} {rows : Std.TreeMap Bytes ν} {last : SnapshotPair → Option ν}
    (keeps : Keeps pairs rows last) (apart : Set.InjOn heightAndName pairs) {pair : SnapshotPair}
    (used : pair ∈ pairs) (change : Option (Option ν)) :
    Keeps pairs (changeRow rows pair change)
      fun other => if pair = other then change.getD (last other) else last other := by
  have same : ∀ other ∈ pairs, (heightAndName other = heightAndName pair ↔ pair = other) :=
    fun other isUsed => (apart.eq_iff isUsed used).trans eq_comm
  rcases change with _ | _ | row
  · simpa [changeRow] using keeps
  · refine ⟨fun other isUsed => ?_, forall_erase keeps.used⟩
    simp only [changeRow, getElem?_erase_eq, same other isUsed, keeps.read other isUsed, Option.getD_some]
  · refine ⟨fun other isUsed => ?_, forall_insert keeps.used ⟨pair, used, rfl⟩⟩
    simp only [changeRow, getElem?_insert_eq, same other isUsed, keeps.read other isUsed, Option.getD_some]

/-- Both databases after any calls for pairs with keys of their own. -/
theorem calls_keep (apart : Set.InjOn heightAndName pairs) (used : ∀ call ∈ calls, call.1 ∈ pairs) :
    Keeps pairs (calls.foldl SnapshotStores.call {}).requests (lastStored SnapshotCall.request calls)
      ∧ Keeps pairs (calls.foldl SnapshotStores.call {}).snapshots
        (lastStored SnapshotCall.snapshot calls) := by
  induction calls using List.reverseRecOn with
  | nil => exact ⟨⟨fun _ _ => Std.TreeMap.getElem?_emptyc, by simp⟩, fun _ _ => Std.TreeMap.getElem?_emptyc, by simp⟩
  | append_singleton calls call ih =>
    obtain ⟨earlier, last⟩ := List.forall_mem_append.mp used
    obtain ⟨requests, snapshots⟩ := ih earlier
    have isUsed := last call (List.mem_singleton_self call)
    unfold lastStored
    simp only [List.foldl_append, List.foldl_cons, List.foldl_nil]
    exact ⟨requests.change apart isUsed _, snapshots.change apart isUsed _⟩

theorem lastStored_request {pair : SnapshotPair} {entry : CSnapshotRequestDBEntry}
    (stored : lastStored SnapshotCall.request calls pair = some entry) : entry = ⟨pair.1, pair.2⟩ := by
  revert stored
  refine List.foldlRecOn calls _ (motive := (· = some entry → _)) (nofun) ?_
  rintro held ih ⟨other, call⟩ - stored
  split at stored
  · rename_i isPair
    subst isPair
    cases call with
    | scheduleSnapshot => exact (Option.some.inj stored).symm
    | removeSnapshotRequest => cases stored
    | addAssetOwnershipSnapshot | removeOwnershipSnapshot => exact ih stored
  · exact ih stored

/-- The calls for one pair never change the answers about another if and only if the keys of
the pairs in use differ. -/
theorem snapshot_records_apart_iff (pairs : Set SnapshotPair) :
    (∀ calls : List (SnapshotPair × SnapshotCall), (∀ call ∈ calls, call.1 ∈ pairs) →
      ∀ pair ∈ pairs, Answered pairs calls (calls.foldl SnapshotStores.call {}) pair)
    ↔ Set.InjOn heightAndName pairs := by
  constructor
  · intro answered left isLeft right isRight same
    have found := (answered [(left, .scheduleSnapshot)] (by simpa using isLeft) right isRight).request
    change (({} : Std.TreeMap Bytes _).insert (heightAndName left) _)[heightAndName right]?
      = if left = right then _ else none at found
    rw [getElem?_insert_eq, if_pos same.symm] at found
    by_contra different
    rw [if_neg different] at found
    cases found
  · intro apart calls used pair isUsed
    obtain ⟨requests, snapshots⟩ := calls_keep apart used
    have request := requests.read pair isUsed
    refine ⟨request, congrArg Option.isSome request, snapshots.read pair isUsed, ?_⟩
    intro positive assetName entry
    have stored : entry ∈ (calls.foldl SnapshotStores.call {}).requests.toList.map Prod.snd ↔
        ∃ other ∈ pairs, lastStored SnapshotCall.request calls other = some entry := by
      constructor
      · intro member
        obtain ⟨⟨key, _⟩, isRow, rfl⟩ := List.mem_map.mp member
        have found := Std.TreeMap.mem_toList_iff_getElem?_eq_some.mp isRow
        obtain ⟨other, isUsed, rfl⟩ := requests.used key _ found
        exact ⟨other, isUsed, (requests.read other isUsed).symm.trans found⟩
      · rintro ⟨other, isUsed, found⟩
        exact List.mem_map.mpr ⟨(heightAndName other, entry),
          Std.TreeMap.mem_toList_iff_getElem?_eq_some.mpr ((requests.read other isUsed).trans found), rfl⟩
    rw [SnapshotStores.retrieveSnapshotRequestsForHeight, List.mem_filter, stored]
    constructor
    · rintro ⟨⟨other, isUsed, found⟩, asked⟩
      obtain rfl := lastStored_request found
      exact ⟨other, isUsed, found, by simpa [positive.ne'] using asked⟩
    · rintro ⟨other, isUsed, found, asked⟩
      obtain rfl := lastStored_request found
      exact ⟨⟨other, isUsed, found⟩, by simpa [positive.ne'] using asked⟩

/-- `ABC` at height 21 has the request of `1ABC` at height 2, and removes it. -/
theorem snapshot_rows_shared :
    nameType (ascii "1ABC") = some .root ∧ nameType (ascii "ABC") = some .root ∧
    let stores := SnapshotStores.call {} ((ascii "1ABC", 2), .scheduleSnapshot)
    stores.containsSnapshotRequest (ascii "ABC", 21) = true ∧
    (stores.call ((ascii "ABC", 21), .removeSnapshotRequest)).containsSnapshotRequest (ascii "1ABC", 2)
      = false := by
  decide

end BlackRaven.Assets
