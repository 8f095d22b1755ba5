import BlackRaven.Primitives.Text
import BlackRaven.Primitives.Wire

/-!
Contract: `CSporkMessage` and the `CheckAndRemove` of `CSporkManager` in `spork.cpp`.

Owns: which messages a signature check takes, and what is left of a stored pair of maps
when the loops over them end.

Does not own: the digest and the recovery of a key from a signature, which are parameters.
-/

namespace BlackRaven.Net

open Primitives

/-! ## Messages -/

structure CSporkMessage where
  nSporkID : Uint32
  nValue : Uint64
  nTimeSigned : Uint64
  vchSig : Bytes

/-- The digest that is signed, and the id of the key a signature of it recovers. -/
structure SporkCrypto (Digest : Type) where
  hash : Bytes → Digest
  recover : Digest → Bytes → Option Bytes

/-- `std::to_string` of a signed number. -/
def decimal (n : Int) : Bytes :=
  (if n < 0 then [45] else []) ++ (Nat.toDigits 10 n.natAbs).map fun digit => UInt8.ofNat digit.toNat

def strMessageMagic : Bytes := ascii "BlackRaven Signed Message:\n"

namespace CSporkMessage

/-- The bytes behind the digest: the fields in the new format, and in the old one their
decimal texts, one directly after the other. -/
def signedBytes (spork : CSporkMessage) : (fSporkSixActive : Bool) → Bytes
  | true => u32.encode spork.nSporkID ++ (u64.encode spork.nValue ++ u64.encode spork.nTimeSigned)
  | false => writeString strMessageMagic ++ writeString
      (decimal spork.nSporkID.toInt ++ decimal spork.nValue.toInt ++ decimal spork.nTimeSigned.toInt)

variable {Digest : Type} (crypto : SporkCrypto Digest) (spork : CSporkMessage)

def getHash : Digest := crypto.hash (spork.signedBytes true ++ writeString spork.vchSig)

def verifyHash (pubKeyId : Bytes) (fSporkSixActive : Bool) : Bool :=
  crypto.recover (crypto.hash (spork.signedBytes fSporkSixActive)) spork.vchSig == some pubKeyId

/-- `CheckSignature`. The new format is taken in either case. -/
def checkSignature (pubKeyId : Bytes) (fSporkSixActive : Bool) : Bool :=
  if fSporkSixActive then spork.verifyHash crypto pubKeyId true
  else spork.verifyHash crypto pubKeyId false || spork.verifyHash crypto pubKeyId true

/-- The two checks of `CheckAndRemove`, one after the other. -/
def isSignedBy (pubKeyId : Bytes) : Bool :=
  spork.checkSignature crypto pubKeyId false || spork.checkSignature crypto pubKeyId true

end CSporkMessage

/-! ## CheckAndRemove -/

abbrev Signers := List (Bytes × CSporkMessage)

abbrev ByHash (Digest : Type) := List (Digest × CSporkMessage)

/-- The two maps of the manager, each in the order of its iterators. -/
structure SporkMaps (Digest : Type) where
  mapSporksActive : List (Uint32 × Signers)
  mapSporksByHash : ByHash Digest

variable {Digest : Type} [DecidableEq Digest] (crypto : SporkCrypto Digest) (keys : List Bytes)

/-- The loop over the signers of one spork, which ends within `fuel` rounds or not; `keys` is
`setSporkPubKeyIDs`. -/
def signerLoop : (fuel : Nat) → Signers → ByHash Digest → Option (Signers × ByHash Digest)
  | 0, _, _ => none
  | _ + 1, [], byHash => some ([], byHash)
  | fuel + 1, (signer, spork) :: rest, byHash =>
    let erased := byHash.filter fun entry => entry.1 != spork.getHash crypto
    -- The iterator stays at a signer that is no longer a key.
    if signer ∉ keys then signerLoop fuel ((signer, spork) :: rest) erased
    else if !spork.isSignedBy crypto signer then signerLoop fuel rest erased
    else (signerLoop fuel rest byHash).map fun (left, byHash) => ((signer, spork) :: left, byHash)

def activeLoop (fuel : Nat) : List (Uint32 × Signers) → ByHash Digest →
    Option (List (Uint32 × Signers) × ByHash Digest)
  | [], byHash => some ([], byHash)
  | (nSporkID, signers) :: rest, byHash => do
    let (left, byHash) ← signerLoop crypto keys fuel signers byHash
    let (others, byHash) ← activeLoop fuel rest byHash
    return (if left.isEmpty then others else (nSporkID, left) :: others, byHash)

/-- `none` when the assertion on the keys fails or a loop is still running after `fuel`
rounds. -/
def checkAndRemove (fuel : Nat) (maps : SporkMaps Digest) : Option (SporkMaps Digest) :=
  if keys.isEmpty then none
  else
    (activeLoop crypto keys fuel maps.mapSporksActive maps.mapSporksByHash).map
      fun (active, byHash) =>
        ⟨active, byHash.filter fun entry =>
          keys.any fun signer => entry.2.isSignedBy crypto signer⟩

/-! ## What is left -/

variable {crypto keys} {fuel : Nat} {signers left : Signers} {byHash after : ByHash Digest}

theorem signerLoop_left
    (ends : signerLoop crypto keys fuel signers byHash = some (left, after)) :
    (∀ entry ∈ signers, entry.1 ∈ keys)
      ∧ left = signers.filter fun entry => entry.2.isSignedBy crypto entry.1 := by
  induction fuel generalizing signers byHash left with
  | zero => cases ends
  | succ fuel ih =>
    cases signers with
    | nil =>
      cases ends
      exact ⟨nofun, rfl⟩
    | cons first rest =>
      unfold signerLoop at ends
      rw [List.forall_mem_cons]
      split at ends
      next gone => exact absurd ((ih ends).1 first List.mem_cons_self) gone
      next current =>
        rw [not_not] at current
        split at ends
        next refused =>
          obtain ⟨others, isLeft⟩ := ih ends
          rw [List.filter_cons_of_neg (by simpa using refused)]
          exact ⟨⟨current, others⟩, isLeft⟩
        next signed =>
          obtain ⟨⟨restLeft, _⟩, later, same⟩ := Option.map_eq_some_iff.mp ends
          cases same
          obtain ⟨others, isLeft⟩ := ih later
          rw [List.filter_cons_of_pos (by simpa using signed)]
          exact ⟨⟨current, others⟩, congrArg _ isLeft⟩

theorem signerLoop_isSome (crypto : SporkCrypto Digest) (byHash : ByHash Digest)
    (current : ∀ entry ∈ signers, entry.1 ∈ keys) (enough : signers.length < fuel) :
    ∃ result, signerLoop crypto keys fuel signers byHash = some result := by
  induction signers generalizing fuel byHash with
  | nil =>
    obtain ⟨fuel, rfl⟩ := Nat.exists_eq_succ_of_ne_zero (Nat.ne_zero_of_lt enough)
    exact ⟨_, rfl⟩
  | cons first rest ih =>
    obtain ⟨fuel, rfl⟩ := Nat.exists_eq_succ_of_ne_zero (Nat.ne_zero_of_lt enough)
    obtain ⟨isKey, others⟩ := List.forall_mem_cons.mp current
    unfold signerLoop
    rw [if_neg (not_not.mpr isKey)]
    have shorter : rest.length < fuel := Nat.lt_of_succ_lt_succ enough
    split
    · exact ih _ others shorter
    · obtain ⟨result, later⟩ := ih byHash others shorter
      rw [later]
      exact ⟨_, rfl⟩

theorem activeLoop_left {active left : List (Uint32 × Signers)}
    (ends : activeLoop crypto keys fuel active byHash = some (left, after)) :
    (∀ item ∈ active, ∀ entry ∈ item.2, entry.1 ∈ keys)
      ∧ left = (active.map fun item =>
        (item.1, item.2.filter fun entry => entry.2.isSignedBy crypto entry.1)).filter (!·.2.isEmpty) := by
  induction active generalizing byHash left with
  | nil =>
    cases ends
    exact ⟨nofun, rfl⟩
  | cons item rest ih =>
    obtain ⟨⟨kept, _⟩, first, ends⟩ := Option.bind_eq_some_iff.mp ends
    obtain ⟨⟨others, _⟩, later, same⟩ := Option.bind_eq_some_iff.mp ends
    cases same
    obtain ⟨current, rfl⟩ := signerLoop_left first
    obtain ⟨laterCurrent, rfl⟩ := ih later
    refine ⟨List.forall_mem_cons.mpr ⟨current, laterCurrent⟩, ?_⟩
    rw [List.map_cons, List.filter_cons]
    split
    next isEmpty => rw [if_neg (by simp [isEmpty])]
    next nonempty => rw [if_pos (by simpa using nonempty)]

theorem activeLoop_isSome {active : List (Uint32 × Signers)}
    (current : ∀ item ∈ active, ∀ entry ∈ item.2, entry.1 ∈ keys) :
    ∃ bound, ∀ fuel ≥ bound, ∀ byHash, ∃ result, activeLoop crypto keys fuel active byHash = some result := by
  induction active with
  | nil => exact ⟨0, fun _ _ _ => ⟨_, rfl⟩⟩
  | cons item rest ih =>
    obtain ⟨isCurrent, others⟩ := List.forall_mem_cons.mp current
    obtain ⟨bound, ends⟩ := ih others
    refine ⟨max bound (item.2.length + 1), fun fuel enough byHash => ?_⟩
    obtain ⟨⟨kept, between⟩, first⟩ := signerLoop_isSome crypto byHash isCurrent (le_of_max_le_right enough)
    obtain ⟨result, later⟩ := ends fuel (le_of_max_le_left enough) between
    exact ⟨_, Option.bind_eq_some_iff.mpr ⟨_, first, Option.bind_eq_some_iff.mpr ⟨_, later, rfl⟩⟩⟩

/-- The maps have this message of this signer for this spork. -/
def SporkMaps.Active (maps : SporkMaps Digest) (nSporkID : Uint32) (signer : Bytes) (spork : CSporkMessage) :
    Prop :=
  ∃ signers, (nSporkID, signers) ∈ maps.mapSporksActive ∧ (signer, spork) ∈ signers

/-- What loading a stored cache is to leave: of the active sporks those that a current key has
signed, and by hash no others. -/
structure Cleaned (crypto : SporkCrypto Digest) (keys : List Bytes)
    (maps after : SporkMaps Digest) : Prop where
  active : ∀ nSporkID signer spork, after.Active nSporkID signer spork ↔
    maps.Active nSporkID signer spork ∧ signer ∈ keys ∧ spork.isSignedBy crypto signer = true
  byHash : ∀ entry ∈ after.mapSporksByHash, ∃ signer ∈ keys, entry.2.isSignedBy crypto signer = true

theorem checkAndRemove_left {maps after : SporkMaps Digest}
    (ends : checkAndRemove crypto keys fuel maps = some after) :
    (∀ item ∈ maps.mapSporksActive, ∀ entry ∈ item.2, entry.1 ∈ keys) ∧ Cleaned crypto keys maps after := by
  unfold checkAndRemove at ends
  split at ends
  · cases ends
  obtain ⟨⟨active, byHash⟩, loop, isAfter⟩ := Option.map_eq_some_iff.mp ends
  cases isAfter
  obtain ⟨current, rfl⟩ := activeLoop_left loop
  refine ⟨current, fun nSporkID signer spork => ?_, fun entry member => ?_⟩
  · constructor
    · rintro ⟨signers, isItem, isEntry⟩
      obtain ⟨item, isOld, same⟩ := List.mem_map.mp (List.mem_filter.mp isItem).1
      cases same
      obtain ⟨isEntry, signed⟩ := List.mem_filter.mp isEntry
      exact ⟨⟨item.2, isOld, isEntry⟩, current item isOld _ isEntry, signed⟩
    · rintro ⟨⟨signers, isItem, isEntry⟩, -, signed⟩
      have isLeft : (signer, spork) ∈ signers.filter fun entry => entry.2.isSignedBy crypto entry.1 :=
        List.mem_filter.mpr ⟨isEntry, signed⟩
      refine ⟨_, List.mem_filter.mpr ⟨List.mem_map_of_mem isItem, ?_⟩, isLeft⟩
      simpa using List.ne_nil_of_mem isLeft
  · simpa using (List.mem_filter.mp member).2

/-- Loading ends, and with clean maps, exactly if there are keys and every signer of an active
spork is still one of them. -/
theorem checkAndRemove_cleans_iff (crypto : SporkCrypto Digest) (keys : List Bytes) (maps : SporkMaps Digest) :
    (∃ fuel after, checkAndRemove crypto keys fuel maps = some after
        ∧ Cleaned crypto keys maps after)
      ↔ keys ≠ [] ∧ ∀ nSporkID signer spork, maps.Active nSporkID signer spork → signer ∈ keys := by
  constructor
  · rintro ⟨fuel, after, ends, -⟩
    refine ⟨?_, ?_⟩
    · rintro rfl
      cases ends
    · rintro nSporkID signer spork ⟨signers, isItem, isEntry⟩
      exact (checkAndRemove_left ends).1 _ isItem _ isEntry
  · rintro ⟨nonempty, current⟩
    obtain ⟨fuel, ends⟩ := @activeLoop_isSome _ _ crypto _ _ fun item isItem entry isEntry =>
      current _ _ _ ⟨item.2, isItem, isEntry⟩
    obtain ⟨result, ends⟩ := ends fuel le_rfl maps.mapSporksByHash
    obtain ⟨after, cleans⟩ : ∃ after, checkAndRemove crypto keys fuel maps = some after :=
      ⟨_, by rw [checkAndRemove, if_neg (by simpa using nonempty), ends, Option.map_some]⟩
    exact ⟨fuel, after, cleans, (checkAndRemove_left cleans).2⟩

/-- One active spork whose signer is no longer a key: the loop never leaves it. -/
theorem checkAndRemove_diverges :
    let crypto : SporkCrypto Bytes := ⟨id, fun _ vchSig => some vchSig⟩
    let maps : SporkMaps Bytes := ⟨[(10001, [([1], ⟨10001, 0, 0, [1]⟩)])], []⟩
    ∀ fuel, checkAndRemove crypto [[2]] fuel maps = none := by
  intro crypto maps fuel
  cases ends : checkAndRemove crypto [[2]] fuel maps with
  | none => rfl
  | some after => exact absurd ((checkAndRemove_left ends).1 _ List.mem_cons_self _ List.mem_cons_self) (by decide)

end BlackRaven.Net
