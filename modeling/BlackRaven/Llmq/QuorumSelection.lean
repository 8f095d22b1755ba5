import BlackRaven.Llmq.Voting
import BlackRaven.Primitives.Transaction

/-!
Contract: `SelectQuorumForSigning` and `VerifyRecoveredSig` of `quorums_signing.cpp`.

Owns: the quorum a request is signed with, and the one a recovered signature is verified with.
`VerifyRecoveredSig` has an argument for the type and takes the type of ChainLocks instead.

Does not own: BLS, and the scan for the quorums mined up to a block.
-/

namespace BlackRaven.Llmq

open Lib Primitives

structure CQuorum (Key : Type) where
  quorumHash : Uint256
  quorumPublicKey : Key
  /-- The smartnodes of which `IsValidMember` holds. -/
  validMembers : List Uint256

structure SigningView (Key Sig : Type) where
  digests : Digests
  verifyInsecure : Key → Uint256 → Sig → Bool
  /-- `signingActiveQuorumCount` of the types in `llmqs`. -/
  llmqs : BitVec 8 → Option Nat
  llmqTypeChainLocks : BitVec 8
  /-- The hashes of the blocks, by height. -/
  chainActive : List Uint256
  scanQuorums : BitVec 8 → Uint256 → Nat → List (CQuorum Key)

inductive SelectError where
  /-- `llmqs.at` throws. -/
  | outOfRange
  /-- `ScanQuorums` follows a null pointer. -/
  | noBlock

namespace SigningView

variable {Key Sig : Type} (view : SigningView Key Sig) (llmqType : BitVec 8) (signHeight : Int)
  (id msgHash : Uint256) (sig : Sig)

def height : Int := view.chainActive.length - 1

def blockAt (nHeight : Int) : Option Uint256 :=
  if nHeight < 0 then none else view.chainActive[nHeight.toNat]?

def signHeightOffset : Int := 8

def getActiveQuorumSet : Except SelectError (List (CQuorum Key)) :=
  match view.llmqs llmqType with
  | none => .error .outOfRange
  | some poolSize =>
    let startBlockHeight := signHeight - signHeightOffset
    if startBlockHeight > view.height then .ok []
    else match view.blockAt startBlockHeight with
      | none => .error .noBlock
      | some pindexStart => .ok (view.scanQuorums llmqType pindexStart poolSize)

/-- The scores are compared as the bytes they are stored in, then by their positions. -/
def selectQuorumForSigning : Except SelectError (Option (CQuorum Key)) :=
  (view.getActiveQuorumSet llmqType signHeight).map fun quorums =>
    let scores : List (Bytes × Nat) := quorums.zipIdx.map fun item =>
      (u256.encode (view.digests.hash ((word 8 rfl).encode llmqType
        ++ u256.encode item.1.quorumHash ++ u256.encode id)), item.2)
    (scores.mergeSort fun left right => (pairOrder left right).isLE).head?.bind fun front =>
      quorums[front.2]?

def buildSignHash (quorumHash : Uint256) : Uint256 :=
  view.digests.hash ((word 8 rfl).encode llmqType ++ u256.encode quorumHash ++ u256.encode id
    ++ u256.encode msgHash)

def verifyRecoveredSig (_llmqType : BitVec 8) : Except SelectError Bool :=
  let llmqType := view.llmqTypeChainLocks
  (view.selectQuorumForSigning llmqType signHeight id).map fun
    | none => false
    | some quorum => view.verifyInsecure quorum.quorumPublicKey
        (view.buildSignHash llmqType id msgHash quorum.quorumHash) sig

/-- The signature verifies under the key of the quorum that is selected for the type. -/
def VerifiesUnder : Prop :=
  ∃ quorum, view.selectQuorumForSigning llmqType signHeight id = .ok (some quorum)
    ∧ view.verifyInsecure quorum.quorumPublicKey
      (view.buildSignHash llmqType id msgHash quorum.quorumHash) sig = true

/-- What `AsyncSignIfMember` finds for a call, at the tip. -/
def quorumOfCall (proTxHash : Uint256) : Except SelectError (Option Bool) :=
  (view.selectQuorumForSigning llmqType view.height id).map fun selected =>
    selected.map fun quorum => quorum.validMembers.contains proTxHash

/-! ## One quorum for signer and verifier -/

/-- Two nodes with the same block where the scan for the quorums of a height starts. -/
structure SameStart (signer verifier : SigningView Key Sig) : Prop where
  digests : signer.digests = verifier.digests
  llmqs : signer.llmqs = verifier.llmqs
  scanQuorums : signer.scanQuorums = verifier.scanQuorums
  block : signer.blockAt (signer.height - signHeightOffset) = verifier.blockAt (signer.height - signHeightOffset)

variable {view llmqType signHeight id msgHash sig} {signer verifier : SigningView Key Sig} {other : BitVec 8}

/-- A node selects at its tip the quorum that the other selects for the height of the tip. -/
theorem SameStart.select (same : SameStart signer verifier) (llmqType : BitVec 8) (id : Uint256) :
    signer.selectQuorumForSigning llmqType signer.height id
      = verifier.selectQuorumForSigning llmqType signer.height id := by
  have reached : ¬ signer.height - signHeightOffset > signer.height := by
    unfold signHeightOffset
    omega
  have verifierReached : ¬ signer.height - signHeightOffset > verifier.height := by
    intro above
    have block := same.block
    unfold blockAt height signHeightOffset at *
    rw [if_neg (by omega), if_neg (by omega), List.getElem?_eq_getElem (by omega),
      List.getElem?_eq_none (by omega)] at block
    cases block
  unfold selectQuorumForSigning getActiveQuorumSet
  simp only [same.digests, same.llmqs, same.scanQuorums, same.block, if_neg reached, if_neg verifierReached]

/-- The quorum that is selected for a request under one type can sign it, and the signature does
not verify under the key of the quorum that is selected under the other. -/
structure Apart (view : SigningView Key Sig) (llmqType other : BitVec 8) (signHeight : Int) (id msgHash : Uint256) :
    Prop where
  signable : ∀ quorum, view.selectQuorumForSigning llmqType signHeight id = .ok (some quorum) →
    ∃ sig, view.VerifiesUnder llmqType signHeight id msgHash sig
  binding : ∀ sig, view.VerifiesUnder llmqType signHeight id msgHash sig →
    ¬ view.VerifiesUnder other signHeight id msgHash sig

/-- What every signature of verifies under another type as well has no quorum. -/
theorem Apart.no_quorum (apart : Apart view llmqType other signHeight id msgHash)
    (same : ∀ sig, view.VerifiesUnder llmqType signHeight id msgHash sig →
      view.VerifiesUnder other signHeight id msgHash sig) (quorum : CQuorum Key) :
    view.selectQuorumForSigning llmqType signHeight id ≠ .ok (some quorum) := by
  intro selects
  obtain ⟨sig, verifies⟩ := apart.signable quorum selects
  exact apart.binding sig verifies (same sig verifies)

/-- A node that signs a request does so as a member of the quorum of its type. -/
theorem SameStart.signs (same : SameStart signer verifier) {db : RecoveredSigsDb} {call : SignCall}
    {proTxHash : Uint256} (isQuorum : signer.quorumOfCall llmqType id proTxHash = .ok call.quorum)
    (starts : started db call = some ((llmqType, id), msgHash)) :
    ∃ quorum, verifier.selectQuorumForSigning llmqType signer.height id = .ok (some quorum)
      ∧ proTxHash ∈ quorum.validMembers := by
  rw [(started_eq_some starts).1.2.2] at isQuorum
  obtain ⟨selected, selects, isMember⟩ := map_eq_ok.mp isQuorum
  obtain ⟨quorum, rfl, isValid⟩ := Option.map_eq_some_iff.mp isMember
  rw [same.select] at selects
  exact ⟨quorum, selects, List.contains_iff_mem.mp isValid⟩

theorem verifyRecoveredSig_accepts :
    view.verifyRecoveredSig signHeight id msgHash sig llmqType = .ok true
      ↔ view.VerifiesUnder view.llmqTypeChainLocks signHeight id msgHash sig := by
  unfold verifyRecoveredSig VerifiesUnder
  dsimp only
  rcases view.selectQuorumForSigning view.llmqTypeChainLocks signHeight id with failed | _ | quorum <;>
    simp [Except.map]

/-- What `VerifyRecoveredSig` accepts for a request is what verifies under the quorum of its type, if
the type is that of ChainLocks or neither type has a quorum. Where signatures of the two quorums for
the request can be told apart there is no other case. A node that signs the request when its tip has
the height does so as a member of the quorum of the type. -/
theorem verifyRecoveredSig_matches_iff (verifier : SigningView Key Sig) (llmqType : BitVec 8)
    (signHeight : Int) (id : Uint256) :
    let chainLocks := verifier.llmqTypeChainLocks
    let Matches := ∀ msgHash sig, verifier.verifyRecoveredSig signHeight id msgHash sig llmqType = .ok true
      ↔ verifier.VerifiesUnder llmqType signHeight id msgHash sig
    let SameQuorum := llmqType = chainLocks ∨ ∀ type ∈ [llmqType, chainLocks], ∀ quorum,
      verifier.selectQuorumForSigning type signHeight id ≠ .ok (some quorum)
    (SameQuorum → Matches)
      ∧ (∀ msgHash, Apart verifier llmqType chainLocks signHeight id msgHash →
        Apart verifier chainLocks llmqType signHeight id msgHash → Matches → SameQuorum)
      ∧ ∀ signer, SameStart signer verifier → signer.height = signHeight → ∀ db call msgHash proTxHash,
        signer.quorumOfCall llmqType id proTxHash = .ok call.quorum →
        started db call = some ((llmqType, id), msgHash) →
          ∃ quorum, verifier.selectQuorumForSigning llmqType signHeight id = .ok (some quorum)
            ∧ proTxHash ∈ quorum.validMembers := by
  intro chainLocks Matches SameQuorum
  simp only [Matches, SameQuorum, verifyRecoveredSig_accepts]
  refine ⟨?_, fun msgHash apart reverse matched => .inr ?_, ?_⟩
  · rintro (isChainLocks | noQuorum) msgHash sig
    · rw [isChainLocks]
    · have never : ∀ type ∈ [llmqType, chainLocks], ¬ verifier.VerifiesUnder type signHeight id msgHash sig :=
        fun type member ⟨quorum, selects, _⟩ => noQuorum type member quorum selects
      exact iff_of_false (never _ (by simp [chainLocks])) (never _ (by simp))
  · refine List.forall_mem_cons.mpr ⟨?_, List.forall_mem_singleton.mpr ?_⟩
    · exact apart.no_quorum fun sig => (matched msgHash sig).mpr
    · exact reverse.no_quorum fun sig => (matched msgHash sig).mp
  · rintro signer same rfl db call msgHash proTxHash isQuorum starts
    exact same.signs isQuorum starts

/-- What the quorum 7 of type 1 and the quorum 8 of type 2 sign for the request 0 on the message 0. -/
def firstHash : Uint256 := 0xa25c75aeeb3d46baeb957552e6a3aa026872747daeb5a8fca52f2d7b536e7ead
def secondHash : Uint256 := 0xaf3dff98d23b2b42e82266cbecb000be78ba6da536f8a9e8b0b8f4b61305962e

/-- Two types with a quorum each. A signature names its key and its hash. -/
def twoTypes : SigningView Uint256 (Uint256 × Uint256) where
  digests := Digests.tabulated
    (Digests.hashRows [([1] ++ u256.encode 7 ++ u256.encode 0 ++ u256.encode 0,
      0x38109cf3a76570c53b5fc8d71d67d089b8890b99929afe73e66ef51675facdf0, firstHash.toNat),
    ([2] ++ u256.encode 8 ++ u256.encode 0 ++ u256.encode 0,
      0xa27b81d648de09f88d7f4bf232ce15694963acd25fbd4f3cb507a0f85bd4edf0, secondHash.toNat)])
    (by decide)
  verifyInsecure := fun key hash sig => sig == (key, hash)
  llmqs := fun llmqType => if llmqType = 1 ∨ llmqType = 2 then some 2 else none
  llmqTypeChainLocks := 2
  chainActive := List.replicate 9 0
  scanQuorums := fun llmqType _ _ => if llmqType = 1 then [⟨7, 70, [1]⟩] else [⟨8, 80, [2]⟩]

theorem twoTypes_selects :
    twoTypes.selectQuorumForSigning 1 8 0 = .ok (some ⟨7, 70, [1]⟩)
      ∧ twoTypes.selectQuorumForSigning 2 8 0 = .ok (some ⟨8, 80, [2]⟩) := by
  constructor <;>
    simp [selectQuorumForSigning, getActiveQuorumSet, twoTypes, height, blockAt, signHeightOffset, Except.map]

theorem twoTypes_verifies {sig : Uint256 × Uint256} :
    (twoTypes.VerifiesUnder 1 8 0 0 sig ↔ sig = (70, firstHash))
      ∧ (twoTypes.VerifiesUnder 2 8 0 0 sig ↔ sig = (80, secondHash)) := by
  have hashes : twoTypes.buildSignHash 1 0 0 7 = firstHash ∧ twoTypes.buildSignHash 2 0 0 8 = secondHash := by
    decide
  unfold VerifiesUnder
  rw [twoTypes_selects.1, twoTypes_selects.2]
  simp only [Except.ok.injEq, Option.some.injEq, ↓existsAndEq, true_and, hashes.1, hashes.2]
  exact ⟨beq_iff_eq, beq_iff_eq⟩

/-- A signature of the quorum of another type than that of ChainLocks is refused. -/
theorem otherType_refused :
    let sig := (70, firstHash)
    twoTypes.VerifiesUnder 1 8 0 0 sig ∧ twoTypes.verifyRecoveredSig 8 0 0 sig 1 = .ok false := by
  refine ⟨twoTypes_verifies.1.mpr rfl, ?_⟩
  rw [verifyRecoveredSig]
  change Except.map _ (twoTypes.selectQuorumForSigning 2 8 0) = _
  rw [twoTypes_selects.2]
  exact congrArg Except.ok (by decide)

/-- The two quorums can be told apart, so type 1 is not verified as it is signed. -/
theorem twoTypes_not_matched :
    ¬ ∀ msgHash sig, twoTypes.verifyRecoveredSig 8 0 msgHash sig 1 = .ok true
      ↔ twoTypes.VerifiesUnder 1 8 0 msgHash sig := by
  intro matched
  have apart : Apart twoTypes 1 2 8 0 0 := ⟨fun _ _ => ⟨_, twoTypes_verifies.1.mpr rfl⟩, fun sig first second =>
    absurd ((twoTypes_verifies.1.mp first).symm.trans (twoTypes_verifies.2.mp second)) (by decide)⟩
  have reverse : Apart twoTypes 2 1 8 0 0 := ⟨fun _ _ => ⟨_, twoTypes_verifies.2.mpr rfl⟩, fun sig first second =>
    apart.binding sig second first⟩
  rcases (verifyRecoveredSig_matches_iff twoTypes 1 8 0).2.1 0 apart reverse matched with isChainLocks | noQuorum
  · exact absurd isChainLocks (by decide)
  · exact noQuorum 1 (by simp) _ twoTypes_selects.1

end SigningView

end BlackRaven.Llmq
