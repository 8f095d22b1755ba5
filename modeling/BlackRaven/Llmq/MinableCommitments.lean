import BlackRaven.Evo.LLMQ

/-!
Contract: the minable commitments of `llmq/quorums_blockprocessor.cpp`.

Owns: what `ProcessMessage` and `UndoBlock` put into the two maps, and which commitment of a
quorum is left there after any sequence of them.

Does not own: the hash of a commitment and its verification, which are parameters, and the
punishment of a peer.
-/

namespace BlackRaven.Llmq

open Consensus Evo Lib

/-! ## The maps -/

abbrev QuorumKey := BitVec 8 × Uint256

def quorumOf (qc : CFinalCommitment) : QuorumKey := (qc.llmqType, qc.quorumHash)

structure MinableCommitments (Hash : Type) where
  minableCommitmentsByQuorum : QuorumKey → Option Hash := fun _ => none
  minableCommitments : Hash → Option CFinalCommitment := fun _ => none

/-- What `ProcessMessage` reads of the chain. -/
structure QuorumView where
  llmqs : LLMQs
  /-- `mapBlockIndex`, with the height of an entry. -/
  height : Uint256 → Option Nat
  /-- `chainActive.Tip()->GetAncestor(pquorumIndex->nHeight) == pquorumIndex`. -/
  isActive : Uint256 → Bool
  /-- `qc.Verify(members, true)`. -/
  verify : CFinalCommitment → Bool

/-- A commitment from a peer, or one of a block that is undone. -/
inductive Offer where
  | received (view : QuorumView) (qc : CFinalCommitment)
  | undone (qc : CFinalCommitment)

/-- What `ProcessMessage` checks before it looks into the maps. -/
def QuorumView.admits (view : QuorumView) (qc : CFinalCommitment) : Bool :=
  !qc.isNull && (view.llmqs.find qc.llmqType).any fun params =>
    (view.height qc.quorumHash).any fun nHeight =>
      view.isActive qc.quorumHash && nHeight - nHeight % params.dkgInterval == nHeight

/-- The commitment that is offered, if it is valid. -/
def Offer.valid : Offer → Option CFinalCommitment
  | .received view qc => if view.admits qc && view.verify qc then some qc else none
  | .undone qc => if qc.isNull then none else some qc

namespace MinableCommitments

variable {Hash : Type} [DecidableEq Hash] (hash : CFinalCommitment → Hash)
  (s : MinableCommitments Hash) (qc : CFinalCommitment)

def kept (quorum : QuorumKey) : Option CFinalCommitment :=
  (s.minableCommitmentsByQuorum quorum).bind s.minableCommitments

/-- The look-up at the end of `GetMinableCommitment`. -/
def find (quorum : QuorumKey) : Except Failure (Option CFinalCommitment) :=
  match s.minableCommitmentsByQuorum quorum with
  | none => .ok none
  | some held => (required (.thrown "map::at") (s.minableCommitments held)).map some

/-- `AddMinableCommitment`. The reference is overwritten before its target is erased, so
the hash that is erased is the new one. -/
def add : Except Failure (MinableCommitments Hash) :=
  let byQuorum := Function.update s.minableCommitmentsByQuorum (quorumOf qc) (some (hash qc))
  match s.minableCommitmentsByQuorum (quorumOf qc) with
  | none =>
    let stored := (s.minableCommitments (hash qc)).getD qc
    .ok ⟨byQuorum, Function.update s.minableCommitments (hash qc) (some stored)⟩
  | some held =>
    match s.minableCommitments held with
    | none => .error (.thrown "map::at")
    | some oldFqc =>
      if qc.countSigners > oldFqc.countSigners then
        .ok ⟨byQuorum, Function.update s.minableCommitments (hash qc) (some qc)⟩
      else .ok s

def processMessage (view : QuorumView) : Except Failure (MinableCommitments Hash) :=
  if !view.admits qc then .ok s
  else if (s.kept (quorumOf qc)).any fun known => known.countSigners ≤ qc.countSigners then .ok s
  else if !view.verify qc then .ok s
  else s.add hash qc

def take : Offer → Except Failure (MinableCommitments Hash)
  | .received view qc => s.processMessage hash qc view
  | .undone qc => if qc.isNull then .ok s else s.add hash qc

def store : MinableCommitments Hash :=
  ⟨Function.update s.minableCommitmentsByQuorum (quorumOf qc) (some (hash qc)),
    Function.update s.minableCommitments (hash qc) (some qc)⟩

/-! ## What is kept -/

variable (offered : List CFinalCommitment)

def firstOf (quorum : QuorumKey) : Option CFinalCommitment :=
  offered.find? (quorumOf · = quorum)

/-- No offered commitment has more signers than the one that `chosen` has for its quorum. -/
def BestIn (chosen : QuorumKey → Option CFinalCommitment) : Prop :=
  ∀ qc ∈ offered, ∃ best ∈ chosen (quorumOf qc), qc.countSigners ≤ best.countSigners

structure KeepsBest : Prop where
  valid : ∀ quorum, ∀ qc ∈ s.kept quorum, qc ∈ offered ∧ quorumOf qc = quorum
  best : BestIn offered s.kept
  referenced : ∀ key, (s.minableCommitments key).isSome
    ↔ ∃ quorum, s.minableCommitmentsByQuorum quorum = some key

/-- Every quorum has its first commitment, and nothing else is stored. -/
def Unreplaced : Prop :=
  (∀ quorum, s.kept quorum = firstOf offered quorum)
    ∧ ∀ key qc, s.minableCommitments key = some qc → s.kept (quorumOf qc) = some qc

/-- A commitment that has given way to one with more signers is still stored. -/
def Replaced : Prop :=
  ∃ key old first now, s.minableCommitments key = some old
    ∧ firstOf offered (quorumOf old) = some first ∧ s.kept (quorumOf old) = some now
    ∧ first.countSigners ≤ old.countSigners ∧ old.countSigners < now.countSigners

structure Tracks : Prop where
  stored : ∀ key qc, s.minableCommitments key = some qc → qc ∈ offered ∧ hash qc = key
  found : ∀ quorum key, s.minableCommitmentsByQuorum quorum = some key →
    ∃ qc, s.minableCommitments key = some qc ∧ quorumOf qc = quorum
  history : Unreplaced s offered ∨ Replaced s offered

/-- `SerializeHash` tells the offered commitments apart. -/
def NoCollision : Prop := ∀ first ∈ offered, ∀ second ∈ offered, hash first = hash second → first = second

/-- A commitment is stored for a quorum that has none, or over one with fewer signers. -/
inductive Takes : MinableCommitments Hash → Prop
  | store (fewer : ∀ old ∈ s.kept (quorumOf qc), old.countSigners < qc.countSigners) :
      Takes (s.store hash qc)
  | keep {old : CFinalCommitment} (known : s.kept (quorumOf qc) = some old) : Takes s

variable {hash s qc offered}

omit [DecidableEq Hash] in
theorem Tracks.kept_stored (tracks : Tracks hash s offered) {quorum : QuorumKey}
    {qc : CFinalCommitment} (kept : s.kept quorum = some qc) :
    qc ∈ offered ∧ quorumOf qc = quorum ∧ s.minableCommitmentsByQuorum quorum = some (hash qc) := by
  obtain ⟨key, refers, stored⟩ := Option.bind_eq_some_iff.mp kept
  grind [tracks.found quorum key refers, tracks.stored key qc stored]

omit [DecidableEq Hash] in
theorem Tracks.keepsBest_iff (tracks : Tracks hash s offered) :
    KeepsBest s offered ↔ BestIn offered (firstOf offered) := by
  obtain ⟨keptFirst, onlyKept⟩ | ⟨key, old, first, now, stored, isFirst, isKept, grown, fewer⟩ := tracks.history
  · rw [← funext keptFirst]
    refine ⟨KeepsBest.best, fun best => ⟨fun _ _ kept => ?_, best, fun key => ⟨fun held => ?_, ?_⟩⟩⟩
    · exact (tracks.kept_stored kept).imp_right And.left
    · obtain ⟨qc, held⟩ := Option.isSome_iff_exists.mp held
      obtain ⟨-, -, refers⟩ := tracks.kept_stored (onlyKept key qc held)
      exact ⟨_, refers.trans (congrArg some (tracks.stored key qc held).2)⟩
    · rintro ⟨quorum, refers⟩
      obtain ⟨qc, held, -⟩ := tracks.found quorum key refers
      exact Option.isSome_of_eq_some held
  · have nowKept := tracks.kept_stored isKept
    refine iff_of_false (fun keeps => ?_) fun first => ?_
    · -- The reference to the old commitment could only be its own quorum's, which has moved on.
      obtain ⟨quorum, refers⟩ := (keeps.referenced key).mp (Option.isSome_of_eq_some stored)
      grind [tracks.found quorum key refers, kept]
    · grind [first now nowKept.1]

section Run

variable {next : MinableCommitments Hash}

theorem firstOf_append (quorum : QuorumKey) : firstOf (offered ++ [qc]) quorum
    = (firstOf offered quorum).or (if quorumOf qc = quorum then some qc else none) := by
  simp [firstOf, List.find?_append, List.find?_singleton]

variable (tracks : Tracks hash s offered) (distinct : NoCollision hash (offered ++ [qc]))

include tracks distinct

omit [DecidableEq Hash] in
theorem eq_of_hash {key : Hash} {other : CFinalCommitment} (stored : s.minableCommitments key = some other)
    (same : hash other = hash qc) : other = qc :=
  distinct other (List.mem_append_left _ (tracks.stored key other stored).1) qc (by simp) same

theorem kept_store (quorum : QuorumKey) :
    (s.store hash qc).kept quorum = if quorum = quorumOf qc then some qc else s.kept quorum := by
  unfold kept store
  by_cases same : quorum = quorumOf qc
  · simp [same]
  rw [if_neg same]
  simp only [Function.update_of_ne same]
  cases refers : s.minableCommitmentsByQuorum quorum with
  | none => rfl
  | some key =>
    obtain ⟨other, stored, isQuorum⟩ := tracks.found quorum key refers
    obtain ⟨-, rfl⟩ := tracks.stored key other stored
    have differs : hash other ≠ hash qc := fun equal => same (eq_of_hash tracks distinct stored equal ▸ isQuorum.symm)
    exact Function.update_of_ne differs _ _

theorem add_takes : ∃ next, s.add hash qc = .ok next ∧ Takes hash s qc next := by
  unfold add
  cases refers : s.minableCommitmentsByQuorum (quorumOf qc) with
  | none =>
    have stored : (s.minableCommitments (hash qc)).getD qc = qc := by
      cases held : s.minableCommitments (hash qc) with
      | none => rfl
      | some other => exact eq_of_hash tracks distinct held (tracks.stored _ other held).2
    refine ⟨_, rfl, ?_⟩
    rw [stored]
    exact .store (by simp [kept, refers])
  | some held =>
    obtain ⟨old, stored, -⟩ := tracks.found _ held refers
    have known : s.kept (quorumOf qc) = some old := by rw [kept, refers]; exact stored
    simp only [stored]
    split
    · exact ⟨_, rfl, .store (by simpa [known])⟩
    · exact ⟨s, rfl, .keep known⟩

theorem Unreplaced.takes (unreplaced : Unreplaced s offered) (takes : Takes hash s qc next) :
    Unreplaced next (offered ++ [qc]) ∨ Replaced next (offered ++ [qc]) := by
  have keptStore := kept_store tracks distinct
  obtain ⟨keptFirst, onlyKept⟩ := unreplaced
  cases takes with
  | keep known => exact .inl ⟨by grind [firstOf_append], onlyKept⟩
  | store fewer =>
    cases known : s.kept (quorumOf qc) with
    | none =>
      refine .inl ⟨by grind [firstOf_append], fun key other stored => ?_⟩
      have stored := (Function.update_apply ..).symm.trans stored
      grind
    | some old =>
      obtain ⟨key, refers, stored⟩ := Option.bind_eq_some_iff.mp known
      have isQuorum : quorumOf old = quorumOf qc := by grind [tracks.found _ key refers]
      obtain ⟨-, rfl⟩ := tracks.stored key old stored
      have same := eq_of_hash tracks distinct stored
      refine .inr ⟨hash old, old, old, qc, ?_, by grind [firstOf_append], by grind, le_rfl, fewer old known⟩
      exact (Function.update_of_ne (by grind) ..).trans stored

theorem Replaced.takes (replaced : Replaced s offered) (takes : Takes hash s qc next) :
    Replaced next (offered ++ [qc]) := by
  have keptStore := kept_store tracks distinct
  obtain ⟨key, old, first, now, stored, isFirst, isKept, grown, fewer⟩ := replaced
  have isFirst : firstOf (offered ++ [qc]) (quorumOf old) = some first := by
    rw [firstOf_append, isFirst]; rfl
  obtain ⟨-, rfl⟩ := tracks.stored key old stored
  have same := eq_of_hash tracks distinct stored
  cases takes with
  | store more =>
    refine ⟨hash old, old, first, if quorumOf old = quorumOf qc then qc else now, ?_, isFirst,
      by grind, grown, by grind⟩
    exact (Function.update_of_ne (by grind) ..).trans stored
  | keep known => exact ⟨_, old, first, now, stored, isFirst, isKept, grown, fewer⟩

theorem Tracks.takes (takes : Takes hash s qc next) : Tracks hash next (offered ++ [qc]) := by
  have history : Unreplaced next (offered ++ [qc]) ∨ Replaced next (offered ++ [qc]) :=
    tracks.history.elim (Unreplaced.takes tracks distinct · takes)
      (.inr <| Replaced.takes tracks distinct · takes)
  have widen : ∀ {key other}, s.minableCommitments key = some other →
      other ∈ offered ++ [qc] ∧ hash other = key := fun held =>
    (tracks.stored _ _ held).imp_left (List.mem_append_left _)
  have storedNext : ∀ key, (s.store hash qc).minableCommitments key
      = if key = hash qc then some qc else s.minableCommitments key := Function.update_apply _ _ _
  have refersNext : ∀ quorum, (s.store hash qc).minableCommitmentsByQuorum quorum
      = if quorum = quorumOf qc then some (hash qc) else s.minableCommitmentsByQuorum quorum :=
    Function.update_apply _ _ _
  have found := tracks.found
  have same : ∀ {key other}, s.minableCommitments key = some other → hash other = hash qc → other = qc :=
    eq_of_hash tracks distinct
  cases takes with
  | keep known => exact ⟨fun _ _ => widen, tracks.found, history⟩
  | store _ => exact ⟨by grind, by grind, history⟩

end Run

theorem take_ok (tracks : Tracks hash s offered) (offer : Offer)
    (distinct : ∀ qc ∈ offer.valid, NoCollision hash (offered ++ [qc])) :
    ∃ next, s.take hash offer = .ok next
      ∧ ((offer.valid = none ∧ next = s) ∨ ∃ qc, offer.valid = some qc ∧ Takes hash s qc next) := by
  cases offer with
  | undone qc =>
    by_cases null : qc.isNull = true
    · exact ⟨s, if_pos null, .inl ⟨if_pos null, rfl⟩⟩
    · obtain ⟨next, adds, takes⟩ := add_takes tracks (distinct qc (if_neg null))
      exact ⟨next, (if_neg null).trans adds, .inr ⟨qc, if_neg null, takes⟩⟩
  | received view qc =>
    simp only [take, processMessage, Offer.valid] at distinct ⊢
    cases admitted : view.admits qc with
    | false => exact ⟨s, rfl, .inl ⟨rfl, rfl⟩⟩
    | true =>
      cases verified : view.verify qc with
      | false => simp
      | true =>
        obtain ⟨next, adds, takes⟩ := add_takes tracks (distinct qc (by simp [admitted, verified]))
        cases known : s.kept (quorumOf qc) with
        | none => simp [adds, takes]
        | some old =>
          simp only [Bool.not_true, Bool.false_eq_true, if_false, Option.any_some]
          split
          · exact ⟨s, rfl, .inr ⟨qc, rfl, .keep known⟩⟩
          · exact ⟨next, adds, .inr ⟨qc, rfl, takes⟩⟩

theorem Tracks.run (offers : List Offer) (tracks : Tracks hash s offered)
    (distinct : NoCollision hash (offered ++ offers.filterMap Offer.valid)) :
    ∃ final, offers.foldlM (take hash) s = .ok final
      ∧ Tracks hash final (offered ++ offers.filterMap Offer.valid) := by
  induction offers generalizing s offered with
  | nil => exact ⟨s, rfl, by simpa using tracks⟩
  | cons offer rest ih =>
    have onOffer : ∀ qc ∈ offer.valid, NoCollision hash (offered ++ [qc]) := by
      intro qc valid first isFirst second isSecond
      rw [List.filterMap_cons_some valid, List.append_cons] at distinct
      exact distinct first (List.mem_append_left _ isFirst) second (List.mem_append_left _ isSecond)
    obtain ⟨next, taken, cases⟩ := take_ok tracks offer onOffer
    rw [List.foldlM_cons, taken]
    obtain ⟨invalid, rfl⟩ | ⟨qc, valid, takes⟩ := cases
    · rw [List.filterMap_cons_none invalid] at distinct ⊢
      exact ih tracks distinct
    · rw [List.filterMap_cons_some valid, List.append_cons] at distinct ⊢
      exact ih (tracks.takes (onOffer qc valid) takes) distinct

theorem run_keepsBest_iff (offers : List Offer) (distinct : NoCollision hash (offers.filterMap Offer.valid)) :
    ∃ s : MinableCommitments Hash, offers.foldlM (take hash) {} = .ok s
      ∧ (∀ quorum, ∃ found, s.find quorum = .ok found)
      ∧ let offered := offers.filterMap Offer.valid
        KeepsBest s offered ↔ BestIn offered (firstOf offered) := by
  have start : Tracks hash {} [] := ⟨by simp, by simp, .inl ⟨fun _ => rfl, by simp⟩⟩
  obtain ⟨s, runs, tracks⟩ := start.run offers distinct
  refine ⟨s, runs, fun quorum => ?_, tracks.keepsBest_iff⟩
  unfold find
  cases refers : s.minableCommitmentsByQuorum quorum with
  | none => exact ⟨none, rfl⟩
  | some key =>
    obtain ⟨qc, stored, -⟩ := tracks.found quorum key refers
    exact ⟨some qc, by simp only [stored]; rfl⟩

/-- A commitment of a quorum of three, all of them valid members. -/
def signed (signers : List Bool) : CFinalCommitment :=
  ⟨1, 1, 0, signers, [true, true, true], 1, 1, 1, 1⟩

def twoSigners : CFinalCommitment := signed [true, true, false]
def threeSigners : CFinalCommitment := signed [true, true, true]

/-- `SerializeHash` of the two, worked out. -/
def serializeHash (qc : CFinalCommitment) : Uint256 :=
  if qc = twoSigners then 0xfd0255158b47f8ffbedd264a2867fe9a03e6101df9cdc9ab2814c5fc612413b2
  else 0xe50e6050ebbbfdbad117c681a6755d240786fcf8fe96ceaec9a46d05457bce7d

/-- Of two commitments from peers the one with more signers is dropped, and of two from
undone blocks the one with fewer stays without a reference. -/
theorem better_dropped :
    let view : QuorumView := ⟨regTestSmartnodeParams.llmqs, fun _ => some 0, fun _ => true, fun _ => true⟩
    let taken (offers : List Offer) := (offers.foldlM (take serializeHash) {}).toOption
    (taken [.received view twoSigners, .received view threeSigners]).map (·.kept (1, 0))
        = some (some twoSigners)
      ∧ (taken [.undone twoSigners, .undone threeSigners]).map
        (fun s => (s.kept (1, 0), s.minableCommitments (serializeHash twoSigners)))
          = some (some threeSigners, some twoSigners) := by
  decide +kernel

theorem best_first :
    ∃ s, [Offer.undone threeSigners, .undone twoSigners].foldlM (take serializeHash) {} = .ok s
      ∧ KeepsBest s [threeSigners, twoSigners] := by
  obtain ⟨s, runs, -, keeps⟩ := @run_keepsBest_iff _ _ serializeHash
    [.undone threeSigners, .undone twoSigners] (by unfold NoCollision; decide +kernel)
  exact ⟨s, runs, keeps.mpr (by unfold BestIn; decide)⟩

end MinableCommitments

end BlackRaven.Llmq
