import BlackRaven.Lib.Outcome
import BlackRaven.Lib.SortedMap
import BlackRaven.Primitives.Integers
import Mathlib.Logic.Function.Basic

/-!
Contract: `CRecoveredSigsDb` and `AsyncSignIfMember` of `quorums_signing.cpp`.

Owns: the votes of a node with the times they were cast, the recovered signatures as far as
the decision to sign reads them, their cleanup, and when a node signs a second message for a
request.

Does not own: the choice of a quorum and the making of signature shares. Whether a quorum is
found and the node is a valid member of it is part of a call.
-/

namespace BlackRaven.Llmq

abbrev SignKey := BitVec 8 × Uint256

/-! ## The database -/

/-- The records under `rs_r`, `rs_t`, `rs_v` and `rs_vt`, and the cache over `rs_r`. A recovered
signature is kept as its message hash. -/
structure RecoveredSigsDb where
  rs_r : SignKey → Option Uint256
  rs_t : List (Uint32 × SignKey)
  hasSigForIdCache : SignKey → Option Bool
  rs_v : SignKey → Option Uint256
  rs_vt : List (Uint32 × SignKey)

def RecoveredSigsDb.empty : RecoveredSigsDb := ⟨fun _ => none, [], fun _ => none, fun _ => none, []⟩

/-- `HasRecoveredSigForId`, which fills the cache. -/
def hasRecoveredSigForId (db : RecoveredSigsDb) (key : SignKey) : Bool × RecoveredSigsDb :=
  match db.hasSigForIdCache key with
  | some ret => (ret, db)
  | none =>
    let ret := (db.rs_r key).isSome
    (ret, { db with hasSigForIdCache := Function.update db.hasSigForIdCache key (some ret) })

def writeVoteForId (db : RecoveredSigsDb) (key : SignKey) (msgHash : Uint256) (now : Int) : RecoveredSigsDb :=
  { db with
    rs_v := Function.update db.rs_v key (some msgHash)
    rs_vt := (BitVec.ofInt 32 now, key) :: db.rs_vt }

def writeRecoveredSig (db : RecoveredSigsDb) (key : SignKey) (msgHash : Uint256) (now : Int) : RecoveredSigsDb :=
  { db with
    rs_r := Function.update db.rs_r key (some msgHash)
    rs_t := (BitVec.ofInt 32 now, key) :: db.rs_t
    hasSigForIdCache := Function.update db.hasSigForIdCache key (some true) }

def truncateRecoveredSig (db : RecoveredSigsDb) (key : SignKey) : RecoveredSigsDb :=
  match db.rs_r key with
  | none => db
  | some _ =>
    { db with
      rs_r := Function.update db.rs_r key none
      hasSigForIdCache := Function.update db.hasSigForIdCache key none }

/-- `(uint32_t)(GetAdjustedTime() - maxAge)`. -/
def endTime (now maxAge : Int) : Uint32 := BitVec.ofInt 32 (now - maxAge)

/-- Time keys are visited in the order of their times, up to the first that is not before
the end. -/
def expired (times : List (Uint32 × SignKey)) (now maxAge : Int) : List SignKey :=
  (times.filter fun entry => entry.1 < endTime now maxAge).map Prod.snd

def unexpired (times : List (Uint32 × SignKey)) (now maxAge : Int) : List (Uint32 × SignKey) :=
  times.filter fun entry => !decide (entry.1 < endTime now maxAge)

def cleanupOldRecoveredSigs (db : RecoveredSigsDb) (now maxAge : Int) : RecoveredSigsDb :=
  let truncated := (expired db.rs_t now maxAge).foldl truncateRecoveredSig db
  { truncated with rs_t := unexpired db.rs_t now maxAge }

def cleanupOldVotes (db : RecoveredSigsDb) (now maxAge : Int) : RecoveredSigsDb :=
  { db with
    rs_v := fun key => if key ∈ expired db.rs_vt now maxAge then none else db.rs_v key
    rs_vt := unexpired db.rs_vt now maxAge }

/-! ## AsyncSignIfMember -/

structure SignCall where
  key : SignKey
  msgHash : Uint256
  allowReSign : Bool
  /-- `GetAdjustedTime`. -/
  now : Int
  /-- `fSmartnodeMode`, with a known `proTxHash`. -/
  isSmartnode : Bool
  /-- The selected quorum, and whether the node is a valid member of it. -/
  quorum : Option Bool

def signUnlessRecovered (db : RecoveredSigsDb) (call : SignCall) (hasVoted : Bool) :
    RecoveredSigsDb × Bool × Option (SignKey × Uint256) :=
  let (hasSig, db) := hasRecoveredSigForId db call.key
  if hasSig then (db, true, none)
  else
    let db := if hasVoted then db else writeVoteForId db call.key call.msgHash call.now
    if call.quorum = some true then (db, true, some (call.key, call.msgHash)) else (db, false, none)

/-- The database, the return value, and what `AsyncSign` is called for. -/
def asyncSignIfMember (db : RecoveredSigsDb) (call : SignCall) :
    RecoveredSigsDb × Bool × Option (SignKey × Uint256) :=
  if !call.isSmartnode then (db, false, none)
  else match db.rs_v call.key with
    | some prevMsgHash =>
      if call.msgHash ≠ prevMsgHash then (db, false, none)
      else if call.allowReSign then signUnlessRecovered db call true
      else (db, false, none)
    | none => signUnlessRecovered db call false

def started (db : RecoveredSigsDb) (call : SignCall) : Option (SignKey × Uint256) :=
  (asyncSignIfMember db call).2.2

/-! ## Runs -/

inductive SignEvent where
  | sign (call : SignCall)
  | recovered (key : SignKey) (msgHash : Uint256) (now : Int)
  | truncate (key : SignKey)
  /-- `CSigningManager::Cleanup`, with the two times it reads. -/
  | cleanup (maxAge nowSigs nowVotes : Int)
  /-- The cache drops an entry. -/
  | evict (key : SignKey)

def signStep (db : RecoveredSigsDb) : SignEvent → RecoveredSigsDb
  | .sign call => (asyncSignIfMember db call).1
  | .recovered key msgHash now => writeRecoveredSig db key msgHash now
  | .truncate key => truncateRecoveredSig db key
  | .cleanup maxAge nowSigs nowVotes =>
    cleanupOldVotes (cleanupOldRecoveredSigs db nowSigs maxAge) nowVotes maxAge
  | .evict key => { db with hasSigForIdCache := Function.update db.hasSigForIdCache key none }

/-- The database after the events, from an empty one. -/
def signRun (events : List SignEvent) : RecoveredSigsDb := events.foldl signStep .empty

theorem signRun_append (events : List SignEvent) (event : SignEvent) :
    signRun (events ++ [event]) = signStep (signRun events) event := by
  rw [signRun, List.foldl_append]
  rfl

/-! ## What changes a vote -/

def SameVotes (db other : RecoveredSigsDb) : Prop := other.rs_v = db.rs_v ∧ other.rs_vt = db.rs_vt

section

variable (db : RecoveredSigsDb)

include db

theorem hasRecoveredSigForId_votes (key : SignKey) : SameVotes db (hasRecoveredSigForId db key).2 := by
  unfold hasRecoveredSigForId
  split <;> exact ⟨rfl, rfl⟩

theorem truncateRecoveredSig_votes (key : SignKey) : SameVotes db (truncateRecoveredSig db key) := by
  unfold truncateRecoveredSig
  split <;> exact ⟨rfl, rfl⟩

theorem cleanupOldRecoveredSigs_votes (now maxAge : Int) :
    SameVotes db (cleanupOldRecoveredSigs db now maxAge) :=
  Lib.foldl_invariant (SameVotes db) (fun key _ state same =>
    have kept := truncateRecoveredSig_votes state key
    ⟨kept.1.trans same.1, kept.2.trans same.2⟩) ⟨rfl, rfl⟩

structure Casts (db other : RecoveredSigsDb) (call : SignCall) : Prop where
  fresh : db.rs_v call.key = none
  votes : other.rs_v = Function.update db.rs_v call.key (some call.msgHash)
  times : other.rs_vt = (BitVec.ofInt 32 call.now, call.key) :: db.rs_vt

theorem signUnlessRecovered_votes (call : SignCall) (hasVoted : Bool)
    (found : hasVoted = false → db.rs_v call.key = none) :
    SameVotes db (signUnlessRecovered db call hasVoted).1 ∨
      Casts db (signUnlessRecovered db call hasVoted).1 call := by
  obtain ⟨votes, times⟩ := hasRecoveredSigForId_votes db call.key
  rw [signUnlessRecovered]
  generalize hasRecoveredSigForId db call.key = looked at votes times ⊢
  obtain ⟨hasSig, cached⟩ := looked
  dsimp only at votes times ⊢
  cases hasSig with
  | true => exact .inl ⟨votes, times⟩
  | false =>
    cases hasVoted with
    | true =>
      rw [if_neg Bool.false_ne_true, if_pos rfl]
      split <;> exact .inl ⟨votes, times⟩
    | false =>
      have cast : Casts db (writeVoteForId cached call.key call.msgHash call.now) call :=
        ⟨found rfl, by rw [writeVoteForId, votes], by rw [writeVoteForId, times]⟩
      rw [if_neg Bool.false_ne_true, if_neg Bool.false_ne_true]
      split <;> exact .inr cast

theorem asyncSignIfMember_votes (call : SignCall) :
    SameVotes db (asyncSignIfMember db call).1 ∨ Casts db (asyncSignIfMember db call).1 call := by
  unfold asyncSignIfMember
  split
  · exact .inl ⟨rfl, rfl⟩
  · split
    · split
      · exact .inl ⟨rfl, rfl⟩
      · split
        · exact signUnlessRecovered_votes db call true nofun
        · exact .inl ⟨rfl, rfl⟩
    · next fresh => exact signUnlessRecovered_votes db call false fun _ => fresh

/-- A cleanup at `now` dropped the votes that were too old. -/
structure Drops (db other : RecoveredSigsDb) (now maxAge : Int) : Prop where
  votes : other.rs_v = fun key => if key ∈ expired db.rs_vt now maxAge then none else db.rs_v key
  times : other.rs_vt = unexpired db.rs_vt now maxAge

theorem signStep_votes (event : SignEvent) :
    SameVotes db (signStep db event) ∨
      (∃ call, event = .sign call ∧ Casts db (signStep db event) call) ∨
      ∃ maxAge nowSigs nowVotes, event = .cleanup maxAge nowSigs nowVotes ∧
        Drops db (signStep db event) nowVotes maxAge := by
  cases event with
  | sign call =>
    obtain same | cast := asyncSignIfMember_votes db call
    · exact .inl same
    · exact .inr (.inl ⟨call, rfl, cast⟩)
  | recovered key msgHash now => exact .inl ⟨rfl, rfl⟩
  | truncate key => exact .inl (truncateRecoveredSig_votes db key)
  | cleanup maxAge nowSigs nowVotes =>
    obtain ⟨votes, times⟩ := cleanupOldRecoveredSigs_votes db nowSigs maxAge
    refine .inr (.inr ⟨maxAge, nowSigs, nowVotes, rfl, ?_, ?_⟩)
    · rw [signStep, cleanupOldVotes, votes, times]
    · rw [signStep, cleanupOldVotes, times]
  | evict key => exact .inl ⟨rfl, rfl⟩

end

variable {key : SignKey} {msgHash : Uint256} {events : List SignEvent} {written maxAge now : Int}

/-- Signing starts for the call's own message, at a member of the quorum, on no other vote, and
leaves its vote. -/
theorem started_eq_some {db : RecoveredSigsDb} {call : SignCall}
    (starts : started db call = some (key, msgHash)) :
    (call.key = key ∧ call.msgHash = msgHash ∧ call.quorum = some true) ∧ (db.rs_v key = none ∨ db.rs_v key = some msgHash) ∧
      (signStep db (.sign call)).rs_v key = some msgHash := by
  have signed : ∀ hasVoted, (signUnlessRecovered db call hasVoted).2.2 = some (key, msgHash) →
      (call.key = key ∧ call.msgHash = msgHash ∧ call.quorum = some true) ∧
        (signUnlessRecovered db call hasVoted).1.rs_v key = if hasVoted then db.rs_v key else some msgHash := by
    intro hasVoted starts
    obtain ⟨votes, -⟩ := hasRecoveredSigForId_votes db call.key
    rw [signUnlessRecovered] at starts ⊢
    dsimp only at votes starts ⊢
    split at starts
    · cases starts
    · next unsigned =>
        split at starts
        · next member =>
            simp only [Option.some.injEq, Prod.mk.injEq] at starts
            rw [if_neg unsigned, if_pos member]
            refine ⟨⟨starts.1, starts.2, member⟩, ?_⟩
            cases hasVoted with
            | true => exact congrFun votes key
            | false =>
              rw [← starts.1, ← starts.2]
              exact Function.update_self ..
        · cases starts
  rw [started] at starts
  rw [signStep]
  unfold asyncSignIfMember at starts ⊢
  split at starts
  · cases starts
  · next smartnode =>
      rw [if_neg smartnode]
      cases vote : db.rs_v call.key with
      | none =>
        rw [vote] at starts
        obtain ⟨same, left⟩ := signed false starts
        exact ⟨same, .inl (same.1 ▸ vote), left⟩
      | some prevMsgHash =>
        rw [vote] at starts
        dsimp only at starts ⊢
        split at starts
        · cases starts
        · next agreeing =>
            split at starts
            · next again =>
                obtain ⟨same, left⟩ := signed true starts
                have stands : db.rs_v key = some msgHash := by
                  rw [← same.1, ← same.2.1, vote, not_not.mp agreeing]
                rw [if_neg agreeing, if_pos again]
                exact ⟨same, .inr stands, left.trans stands⟩
            · cases starts

/-! ## Standing votes -/

/-- After the events the vote for `msgHash` stands, and it was cast at `written`. -/
inductive Standing (key : SignKey) (msgHash : Uint256) (written : Int) : List SignEvent → Prop
  | cast {events : List SignEvent} {call : SignCall} :
      call.key = key → call.msgHash = msgHash → call.now = written →
      (signRun events).rs_v key = none →
      (signRun (events ++ [.sign call])).rs_v key = some msgHash →
      Standing key msgHash written (events ++ [.sign call])
  | kept {events : List SignEvent} {event : SignEvent} :
      Standing key msgHash written events →
      (signRun (events ++ [event])).rs_v key = some msgHash →
      Standing key msgHash written (events ++ [event])

theorem Standing.stands (standing : Standing key msgHash written events)
    : (signRun events).rs_v key = some msgHash := by
  cases standing with
  | cast _ _ _ _ stands => exact stands
  | kept _ stands => exact stands

theorem Standing.cast_at (standing : Standing key msgHash written events) :
    ∃ call, .sign call ∈ events ∧ call.now = written := by
  induction standing with
  | @cast events call _ _ time _ _ => exact ⟨call, by simp, time⟩
  | kept _ _ ih =>
    obtain ⟨call, member, time⟩ := ih
    exact ⟨call, List.mem_append_left _ member, time⟩

/-- Every time key belongs to one standing vote and carries its time, in 32 bits. -/
structure Dated (events : List SignEvent) : Prop where
  standing : ∀ entry ∈ (signRun events).rs_vt, ∃ msgHash written,
    Standing entry.2 msgHash written events ∧ entry.1 = BitVec.ofInt 32 written
  single : ∀ entry ∈ (signRun events).rs_vt, ∀ other ∈ (signRun events).rs_vt, entry.2 = other.2 → entry = other

theorem mem_unexpired {times : List (Uint32 × SignKey)} {entry : Uint32 × SignKey} :
    entry ∈ unexpired times now maxAge ↔ entry ∈ times ∧ ¬ entry.1 < endTime now maxAge := by
  simp [unexpired]

theorem mem_expired {times : List (Uint32 × SignKey)} :
    key ∈ expired times now maxAge ↔ ∃ time, (time, key) ∈ times ∧ time < endTime now maxAge := by
  simp [expired]

theorem Dated.append (dated : Dated events) (event : SignEvent) : Dated (events ++ [event]) := by
  have after := signRun_append events event
  obtain ⟨votes, times⟩ | ⟨call, rfl, fresh, votes, times⟩ |
    ⟨maxAge, nowSigs, nowVotes, rfl, votes, times⟩ := signStep_votes (signRun events) event
  · rw [← after] at votes times
    refine ⟨?_, times ▸ dated.single⟩
    intro entry member
    obtain ⟨msgHash, written, standing, time⟩ := dated.standing entry (times ▸ member)
    exact ⟨msgHash, written, .kept standing (votes ▸ standing.stands), time⟩
  · rw [← after] at votes times
    -- no time key is left from an earlier vote
    have unused : ∀ entry ∈ (signRun events).rs_vt, entry.2 ≠ call.key := by
      intro entry member same
      obtain ⟨msgHash, written, standing, -⟩ := dated.standing entry member
      rw [same] at standing
      exact absurd (fresh.symm.trans standing.stands) nofun
    refine ⟨?_, ?_⟩
    · intro entry member
      rw [times] at member
      obtain rfl | older := List.mem_cons.mp member
      · refine ⟨call.msgHash, call.now, .cast rfl rfl rfl fresh ?_, rfl⟩
        rw [votes, Function.update_self]
      · obtain ⟨msgHash, written, standing, time⟩ := dated.standing entry older
        refine ⟨msgHash, written, .kept standing ?_, time⟩
        rw [votes, Function.update_of_ne (unused entry older), standing.stands]
    · intro entry member other otherMember same
      rw [times] at member otherMember
      obtain rfl | older := List.mem_cons.mp member
      · obtain rfl | otherOlder := List.mem_cons.mp otherMember
        · rfl
        · exact absurd same.symm (unused other otherOlder)
      · obtain rfl | otherOlder := List.mem_cons.mp otherMember
        · exact absurd same (unused entry older)
        · exact dated.single entry older other otherOlder same
  · rw [← after] at votes times
    refine ⟨?_, ?_⟩
    · intro entry member
      rw [times] at member
      obtain ⟨older, recent⟩ := mem_unexpired.mp member
      obtain ⟨msgHash, written, standing, time⟩ := dated.standing entry older
      have spared : entry.2 ∉ expired (signRun events).rs_vt nowVotes maxAge := by
        intro removed
        obtain ⟨otherTime, otherMember, old⟩ := mem_expired.mp removed
        have same := dated.single entry older _ otherMember rfl
        exact recent (same ▸ old)
      refine ⟨msgHash, written, .kept standing ?_, time⟩
      rw [votes]
      exact (if_neg spared).trans standing.stands
    · intro entry member other otherMember
      rw [times] at member otherMember
      exact dated.single entry (mem_unexpired.mp member).1 other (mem_unexpired.mp otherMember).1

theorem dated (events : List SignEvent) : Dated events := by
  induction events using List.reverseRecOn with
  | nil => exact ⟨nofun, nofun⟩
  | append_singleton events event ih => exact ih.append event

/-- The clock fits the 32 bits of a time key, and the age that is kept does not reach back
before the clock's zero. -/
def Timely : SignEvent → Prop
  | .sign call => 0 ≤ call.now ∧ call.now < 2 ^ 32
  | .cleanup maxAge _ nowVotes => maxAge ≤ nowVotes
  | _ => True

/-- `nowVotes` is the clock of a cleanup that removed the vote standing since `written`. -/
structure RemovedForAge (events : List SignEvent) (maxAge nowSigs nowVotes : Int) (key : SignKey)
    (msgHash : Uint256) (written : Int) : Prop where
  standing : Standing key msgHash written events
  removed : (signRun (events ++ [.cleanup maxAge nowSigs nowVotes])).rs_v key = none
  old : written + maxAge < nowVotes

theorem ofInt_lt_endTime (nonneg : 0 ≤ written) (small : written < 2 ^ 32) (kept : maxAge ≤ now)
    (before : BitVec.ofInt 32 written < endTime now maxAge) :
    written + maxAge < now := by
  have values : (written % 2 ^ 32).toNat < ((now - maxAge) % 2 ^ 32).toNat := by
    simpa [endTime, BitVec.lt_def, BitVec.toNat_ofInt] using before
  omega

/-- One event: a standing vote goes on standing, or a cleanup found it old. -/
theorem vote_kept_or_removed {event : SignEvent} (stands : (signRun events).rs_v key = some msgHash)
    (timely : ∀ earlier ∈ events ++ [event], Timely earlier) :
    (signRun (events ++ [event])).rs_v key = some msgHash ∨
      ∃ maxAge nowSigs nowVotes written, event = .cleanup maxAge nowSigs nowVotes ∧
        RemovedForAge events maxAge nowSigs nowVotes key msgHash written := by
  have after := signRun_append events event
  obtain ⟨votes, -⟩ | ⟨call, rfl, fresh, votes, -⟩ |
    ⟨maxAge, nowSigs, nowVotes, rfl, votes, -⟩ := signStep_votes (signRun events) event
  · exact .inl (by rw [after, votes, stands])
  · have other : key ≠ call.key := by
      rintro rfl
      exact absurd (fresh.symm.trans stands) nofun
    exact .inl (by rw [after, votes, Function.update_of_ne other, stands])
  · rw [← after] at votes
    by_cases removed : key ∈ expired (signRun events).rs_vt nowVotes maxAge
    · obtain ⟨time, member, old⟩ := mem_expired.mp removed
      obtain ⟨found, written, standing, timed⟩ := (dated events).standing _ member
      obtain rfl : msgHash = found := Option.mem_unique stands standing.stands
      obtain ⟨call, castMember, rfl⟩ := standing.cast_at
      obtain ⟨nonneg, small⟩ : 0 ≤ call.now ∧ call.now < 2 ^ 32 := timely _ (List.mem_append_left _ castMember)
      have kept : maxAge ≤ nowVotes := timely (.cleanup maxAge nowSigs nowVotes) (by simp)
      refine .inr ⟨maxAge, nowSigs, nowVotes, call.now, rfl, standing, ?_, ?_⟩
      · rw [votes]
        exact if_pos removed
      · exact ofInt_lt_endTime nonneg small kept (timed ▸ old)
    · refine .inl ?_
      rw [votes]
      exact (if_neg removed).trans stands

/-- Over a run: the vote still stands, or a cleanup on the way found it old. -/
theorem votes_kept_or_removed {before later : List SignEvent}
    (stands : (signRun before).rs_v key = some msgHash) (timely : ∀ event ∈ before ++ later, Timely event) :
    (signRun (before ++ later)).rs_v key = some msgHash ∨
      ∃ early late maxAge nowSigs nowVotes written,
        later = early ++ .cleanup maxAge nowSigs nowVotes :: late ∧
        RemovedForAge (before ++ early) maxAge nowSigs nowVotes key msgHash written := by
  induction later generalizing before with
  | nil => exact .inl (by rwa [List.append_nil])
  | cons event later ih =>
    have regroup : before ++ event :: later = before ++ [event] ++ later := by simp
    rw [regroup] at timely ⊢
    obtain kept | ⟨maxAge, nowSigs, nowVotes, written, rfl, removed⟩ :=
      vote_kept_or_removed stands (List.forall_mem_append.mp timely).1
    · obtain still | ⟨early, late, maxAge, nowSigs, nowVotes, written, rfl, removed⟩ := ih kept timely
      · exact .inl still
      · refine .inr ⟨event :: early, late, maxAge, nowSigs, nowVotes, written, rfl, ?_⟩
        rwa [List.append_assoc] at removed
    · exact .inr ⟨[], later, maxAge, nowSigs, nowVotes, written, rfl, by rwa [List.append_nil]⟩

/-- A node that starts signing two message hashes for one request has had the first vote
removed by a cleanup in between, as older than the age that is kept. -/
theorem second_vote_after_expiry (before middle : List SignEvent) (first second : SignCall)
    (key : SignKey) (firstHash secondHash : Uint256)
    (timely : ∀ event ∈ before ++ [.sign first] ++ middle, Timely event)
    (startsFirst : started (signRun before) first = some (key, firstHash))
    (startsSecond : started (signRun (before ++ [.sign first] ++ middle)) second = some (key, secondHash))
    (different : firstHash ≠ secondHash) :
    ∃ early late maxAge nowSigs nowVotes written,
      middle = early ++ .cleanup maxAge nowSigs nowVotes :: late ∧
      RemovedForAge (before ++ [.sign first] ++ early) maxAge nowSigs nowVotes key firstHash written := by
  obtain ⟨-, -, voted⟩ := started_eq_some startsFirst
  obtain ⟨-, found, -⟩ := started_eq_some startsSecond
  rw [← signRun_append] at voted
  obtain still | removed := votes_kept_or_removed voted timely
  · rw [still] at found
    obtain none | same := found
    · exact absurd none nofun
    · exact absurd (Option.some.inj same) different
  · exact removed

section Expiry

/-- A request of type 1, with a call of a member of its quorum. -/
def memberCall (msgHash : Uint256) (now : Int) : SignCall :=
  { key := (1, 7), msgHash := msgHash, allowReSign := false, now := now, isSmartnode := true,
    quorum := some true }

/-- With the default of seven days a vote is removed after seven days. -/
theorem second_vote_after_week :
    ∃ early late maxAge nowSigs nowVotes written,
      [SignEvent.cleanup 604800 1600604801 1600604801] = early ++ .cleanup maxAge nowSigs nowVotes :: late ∧
      RemovedForAge ([] ++ [.sign (memberCall 1 1600000000)] ++ early) maxAge nowSigs nowVotes
        (1, 7) 1 written := by
  refine second_vote_after_expiry [] [.cleanup 604800 1600604801 1600604801]
    (memberCall 1 1600000000) (memberCall 2 1600604802) (1, 7) 1 2 ?_ rfl rfl (by decide)
  intro event member
  simp only [List.nil_append, List.cons_append, List.mem_cons, List.not_mem_nil, or_false] at member
  obtain rfl | rfl := member
  · exact ⟨by decide, by decide⟩
  · exact (by decide : (604800 : Int) ≤ 1600604801)

/-- An age to be kept that is longer than the clock has run wraps around, and a vote one second
old is removed: the node signs both messages. -/
theorem kept_age_wraps_to_second_vote :
    let before := [.sign (memberCall 1 1600000000), .cleanup 2000000000 1600000001 1600000001]
    started (signRun []) (memberCall 1 1600000000) = some ((1, 7), 1) ∧
      started (signRun before) (memberCall 2 1600000002) = some ((1, 7), 2) ∧
      ¬ ∃ early late maxAge nowSigs nowVotes written,
        [SignEvent.cleanup 2000000000 1600000001 1600000001] =
          early ++ .cleanup maxAge nowSigs nowVotes :: late ∧
        RemovedForAge ([.sign (memberCall 1 1600000000)] ++ early) maxAge nowSigs nowVotes
          (1, 7) 1 written := by
  refine ⟨rfl, rfl, ?_⟩
  rintro ⟨early, late, maxAge, nowSigs, nowVotes, written, split, removed⟩
  obtain rfl : early = [] := by
    cases early with
    | nil => rfl
    | cons head early =>
      have tail := (List.cons.inj split).2
      exact absurd tail (by simp)
  obtain ⟨rfl, rfl, rfl⟩ : 2000000000 = maxAge ∧ 1600000001 = nowSigs ∧ 1600000001 = nowVotes := by
    simpa using (List.cons.inj split).1
  obtain ⟨call, member, rfl⟩ := removed.standing.cast_at
  have time : call.now = 1600000000 := by
    simp only [List.append_nil, List.mem_singleton, SignEvent.sign.injEq] at member
    rw [member]
    rfl
  have old := removed.old
  omega

end Expiry

end BlackRaven.Llmq
