import BlackRaven.Evo.Smartnodes

/-!
Contract: what the operations on the smartnode list do to its index of unique
properties.

Owns: the invariant of a well kept list and, for each operation, the list it leaves, or
the assertion that stops it.
-/

namespace BlackRaven.Evo

open Lib Primitives UniqueProperty

/-! ## The properties of one smartnode -/

namespace UniqueProperty

theorem nonNull_eq_some {property value : UniqueProperty} :
    property.nonNull = some value ↔ property = value ∧ property.isNull = false := by
  unfold nonNull
  cases null : property.isNull <;> simp

end UniqueProperty

namespace CDeterministicMN

variable {dmn : CDeterministicMN}

theorem mem_uniqueProperties {property : UniqueProperty} :
    property ∈ dmn.uniqueProperties ↔
      property = .collateralOutpoint dmn.collateralOutpoint
        ∨ (addr dmn.pdmnState.addr).nonNull = some property
        ∨ property = .keyIDOwner dmn.pdmnState.keyIDOwner
        ∨ (pubKeyOperator dmn.pdmnState.pubKeyOperator).nonNull = some property := by
  unfold uniqueProperties
  rw [List.mem_append, List.mem_cons, List.mem_cons, Option.mem_toList, Option.mem_toList, or_assoc]

theorem collateral_mem {value : COutPoint} :
    .collateralOutpoint value ∈ dmn.uniqueProperties ↔ dmn.collateralOutpoint = value := by
  rw [@eq_comm _ _ value]
  simp [mem_uniqueProperties, nonNull_eq_some]

theorem addr_mem {value : CService} :
    .addr value ∈ dmn.uniqueProperties ↔ dmn.pdmnState.addr = value ∧ value ≠ CService.null := by
  simp only [mem_uniqueProperties, nonNull_eq_some, reduceCtorEq, false_and, or_false, false_or, addr.injEq]
  refine and_congr_right fun same => ?_
  rw [same]
  exact beq_eq_false_iff_ne

theorem operator_mem {value : CBLSPublicKey} :
    .pubKeyOperator value ∈ dmn.uniqueProperties ↔ dmn.pdmnState.pubKeyOperator = value ∧ value ≠ 0 := by
  simp only [mem_uniqueProperties, nonNull_eq_some, reduceCtorEq, false_and, false_or, pubKeyOperator.injEq]
  refine and_congr_right fun same => ?_
  rw [same]
  exact beq_eq_false_iff_ne

theorem uniqueProperties_nodup (dmn : CDeterministicMN) : dmn.uniqueProperties.Nodup := by
  unfold uniqueProperties nonNull
  split <;> split <;> simp

/-- What `AddUniqueProperty` asserts of the properties one by one. -/
structure Proper (dmn : CDeterministicMN) : Prop where
  collateral : dmn.collateralOutpoint.isNull = false
  owner : dmn.pdmnState.keyIDOwner ≠ 0

theorem Proper.not_null (proper : dmn.Proper) {property : UniqueProperty}
    (member : property ∈ dmn.uniqueProperties) : property.isNull = false := by
  rcases mem_uniqueProperties.mp member with rfl | isAddr | rfl | isKey
  · exact proper.collateral
  · obtain ⟨rfl, notNull⟩ := nonNull_eq_some.mp isAddr
    exact notNull
  · exact beq_eq_false_iff_ne.mpr proper.owner
  · obtain ⟨rfl, notNull⟩ := nonNull_eq_some.mp isKey
    exact notNull

end CDeterministicMN

/-! ## Well kept lists -/

namespace CDeterministicMNList

/-- The smartnode with this hash has the property. -/
def Holds (list : CDeterministicMNList) (proTxHash : Uint256) (property : UniqueProperty) : Prop :=
  ∃ dmn, list.getMN proTxHash = some dmn ∧ property ∈ dmn.uniqueProperties

structure WellKept (list : CDeterministicMNList) : Prop where
  keyed : ∀ proTxHash dmn, list.getMN proTxHash = some dmn → dmn.proTxHash = proTxHash
  proper : ∀ proTxHash dmn, list.getMN proTxHash = some dmn → dmn.Proper
  exact : UniqueIndex.Exact list.Holds list.mnUniquePropertyMap

variable {list : CDeterministicMNList}

theorem wellKept_initial (blockHash : Uint256) : (initial blockHash).WellKept := by
  refine ⟨?_, ?_, ?_, ?_⟩
  · intro proTxHash dmn found
    cases found
  · intro proTxHash dmn found
    cases found
  · rintro proTxHash property ⟨dmn, found, -⟩
    cases found
  · intro proTxHash property count entry
    cases entry

theorem WellKept.relabel (kept : list.WellKept) {blockHash : Uint256} {nHeight : Int32}
    {nTotalRegisteredCount : Uint32} :
    { list with
      blockHash := blockHash
      nHeight := nHeight
      nTotalRegisteredCount := nTotalRegisteredCount }.WellKept :=
  ⟨kept.keyed, kept.proper, kept.exact⟩

variable {property : UniqueProperty} {dmn : CDeterministicMN} {index : MnUniquePropertyMap}
  {proTxHash : Uint256} {new : CDeterministicMNState} {next : CDeterministicMNList}

theorem holds_iff (found : list.getMN proTxHash = some dmn) :
    list.Holds proTxHash property ↔ property ∈ dmn.uniqueProperties := by
  simp [Holds, found]

/-- A list that differs in the entry of one smartnode is well kept if the entry and the index are. -/
theorem WellKept.changed (kept : list.WellKept) {entry : Option CDeterministicMN}
    (reads : ∀ other, next.getMN other = if other = proTxHash then entry else list.getMN other)
    (proper : ∀ dmn, entry = some dmn → dmn.proTxHash = proTxHash ∧ dmn.Proper)
    (exact : UniqueIndex.Exact next.Holds next.mnUniquePropertyMap) : next.WellKept := by
  have entries : ∀ other dmn, next.getMN other = some dmn → dmn.proTxHash = other ∧ dmn.Proper := by
    intro other dmn found
    rw [reads] at found
    split at found
    next isOther => exact isOther ▸ proper dmn found
    next => exact ⟨kept.keyed other dmn found, kept.proper other dmn found⟩
  exact ⟨fun other dmn found => (entries other dmn found).1,
    fun other dmn found => (entries other dmn found).2, exact⟩

theorem WellKept.unique (kept : list.WellKept) {left right : Uint256}
    (leftHolds : list.Holds left property) (rightHolds : list.Holds right property) : left = right :=
  kept.exact.unique leftHolds rightHolds

theorem WellKept.hasUniqueProperty_eq_false (kept : list.WellKept) :
    list.hasUniqueProperty property = false ↔ ∀ proTxHash, ¬ list.Holds proTxHash property := by
  unfold hasUniqueProperty
  rw [Option.isSome_eq_false_iff, Option.isNone_iff_eq_none]
  exact kept.exact.eq_none_iff

theorem WellKept.getUniquePropertyMN_eq_some (kept : list.WellKept) :
    list.getUniquePropertyMN property = some dmn ↔
      list.getMN dmn.proTxHash = some dmn ∧ property ∈ dmn.uniqueProperties := by
  unfold getUniquePropertyMN
  rw [Option.bind_eq_some_iff]
  constructor
  · rintro ⟨⟨holder, count⟩, entry, found⟩
    obtain ⟨-, other, foundOther, member⟩ := kept.exact.held holder property count entry
    obtain rfl : dmn = other := Option.mem_unique found foundOther
    obtain rfl := kept.keyed holder dmn found
    exact ⟨found, member⟩
  · rintro ⟨found, member⟩
    exact ⟨(dmn.proTxHash, 1), kept.exact.indexed dmn.proTxHash property ⟨dmn, found, member⟩, found⟩

theorem WellKept.getUniquePropertyMN_eq_none (kept : list.WellKept) :
    list.getUniquePropertyMN property = none ↔ ∀ proTxHash, ¬ list.Holds proTxHash property := by
  constructor
  · rintro absent proTxHash ⟨dmn, found, member⟩
    have present : list.getUniquePropertyMN property = some dmn := by
      rw [kept.getUniquePropertyMN_eq_some, kept.keyed proTxHash dmn found]
      exact ⟨found, member⟩
    rw [absent] at present
    cases present
  · intro free
    unfold getUniquePropertyMN
    rw [kept.exact.eq_none_iff.mpr free]
    rfl

/-! ## Adding -/

def withMN (list : CDeterministicMNList) (dmn : CDeterministicMN) (index : MnUniquePropertyMap) :
    CDeterministicMNList :=
  { list with
    mnMap := list.mnMap.insert dmn.proTxHash dmn
    mnInternalIdMap := Function.update list.mnInternalIdMap dmn.internalId (some dmn.proTxHash)
    mnUniquePropertyMap := index }

theorem getMN_withMN (list : CDeterministicMNList) (dmn : CDeterministicMN)
    (index : MnUniquePropertyMap) (proTxHash : Uint256) :
    (list.withMN dmn index).getMN proTxHash
      = if proTxHash = dmn.proTxHash then some dmn else list.getMN proTxHash :=
  getElem?_insert_eq _ _ _ _

theorem addMN_eq (kept : list.WellKept) (proper : dmn.Proper) (absent : list.getMN dmn.proTxHash = none)
    (free : ∀ property ∈ dmn.uniqueProperties, list.hasUniqueProperty property = false) :
    ∃ index, list.addMN dmn = .ok (list.withMN dmn index) ∧ (list.withMN dmn index).WellKept := by
  have nobody : ∀ property ∈ dmn.uniqueProperties, ∀ holder, ¬ list.Holds holder property :=
    fun property member => kept.hasUniqueProperty_eq_false.mp (free property member)
  obtain ⟨index, claimed, exact⟩ := kept.exact.claim_all dmn.proTxHash dmn.uniqueProperties_nodup nobody
  have runs : dmn.uniqueProperties.foldlM (addUniqueProperty dmn.proTxHash) list.mnUniquePropertyMap
      = .ok index := by
    rw [foldlM_required (fun property member state => by
      unfold addUniqueProperty
      rw [proper.not_null member]
      rfl), claimed]
    rfl
  refine ⟨index, ?_, kept.changed (getMN_withMN list dmn index) ?_ (exact.congr ?_)⟩
  · unfold addMN hasMN
    rw [absent, runs]
    rfl
  · rintro _ ⟨⟩
    exact ⟨rfl, proper⟩
  · intro holder property
    unfold Holds
    rw [getMN_withMN]
    by_cases same : holder = dmn.proTxHash
    · subst same
      simp [absent]
    · simp [same]

/-! ## Removing -/

def withoutMN (list : CDeterministicMNList) (dmn : CDeterministicMN) (index : MnUniquePropertyMap) :
    CDeterministicMNList :=
  { list with
    mnMap := list.mnMap.erase dmn.proTxHash
    mnInternalIdMap := Function.update list.mnInternalIdMap dmn.internalId none
    mnUniquePropertyMap := index }

theorem getMN_withoutMN (list : CDeterministicMNList) (dmn : CDeterministicMN)
    (index : MnUniquePropertyMap) (proTxHash : Uint256) :
    (list.withoutMN dmn index).getMN proTxHash
      = if proTxHash = dmn.proTxHash then none else list.getMN proTxHash :=
  getElem?_erase_eq _ _ _

variable {holds : Uint256 → UniqueProperty → Prop}

theorem getMN_of_withoutMN {other : CDeterministicMN}
    (found : (list.withoutMN dmn index).getMN proTxHash = some other) :
    proTxHash ≠ dmn.proTxHash ∧ list.getMN proTxHash = some other := by
  rw [getMN_withoutMN] at found
  exact Option.ite_none_left_eq_some.mp found

theorem removeMN_eq (kept : list.WellKept) (found : list.getMN dmn.proTxHash = some dmn) :
    ∃ index, list.removeMN dmn.proTxHash = .ok (list.withoutMN dmn index)
      ∧ (list.withoutMN dmn index).WellKept := by
  obtain ⟨index, released, exact⟩ := kept.exact.release_all dmn.proTxHash dmn.uniqueProperties_nodup
    fun property => (holds_iff found).mpr
  have runs : dmn.uniqueProperties.foldlM (deleteUniqueProperty dmn.proTxHash)
      list.mnUniquePropertyMap = .ok index := by
    rw [foldlM_required (fun property member state => by
      unfold deleteUniqueProperty
      rw [(kept.proper _ _ found).not_null member]
      rfl), released]
    rfl
  refine ⟨index, ?_, kept.changed (getMN_withoutMN list dmn index) nofun (exact.congr ?_)⟩
  · unfold removeMN
    rw [found]
    simp only [runs]
    rfl
  · intro holder property
    unfold Holds
    rw [getMN_withoutMN]
    by_cases same : holder = dmn.proTxHash
    · subst same
      simp [found]
    · constructor
      · rintro ⟨⟨other, foundOther, member⟩, -⟩
        exact ⟨other, by rw [if_neg same]; exact foundOther, member⟩
      · rintro ⟨other, foundOther, member⟩
        rw [if_neg same] at foundOther
        refine ⟨⟨other, foundOther, member⟩, fun again => same ?_⟩
        exact kept.unique ⟨other, foundOther, member⟩ ((holds_iff found).mpr again)

/-! ## Updating -/

theorem updateUniqueProperty_eq_ok {next : MnUniquePropertyMap} {oldValue newValue : UniqueProperty}
    (exchanges : index.exchange proTxHash oldValue.nonNull newValue.nonNull = some next) :
    updateUniqueProperty proTxHash index oldValue newValue = .ok next := by
  unfold updateUniqueProperty
  by_cases same : oldValue = newValue
  · subst same
    rw [UniqueIndex.exchange, if_pos rfl] at exchanges
    rw [if_pos rfl, Option.some.inj exchanges]
  · rw [if_neg same]
    unfold nonNull at exchanges
    cases oldNull : oldValue.isNull <;> cases newNull : newValue.isNull <;>
      simp only [oldNull, newNull, ↓reduceIte, Bool.false_eq_true, UniqueIndex.exchange,
        Option.some_inj, same, reduceCtorEq] at exchanges
    · obtain ⟨middle, released, claimed⟩ := Option.bind_eq_some_iff.mp exchanges
      have releases : index.release proTxHash oldValue = some middle := released
      have claims : middle.claim proTxHash newValue = some next := claimed
      simp [deleteUniqueProperty, addUniqueProperty, oldNull, newNull, releases, claims, required,
        bind, Except.bind]
    · obtain ⟨middle, released, kept⟩ := Option.bind_eq_some_iff.mp exchanges
      have releases : index.release proTxHash oldValue = some middle := released
      have same : middle = next := Option.some.inj kept
      simp [deleteUniqueProperty, oldNull, releases, same, required, bind, Except.bind]
    · have claims : index.claim proTxHash newValue = some next := exchanges
      simp [addUniqueProperty, newNull, claims, required, bind, Except.bind]
    · rw [exchanges]
      rfl

/-- The assertion of `AddUniqueProperty` fails for a property of another smartnode. -/
theorem updateUniqueProperty_taken (exact : UniqueIndex.Exact holds index) {holder : Uint256}
    (oldValue newValue : UniqueProperty) (has : oldValue.isNull = false → holds proTxHash oldValue)
    (held : holds holder newValue) (differs : holder ≠ proTxHash) (notNull : newValue.isNull = false) :
    updateUniqueProperty proTxHash index oldValue newValue
      = .error "assert(!oldEntry || oldEntry->first == dmn->proTxHash)" := by
  have changes : oldValue ≠ newValue := by
    rintro rfl
    exact differs (exact.unique held (has notNull))
  unfold updateUniqueProperty
  rw [if_neg changes]
  cases oldNull : oldValue.isNull with
  | true =>
    simp [addUniqueProperty, notNull, exact.claim_taken held differs, required, bind, Except.bind]
  | false =>
    obtain ⟨middle, released, exactMiddle⟩ := exact.release_held (has oldNull)
    have taken := exactMiddle.claim_taken ⟨held, Ne.symm changes⟩ differs
    simp [deleteUniqueProperty, addUniqueProperty, notNull, oldNull, released, taken, required,
      bind, Except.bind]

def withState (list : CDeterministicMNList) (dmn : CDeterministicMN)
    (pdmnState : CDeterministicMNState) (index : MnUniquePropertyMap) : CDeterministicMNList :=
  { list with
    mnMap := list.mnMap.insert dmn.proTxHash { dmn with pdmnState := pdmnState }
    mnUniquePropertyMap := index }

theorem getMN_withState (list : CDeterministicMNList) (dmn : CDeterministicMN)
    (pdmnState : CDeterministicMNState) (index : MnUniquePropertyMap) (proTxHash : Uint256) :
    (list.withState dmn pdmnState index).getMN proTxHash
      = if proTxHash = dmn.proTxHash then some { dmn with pdmnState := pdmnState }
        else list.getMN proTxHash :=
  getElem?_insert_eq _ _ _ _

/-- Nobody holds a property that is new in the state of a smartnode. -/
structure Free (list : CDeterministicMNList) (old new : CDeterministicMNState) : Prop where
  addr : new.addr ≠ old.addr → new.addr ≠ CService.null → ∀ holder, ¬ list.Holds holder (.addr new.addr)
  owner : new.keyIDOwner ≠ old.keyIDOwner → ∀ holder, ¬ list.Holds holder (.keyIDOwner new.keyIDOwner)
  operator : new.pubKeyOperator ≠ old.pubKeyOperator → new.pubKeyOperator ≠ 0 →
    ∀ holder, ¬ list.Holds holder (.pubKeyOperator new.pubKeyOperator)

/-- What is held after the three exchanges of an update. -/
def heldAfter (list : CDeterministicMNList) (proTxHash : Uint256) (old new : CDeterministicMNState) :
    Uint256 → UniqueProperty → Prop :=
  UniqueIndex.exchanged
    (UniqueIndex.exchanged
      (UniqueIndex.exchanged list.Holds proTxHash (addr old.addr).nonNull (addr new.addr).nonNull)
      proTxHash (keyIDOwner old.keyIDOwner).nonNull
      (keyIDOwner new.keyIDOwner).nonNull)
    proTxHash (pubKeyOperator old.pubKeyOperator).nonNull
    (pubKeyOperator new.pubKeyOperator).nonNull

/-- The smartnode holds the properties of its new state, everyone else what they held. -/
theorem WellKept.heldAfter_iff (kept : list.WellKept) (found : list.getMN dmn.proTxHash = some dmn)
    (owner : new.keyIDOwner ≠ 0) (index : MnUniquePropertyMap) (holder : Uint256) (property : UniqueProperty) :
    list.heldAfter dmn.proTxHash dmn.pdmnState new holder property
      ↔ (list.withState dmn new index).Holds holder property := by
  have oldNull : (keyIDOwner dmn.pdmnState.keyIDOwner).isNull = false :=
    beq_eq_false_iff_ne.mpr (kept.proper _ _ found).owner
  have newNull : (keyIDOwner new.keyIDOwner).isNull = false := beq_eq_false_iff_ne.mpr owner
  by_cases same : holder = dmn.proTxHash
  · subst same
    have next : (list.withState dmn new index).Holds dmn.proTxHash property
        ↔ property ∈ ({ dmn with pdmnState := new } : CDeterministicMN).uniqueProperties :=
      holds_iff (by simp [getMN_withState])
    rw [next, CDeterministicMN.mem_uniqueProperties]
    simp only [heldAfter, UniqueIndex.exchanged, holds_iff found, CDeterministicMN.mem_uniqueProperties,
      ne_eq, nonNull_eq_some]
    cases property <;> grind
  · have others : ∀ value, list.Holds holder value → value ∉ dmn.uniqueProperties :=
      fun value held member => same (kept.unique held ((holds_iff found).mpr member))
    have next : (list.withState dmn new index).Holds holder property ↔ list.Holds holder property := by
      simp [Holds, getMN_withState, same]
    rw [next]
    simp only [heldAfter, UniqueIndex.exchanged, same, false_and, or_false]
    constructor
    · rintro ⟨⟨⟨held, -⟩, -⟩, -⟩
      exact held
    · intro held
      have notOwn := others property held
      rw [CDeterministicMN.mem_uniqueProperties] at notOwn
      simp only [not_or] at notOwn
      obtain ⟨-, notAddr, notOwner, notKey⟩ := notOwn
      refine ⟨⟨⟨held, notAddr⟩, fun isOwner => notOwner ?_⟩, notKey⟩
      exact (nonNull_eq_some.mp isOwner).1.symm

/-- The exchange of one of the three properties, whatever the ones before it did. -/
private theorem exchange_slot (exact : UniqueIndex.Exact holds index) (old new : UniqueProperty)
    (has : old.isNull = false → holds proTxHash old)
    (free : new ≠ old → new.isNull = false → ∀ holder, ¬ holds holder new) :
    ∃ next, updateUniqueProperty proTxHash index old new = .ok next
      ∧ UniqueIndex.Exact (UniqueIndex.exchanged holds proTxHash old.nonNull new.nonNull) next := by
  have hasSome : ∀ property, old.nonNull = some property → holds proTxHash property := by
    intro property isOld
    obtain ⟨rfl, notNull⟩ := nonNull_eq_some.mp isOld
    exact has notNull
  have freeSome : old.nonNull ≠ new.nonNull → ∀ property, new.nonNull = some property →
      ∀ holder, ¬ holds holder property := by
    intro changes property isNew
    obtain ⟨rfl, notNull⟩ := nonNull_eq_some.mp isNew
    exact free (fun same => changes (by rw [same])) notNull
  obtain ⟨next, exchanges, exactNext⟩ := exact.exchange_free hasSome freeSome
  exact ⟨next, updateUniqueProperty_eq_ok exchanges, exactNext⟩

private theorem exchange_addr (kept : list.WellKept) (found : list.getMN dmn.proTxHash = some dmn)
    (free : new.addr ≠ dmn.pdmnState.addr → new.addr ≠ CService.null →
      ∀ holder, ¬ list.Holds holder (.addr new.addr)) :
    ∃ next, updateUniqueProperty dmn.proTxHash list.mnUniquePropertyMap (.addr dmn.pdmnState.addr)
        (.addr new.addr) = .ok next
      ∧ UniqueIndex.Exact (UniqueIndex.exchanged list.Holds dmn.proTxHash
        (addr dmn.pdmnState.addr).nonNull (addr new.addr).nonNull) next :=
  exchange_slot kept.exact _ _
    (fun notNull => (holds_iff found).mpr (CDeterministicMN.addr_mem.mpr ⟨rfl, beq_eq_false_iff_ne.mp notNull⟩))
    (fun changes notNull => free (fun same => changes (by rw [same])) (beq_eq_false_iff_ne.mp notNull))

theorem updateMN_eq (kept : list.WellKept) (found : list.getMN dmn.proTxHash = some dmn)
    (owner : new.keyIDOwner ≠ 0) (free : list.Free dmn.pdmnState new) :
    ∃ index, list.updateMN dmn new = .ok (list.withState dmn new index)
      ∧ (list.withState dmn new index).WellKept := by
  obtain ⟨first, firstRuns, firstExact⟩ := exchange_addr kept found free.addr
  obtain ⟨second, secondRuns, secondExact⟩ := exchange_slot firstExact
    (.keyIDOwner dmn.pdmnState.keyIDOwner) (.keyIDOwner new.keyIDOwner)
    (fun _ => .inl ⟨(holds_iff found).mpr (CDeterministicMN.mem_uniqueProperties.mpr (.inr (.inr (.inl rfl)))),
      by simp [nonNull_eq_some]⟩)
    (by
      rintro changes - holder (⟨held, -⟩ | ⟨-, isAddr⟩)
      · exact free.owner (fun same => changes (by rw [same])) holder held
      · simp [nonNull_eq_some] at isAddr)
  obtain ⟨third, thirdRuns, thirdExact⟩ := exchange_slot secondExact
    (.pubKeyOperator dmn.pdmnState.pubKeyOperator) (.pubKeyOperator new.pubKeyOperator)
    (fun notNull => .inl ⟨.inl ⟨(holds_iff found).mpr
      (CDeterministicMN.operator_mem.mpr ⟨rfl, beq_eq_false_iff_ne.mp notNull⟩),
      by simp [nonNull_eq_some]⟩, by simp [nonNull_eq_some]⟩)
    (by
      rintro changes notNull holder (⟨⟨held, -⟩ | ⟨-, isAddr⟩, -⟩ | ⟨-, isOwner⟩)
      · exact free.operator (fun same => changes (by rw [same])) (beq_eq_false_iff_ne.mp notNull) holder held
      · simp [nonNull_eq_some] at isAddr
      · simp [nonNull_eq_some] at isOwner)
  refine ⟨third, ?_, kept.changed (getMN_withState list dmn new third) ?_
    (thirdExact.congr (kept.heldAfter_iff found owner third))⟩
  · unfold updateMN
    simp only [firstRuns, secondRuns, thirdRuns, bind, Except.bind]
    rfl
  · rintro _ ⟨⟩
    exact ⟨rfl, (kept.proper _ _ found).collateral, owner⟩

theorem updateMN_taken (kept : list.WellKept) (found : list.getMN dmn.proTxHash = some dmn)
    (sameOwner : new.keyIDOwner = dmn.pdmnState.keyIDOwner)
    (freeAddr : new.addr ≠ dmn.pdmnState.addr → new.addr ≠ CService.null →
      ∀ holder, ¬ list.Holds holder (.addr new.addr)) (valid : new.pubKeyOperator ≠ 0)
    {holder : Uint256} (held : list.Holds holder (.pubKeyOperator new.pubKeyOperator))
    (differs : holder ≠ dmn.proTxHash) :
    list.updateMN dmn new = .error "assert(!oldEntry || oldEntry->first == dmn->proTxHash)" := by
  obtain ⟨first, firstRuns, firstExact⟩ := exchange_addr kept found freeAddr
  have secondRuns : updateUniqueProperty dmn.proTxHash first
      (.keyIDOwner dmn.pdmnState.keyIDOwner) (.keyIDOwner new.keyIDOwner) = .ok first := by
    rw [sameOwner]
    exact if_pos rfl
  have thirdRuns := updateUniqueProperty_taken firstExact
    (.pubKeyOperator dmn.pdmnState.pubKeyOperator) (.pubKeyOperator new.pubKeyOperator)
    (fun notNull => .inl ⟨(holds_iff found).mpr
      (CDeterministicMN.operator_mem.mpr ⟨rfl, beq_eq_false_iff_ne.mp notNull⟩),
      by simp [nonNull_eq_some]⟩)
    (.inl ⟨held, by simp [nonNull_eq_some]⟩) differs
    (beq_eq_false_iff_ne.mpr valid)
  unfold updateMN
  simp only [firstRuns, secondRuns, thirdRuns, bind, Except.bind]

/-! ## What a success says -/

theorem addUniqueProperty_eq_ok (index : MnUniquePropertyMap) (v : UniqueProperty)
    (next : MnUniquePropertyMap) :
    addUniqueProperty proTxHash index v = .ok next ↔
      required "assert(!oldEntry || oldEntry->first == dmn->proTxHash)" (index.claim proTxHash v)
          = .ok next ∧ v.isNull = false := by
  unfold addUniqueProperty
  rw [ite_error_eq_ok, Bool.not_eq_true, and_comm]

theorem addMN_ok (kept : list.WellKept) (added : list.addMN dmn = .ok next) :
    dmn.Proper ∧ list.getMN dmn.proTxHash = none ∧ ∃ index, next = list.withMN dmn index ∧ next.WellKept := by
  have absent : list.getMN dmn.proTxHash = none := by
    cases found : list.getMN dmn.proTxHash with
    | none => rfl
    | some other => simp [addMN, hasMN, found] at added
  have loop := added
  unfold addMN hasMN at loop
  rw [absent, if_neg (by simp)] at loop
  obtain ⟨claimed, claims, -⟩ := bind_eq_ok.mp loop
  obtain ⟨claims, notNull⟩ := (foldlM_guarded addUniqueProperty_eq_ok).mp claims
  rw [foldlM_required (fun _ _ _ => rfl), required_eq_ok] at claims
  have proper : dmn.Proper := by
    refine ⟨notNull _ (CDeterministicMN.mem_uniqueProperties.mpr (.inl rfl)), ?_⟩
    exact beq_eq_false_iff_ne.mp
      (notNull _ (CDeterministicMN.mem_uniqueProperties.mpr (.inr (.inr (.inl rfl)))))
  have free : ∀ property ∈ dmn.uniqueProperties, list.hasUniqueProperty property = false := by
    intro property member
    refine kept.hasUniqueProperty_eq_false.mpr fun holder held => ?_
    have same := UniqueIndex.claim_all_some dmn.uniqueProperties_nodup claims member
      (kept.exact.indexed holder property held)
    obtain ⟨other, found, -⟩ := held
    rw [same, absent] at found
    cases found
  obtain ⟨index, runs, keptNext⟩ := addMN_eq kept proper absent free
  have isNext : next = list.withMN dmn index := Except.ok.inj (added.symm.trans runs)
  exact ⟨proper, absent, index, isNext, isNext ▸ keptNext⟩

theorem removeMN_ok (kept : list.WellKept) (removed : list.removeMN proTxHash = .ok next) :
    ∃ dmn index, list.getMN proTxHash = some dmn ∧ dmn.proTxHash = proTxHash
      ∧ next = list.withoutMN dmn index ∧ next.WellKept := by
  cases found : list.getMN proTxHash with
  | none => simp [removeMN, found] at removed
  | some dmn =>
    obtain rfl := kept.keyed proTxHash dmn found
    obtain ⟨index, runs, keptNext⟩ := removeMN_eq kept found
    have isNext : next = list.withoutMN dmn index := Except.ok.inj (removed.symm.trans runs)
    exact ⟨dmn, index, rfl, rfl, isNext, isNext ▸ keptNext⟩

/-- An update that keeps the owner key goes through exactly when nobody holds the new
properties. -/
theorem updateMN_ok (kept : list.WellKept) (found : list.getMN dmn.proTxHash = some dmn)
    (sameOwner : new.keyIDOwner = dmn.pdmnState.keyIDOwner) (updated : list.updateMN dmn new = .ok next) :
    list.Free dmn.pdmnState new ∧ ∃ index, next = list.withState dmn new index ∧ next.WellKept := by
  have freeAddr : new.addr ≠ dmn.pdmnState.addr → new.addr ≠ CService.null →
      ∀ holder, ¬ list.Holds holder (.addr new.addr) := by
    intro changes valid holder held
    by_cases same : holder = dmn.proTxHash
    · exact changes (CDeterministicMN.addr_mem.mp ((holds_iff found).mp (same ▸ held))).1.symm
    · obtain ⟨first, runs, -⟩ := bind_eq_ok.mp updated
      rw [updateUniqueProperty_taken kept.exact (.addr dmn.pdmnState.addr) (.addr new.addr)
        (fun notNull => ⟨dmn, found, CDeterministicMN.addr_mem.mpr
          ⟨rfl, beq_eq_false_iff_ne.mp notNull⟩⟩) held same (beq_eq_false_iff_ne.mpr valid)] at runs
      cases runs
  have freeOperator : new.pubKeyOperator ≠ dmn.pdmnState.pubKeyOperator → new.pubKeyOperator ≠ 0 →
      ∀ holder, ¬ list.Holds holder (.pubKeyOperator new.pubKeyOperator) := by
    intro changes valid holder held
    by_cases same : holder = dmn.proTxHash
    · exact changes (CDeterministicMN.operator_mem.mp ((holds_iff found).mp (same ▸ held))).1.symm
    · rw [updateMN_taken kept found sameOwner freeAddr valid held same] at updated
      cases updated
  have free : list.Free dmn.pdmnState new := ⟨freeAddr, absurd sameOwner, freeOperator⟩
  have owner : new.keyIDOwner ≠ 0 := sameOwner ▸ (kept.proper _ _ found).owner
  obtain ⟨index, runs, keptNext⟩ := updateMN_eq kept found owner free
  have isNext : next = list.withState dmn new index := Except.ok.inj (updated.symm.trans runs)
  exact ⟨free, index, isNext, isNext ▸ keptNext⟩

end CDeterministicMNList

end BlackRaven.Evo
