import Mathlib.Logic.Function.Basic

/-!
Contract: an index from the properties no two members may share to the member that
holds each, kept by claims and releases.

Owns: the two operations, the exchange of one property for another, and what it means
for the index to be exact for a relation of holding.
-/

namespace BlackRaven.Lib

/-- Who holds a property, and how often the holder claimed it. -/
abbrev UniqueIndex (κ π : Type) := π → Option (κ × Nat)

namespace UniqueIndex

variable {κ π : Type}

/-- The index holds exactly what the members hold, once each. -/
structure Exact (holds : κ → π → Prop) (index : UniqueIndex κ π) : Prop where
  indexed : ∀ member property, holds member property → index property = some (member, 1)
  held : ∀ member property count, index property = some (member, count) → count = 1 ∧ holds member property

namespace Exact

variable {holds other : κ → π → Prop} {index : UniqueIndex κ π} {property : π}

theorem unique (exact : Exact holds index) {left right : κ} (leftHolds : holds left property)
    (rightHolds : holds right property) : left = right := by
  have same := exact.indexed left property leftHolds
  rw [exact.indexed right property rightHolds] at same
  exact (congrArg Prod.fst (Option.some.inj same)).symm

theorem eq_none_iff (exact : Exact holds index) :
    index property = none ↔ ∀ member, ¬ holds member property := by
  constructor
  · intro absent member held
    rw [exact.indexed member property held] at absent
    cases absent
  · intro free
    cases entry : index property with
    | none => rfl
    | some pair => exact absurd (exact.held pair.1 property pair.2 entry).2 (free pair.1)

theorem iff_entries : Exact holds index ↔ ∀ member property count,
    index property = some (member, count) ↔ count = 1 ∧ holds member property := by
  constructor
  · intro exact member property count
    refine ⟨exact.held member property count, ?_⟩
    rintro ⟨rfl, held⟩
    exact exact.indexed member property held
  · intro entries
    exact ⟨fun member property held => (entries member property 1).mpr ⟨rfl, held⟩,
      fun member property count => (entries member property count).mp⟩

theorem congr (exact : Exact holds index)
    (same : ∀ member property, holds member property ↔ other member property) : Exact other index :=
  iff_entries.mpr fun member property count =>
    (iff_entries.mp exact member property count).trans (and_congr_right fun _ => same member property)

end Exact

variable [DecidableEq κ] [DecidableEq π]

variable (index : UniqueIndex κ π) (member : κ) (property : π)

/-- A claim fails where another member is the holder. -/
def claim : Option (UniqueIndex κ π) :=
  match index property with
  | none => some (Function.update index property (some (member, 1)))
  | some (holder, count) =>
    if holder = member then
      some (Function.update index property (some (member, count + 1)))
    else none

def release : Option (UniqueIndex κ π) :=
  match index property with
  | none => none
  | some (holder, count) =>
    if holder = member then
      some (Function.update index property (if count = 1 then none else some (member, count - 1)))
    else none

namespace Exact

variable {holds : κ → π → Prop} {index : UniqueIndex κ π} {member : κ} {property : π}

theorem claim_free (exact : Exact holds index) (member : κ) (free : ∀ member, ¬ holds member property) :
    ∃ next, index.claim member property = some next
      ∧ Exact (fun key value => holds key value ∨ (key = member ∧ value = property)) next := by
  refine ⟨Function.update index property (some (member, 1)), ?_, iff_entries.mpr fun key value count => ?_⟩
  · unfold claim
    rw [exact.eq_none_iff.mpr free]
  · by_cases same : value = property
    · subst same
      simp [free, eq_comm, and_comm]
    · simp [same, iff_entries.mp exact]

theorem claim_taken (exact : Exact holds index) {holder : κ} (held : holds holder property)
    (differs : holder ≠ member) : index.claim member property = none := by
  unfold claim
  rw [exact.indexed holder property held]
  exact if_neg differs

theorem release_held (exact : Exact holds index) (held : holds member property) :
    ∃ next, index.release member property = some next
      ∧ Exact (fun key value => holds key value ∧ value ≠ property) next := by
  refine ⟨Function.update index property none, ?_, iff_entries.mpr fun key value count => ?_⟩
  · unfold release
    rw [exact.indexed member property held]
    simp
  · by_cases same : value = property
    · simp [same]
    · simp [same, iff_entries.mp exact]

/-! ## Several properties at once -/

theorem claim_all (member : κ) {properties : List π} (exact : Exact holds index)
    (distinct : properties.Nodup) (free : ∀ property ∈ properties, ∀ member, ¬ holds member property) :
    ∃ next, properties.foldlM (fun index property => index.claim member property) index = some next
      ∧ Exact (fun key value => holds key value ∨ (key = member ∧ value ∈ properties)) next := by
  induction properties generalizing holds index with
  | nil => exact ⟨index, rfl, exact.congr fun key value => by simp⟩
  | cons head tail ih =>
    obtain ⟨notAgain, distinctTail⟩ := List.nodup_cons.mp distinct
    obtain ⟨middle, claimed, exactMiddle⟩ := exact.claim_free member (free head List.mem_cons_self)
    have freeTail : ∀ property ∈ tail, ∀ key,
        ¬ (holds key property ∨ (key = member ∧ property = head)) := by
      rintro property present key (held | ⟨-, rfl⟩)
      · exact free property (List.mem_cons_of_mem head present) key held
      · exact notAgain present
    obtain ⟨next, rest, exactNext⟩ := ih exactMiddle distinctTail freeTail
    refine ⟨next, ?_, exactNext.congr fun key value => ?_⟩
    · rw [List.foldlM_cons, claimed]
      exact rest
    · rw [List.mem_cons, and_or_left, or_assoc]

theorem release_all (member : κ) {properties : List π} (exact : Exact holds index)
    (distinct : properties.Nodup) (held : ∀ property ∈ properties, holds member property) :
    ∃ next, properties.foldlM (fun index property => index.release member property) index = some next
      ∧ Exact (fun key value => holds key value ∧ value ∉ properties) next := by
  induction properties generalizing holds index with
  | nil => exact ⟨index, rfl, exact.congr fun key value => by simp⟩
  | cons head tail ih =>
    obtain ⟨notAgain, distinctTail⟩ := List.nodup_cons.mp distinct
    obtain ⟨middle, released, exactMiddle⟩ := exact.release_held (held head List.mem_cons_self)
    have heldTail : ∀ property ∈ tail, holds member property ∧ property ≠ head := by
      intro property present
      exact ⟨held property (List.mem_cons_of_mem head present), fun same => notAgain (same ▸ present)⟩
    obtain ⟨next, rest, exactNext⟩ := ih exactMiddle distinctTail heldTail
    refine ⟨next, ?_, exactNext.congr fun key value => ?_⟩
    · rw [List.foldlM_cons, released]
      exact rest
    · rw [List.mem_cons, not_or, and_assoc]

end Exact

theorem claim_frame {index next : UniqueIndex κ π} {member : κ} {property other : π}
    (claimed : index.claim member property = some next) (differs : other ≠ property) :
    next other = index other := by
  unfold claim at claimed
  split at claimed
  · rw [← Option.some.inj claimed, Function.update_of_ne differs]
  · split at claimed
    · rw [← Option.some.inj claimed, Function.update_of_ne differs]
    · cases claimed

theorem claim_all_some {member : κ} {properties : List π} {index next : UniqueIndex κ π}
    (distinct : properties.Nodup)
    (claims : properties.foldlM (fun index property => index.claim member property) index = some next)
    {property : π} (present : property ∈ properties) {holder : κ} {count : Nat}
    (entry : index property = some (holder, count)) : holder = member := by
  induction properties generalizing index with
  | nil => cases present
  | cons head tail ih =>
    obtain ⟨notAgain, distinctTail⟩ := List.nodup_cons.mp distinct
    rw [List.foldlM_cons] at claims
    obtain ⟨middle, claimed, rest⟩ := Option.bind_eq_some_iff.mp claims
    rcases List.mem_cons.mp present with rfl | inTail
    · unfold claim at claimed
      rw [entry] at claimed
      by_contra differs
      simp [differs] at claimed
    · have differs : property ≠ head := fun same => notAgain (same ▸ inTail)
      refine ih distinctTail rest inTail ?_
      rw [claim_frame claimed differs]
      exact entry

/-! ## One property for another -/

def releaseAny : Option π → Option (UniqueIndex κ π)
  | none => some index
  | some property => index.release member property

def claimAny : Option π → Option (UniqueIndex κ π)
  | none => some index
  | some property => index.claim member property

def exchange (old new : Option π) :
    Option (UniqueIndex κ π) :=
  if old = new then some index
  else index.releaseAny member old >>= fun index => index.claimAny member new

/-- What is held once `member` has exchanged `old` for `new`. -/
def exchanged (holds : κ → π → Prop) (member : κ) (old new : Option π) (key : κ) (value : π) : Prop :=
  (holds key value ∧ old ≠ some value) ∨ (key = member ∧ new = some value)

namespace Exact

variable {holds : κ → π → Prop} {index : UniqueIndex κ π} {member : κ} {old new : Option π}

section

variable (exact : Exact holds index) (has : ∀ property, old = some property → holds member property)

include exact has

theorem released :
    ∃ next, index.releaseAny member old = some next
      ∧ Exact (fun key value => holds key value ∧ old ≠ some value) next := by
  cases old with
  | none => exact ⟨index, rfl, exact.congr fun key value => by simp⟩
  | some property =>
    obtain ⟨next, released, exactNext⟩ := exact.release_held (has property rfl)
    refine ⟨next, released, exactNext.congr fun key value => ?_⟩
    rw [ne_comm, ne_eq, ne_eq, Option.some_inj]

theorem exchange_free (free : old ≠ new → ∀ property, new = some property → ∀ key, ¬ holds key property) :
    ∃ next, index.exchange member old new = some next ∧ Exact (exchanged holds member old new) next := by
  by_cases same : old = new
  · subst same
    refine ⟨index, if_pos rfl, exact.congr fun key value => ?_⟩
    constructor
    · intro held
      by_cases isOld : old = some value
      · exact .inr ⟨exact.unique held (has value isOld), isOld⟩
      · exact .inl ⟨held, isOld⟩
    · rintro (⟨held, -⟩ | ⟨rfl, isOld⟩)
      · exact held
      · exact has value isOld
  · obtain ⟨middle, gaveUp, exactMiddle⟩ := exact.released has
    cases new with
    | none =>
      refine ⟨middle, ?_, exactMiddle.congr fun key value => by simp [exchanged]⟩
      rw [exchange, if_neg same, gaveUp]
      rfl
    | some property =>
      have freeMiddle : ∀ key, ¬ (holds key property ∧ old ≠ some property) :=
        fun key held => free same property rfl key held.1
      obtain ⟨next, claimed, exactNext⟩ := exactMiddle.claim_free member freeMiddle
      refine ⟨next, ?_, exactNext.congr fun key value => ?_⟩
      · rw [exchange, if_neg same, gaveUp]
        exact claimed
      · unfold exchanged
        rw [Option.some_inj, eq_comm (a := property)]

end

end Exact

end UniqueIndex

end BlackRaven.Lib
