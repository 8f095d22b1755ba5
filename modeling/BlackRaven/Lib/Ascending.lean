import Mathlib.Data.List.Perm.Subperm
import Mathlib.Data.List.Sort
import Mathlib.Order.Defs.LinearOrder

/-!
Contract: ordered sets and maps as lists that ascend by a key.

Owns: insertion that keeps what is there, and reading a list back item by item.
-/

namespace BlackRaven.Lib

variable {α κ : Type} [LinearOrder κ]

def Ascending (key : α → κ) (items : List α) : Prop := items.Pairwise fun left right => key left < key right

def emplace (key : α → κ) (item : α) : List α → List α
  | [] => [item]
  | head :: tail =>
    if key item < key head then item :: head :: tail
    else if key head < key item then head :: emplace key item tail
    else head :: tail

variable {key : α → κ}

variable {items : List α}

variable {item other : α}

theorem mem_of_mem_emplace (member : other ∈ emplace key item items) : other = item ∨ other ∈ items := by
  induction items with
  | nil => exact .inl (List.mem_singleton.mp member)
  | cons head tail ih =>
    unfold emplace at member
    split at member
    · exact List.mem_cons.mp member
    · split at member
      · rcases List.mem_cons.mp member with rfl | later
        · exact .inr List.mem_cons_self
        · exact (ih later).imp_right (List.mem_cons_of_mem head)
      · exact .inr member

theorem mem_emplace (fresh : ∀ present ∈ items, key present ≠ key item) :
    other ∈ emplace key item items ↔ other = item ∨ other ∈ items := by
  induction items with
  | nil => simp [emplace]
  | cons head tail ih =>
    have later := ih fun present member =>
      fresh present (List.mem_cons_of_mem head member)
    unfold emplace
    split
    · exact List.mem_cons
    · rename_i notBelow
      rw [if_pos (lt_of_le_of_ne (not_lt.mp notBelow) (fresh head List.mem_cons_self)),
        List.mem_cons, later, List.mem_cons]
      exact or_left_comm

theorem Ascending.emplace (ascends : Ascending key items) : Ascending key (emplace key item items) := by
  induction items with
  | nil => exact List.pairwise_singleton _ _
  | cons head tail ih =>
    obtain ⟨above, tailAscends⟩ := List.pairwise_cons.mp ascends
    unfold Lib.emplace
    split
    · rename_i below
      refine List.pairwise_cons.mpr ⟨fun other member => ?_, ascends⟩
      rcases List.mem_cons.mp member with rfl | later
      · exact below
      · exact below.trans (above other later)
    · split
      · rename_i isAbove
        refine List.pairwise_cons.mpr ⟨fun other member => ?_, ih tailAscends⟩
        rcases mem_of_mem_emplace member with rfl | later
        · exact isAbove
        · exact above other later
      · exact ascends

def collect (key : α → κ) (items : List α) : List α := items.foldl (fun found item => emplace key item found) []

theorem ascending_collect (items : List α) : Ascending key (collect key items) :=
  List.foldlRecOn items _ List.Pairwise.nil fun _ ascends _ _ => ascends.emplace

private theorem mem_foldl_emplace {items found : List α} (distinct : (items.map key).Nodup)
    (fresh : ∀ item ∈ items, ∀ present ∈ found, key present ≠ key item) :
    other ∈ items.foldl (fun found item => emplace key item found) found ↔ other ∈ items ∨ other ∈ found := by
  induction items generalizing found with
  | nil => simp
  | cons head tail ih =>
    obtain ⟨notAgain, tailDistinct⟩ := List.nodup_cons.mp (List.map_cons ▸ distinct)
    have atHead := fresh head List.mem_cons_self
    rw [List.foldl_cons, ih tailDistinct, mem_emplace atHead, List.mem_cons]
    · exact (or_left_comm.trans or_assoc.symm)
    · intro item member present isPresent
      rw [mem_emplace atHead] at isPresent
      rcases isPresent with rfl | before
      · exact fun same => notAgain (same ▸ List.mem_map_of_mem member)
      · exact fresh item (List.mem_cons_of_mem head member) present before

theorem mem_collect (distinct : (items.map key).Nodup) : item ∈ collect key items ↔ item ∈ items := by
  unfold collect
  rw [mem_foldl_emplace distinct (fun _ _ _ impossible => by cases impossible)]
  simp

theorem length_collect (distinct : (items.map key).Nodup) : (collect key items).length = items.length := by
  refine ((List.perm_ext_iff_of_nodup ?_ distinct.of_map).mpr fun item => mem_collect distinct).length_eq
  refine (ascending_collect items).imp ?_
  rintro left right below rfl
  exact lt_irrefl _ below

private theorem emplace_last (below : ∀ present ∈ items, key present < key item) :
    emplace key item items = items ++ [item] := by
  induction items with
  | nil => rfl
  | cons head tail ih =>
    have headBelow := below head List.mem_cons_self
    unfold emplace
    rw [if_neg (not_lt.mpr headBelow.le), if_pos headBelow, ih (List.forall_mem_cons.mp below).2]
    rfl

/-- Reading the items of a map in their order gives the map back. -/
theorem collect_eq_self (ascends : Ascending key items) : collect key items = items := by
  suffices general : ∀ {found : List α}, Ascending key (found ++ items) →
      items.foldl (fun found item => emplace key item found) found = found ++ items from
    general ascends
  clear ascends
  intro found ascends
  induction items generalizing found with
  | nil => simp
  | cons head tail ih =>
    have below : ∀ present ∈ found, key present < key head := fun present member =>
      (List.pairwise_append.mp ascends).2.2 present member head List.mem_cons_self
    rw [List.foldl_cons, emplace_last below, ih]
    · simp
    · simpa using ascends

theorem Ascending.length_le {key : α → Nat} (ascends : Ascending key items) {bound : Nat}
    (below : ∀ item ∈ items, key item < bound) : items.length ≤ bound := by
  have distinct : (items.map key).Nodup := List.pairwise_map.mpr (ascends.imp fun below => below.ne)
  have included : items.map key ⊆ List.range bound := by
    intro number member
    obtain ⟨item, isItem, rfl⟩ := List.mem_map.mp member
    exact List.mem_range.mpr (below item isItem)
  have length := (List.subperm_of_subset distinct included).length_le
  rwa [List.length_map, List.length_range] at length

end BlackRaven.Lib
