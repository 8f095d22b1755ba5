import Mathlib.Data.List.Destutter
import Mathlib.Data.List.NodupEquivFin

/-!
Contract: items looked up one after the other in a list, each search starting where the one
before ended, at the place that was found and not behind it.

Owns: what such a search finds. A run of equal items takes one place, so the search finds the
items with repetitions dropped.
-/

namespace BlackRaven.Lib

variable {α : Type} [DecidableEq α]

/-- The first place of an item from `start` on. -/
def findFrom (places : List α) (start : Nat) (item : α) : Option Nat :=
  ((places.drop start).findIdx? (· == item)).map (start + ·)

/-- All items are found. The next search starts at the place that was found. -/
def greedyMatch (places : List α) : List α → Nat → Bool
  | [], _ => true
  | item :: items, start =>
    match findFrom places start item with
    | none => false
    | some found => greedyMatch places items found

variable {places items : List α} {start : Nat} {item : α}

theorem findFrom_eq_some {found : Nat} (finds : findFrom places start item = some found) :
    ∃ passed rest, places.drop start = passed ++ item :: rest ∧ item ∉ passed
      ∧ places.drop found = item :: rest := by
  obtain ⟨offset, isOffset, rfl⟩ := Option.map_eq_some_iff.mp finds
  obtain ⟨inside, isItem, before⟩ := List.findIdx?_eq_some_iff_getElem.mp isOffset
  rw [beq_iff_eq] at isItem
  have dropped : places.drop (start + offset) = item :: (places.drop start).drop (offset + 1) := by
    rw [← List.drop_drop, List.drop_eq_getElem_cons inside, isItem]
  refine ⟨(places.drop start).take offset, (places.drop start).drop (offset + 1), ?_, ?_, dropped⟩
  · rw [← isItem, ← List.drop_eq_getElem_cons inside, List.take_append_drop]
  · intro member
    obtain ⟨index, bound, same⟩ := List.mem_take_iff_getElem.mp member
    have earlier : index < offset := by omega
    exact before index earlier (beq_iff_eq.mpr same)

theorem findFrom_eq_none : findFrom places start item = none ↔ item ∉ places.drop start := by
  unfold findFrom
  rw [Option.map_eq_none_iff, List.findIdx?_eq_none_iff]
  constructor
  · intro absent member
    simpa using absent item member
  · intro absent place member
    rw [beq_eq_false_iff_ne]
    rintro rfl
    exact absent member

theorem destutter_cons_eq (item : α) (items : List α) :
    ∃ others, (item :: items).destutter (· ≠ ·) = item :: others := by
  induction items with
  | nil => exact ⟨[], rfl⟩
  | cons next rest ih =>
    rw [List.destutter_cons_cons]
    split
    · exact ⟨_, rfl⟩
    · exact ih

omit [DecidableEq α] in
theorem cons_sublist_append_iff {passed rest : List α} (absent : item ∉ passed) :
    (item :: items).Sublist (passed ++ rest) ↔ (item :: items).Sublist rest := by
  induction passed with
  | nil => rfl
  | cons head tail ih =>
    rw [List.mem_cons, not_or] at absent
    rw [List.cons_append, List.sublist_cons_iff, ← ih absent.2]
    refine or_iff_left ?_
    rintro ⟨remaining, splits, -⟩
    exact absent.1 (List.cons.inj splits).1

theorem greedyMatch_iff :
    greedyMatch places items start = true ↔ (items.destutter (· ≠ ·)).Sublist (places.drop start) := by
  induction items generalizing start with
  | nil => exact iff_of_true rfl (List.nil_sublist _)
  | cons item items ih =>
    unfold greedyMatch
    cases finds : findFrom places start item with
    | none =>
      refine iff_of_false Bool.false_ne_true fun sublist => ?_
      obtain ⟨others, starts⟩ := destutter_cons_eq item items
      rw [starts] at sublist
      exact findFrom_eq_none.mp finds (sublist.subset List.mem_cons_self)
    | some found =>
      obtain ⟨passed, rest, splits, absent, fromFound⟩ := findFrom_eq_some finds
      rw [ih, splits, fromFound]
      cases items with
      | nil =>
        refine iff_of_true (List.nil_sublist _) ?_
        exact (cons_sublist_append_iff absent).mpr (List.cons_sublist_cons.mpr (List.nil_sublist rest))
      | cons next others =>
        obtain ⟨tail, starts⟩ := destutter_cons_eq next others
        rw [List.destutter_cons_cons, ← List.destutter_cons', ← List.destutter_cons', starts]
        by_cases same : item = next
        · -- A repetition is found where its first item was.
          obtain rfl := same
          rw [if_neg (not_not.mpr rfl), starts, cons_sublist_append_iff absent]
        · rw [if_pos same, cons_sublist_append_iff absent, List.cons_sublist_cons]
          exact cons_sublist_append_iff (fun member => same (List.mem_singleton.mp member).symm)

/-- The items have distinct places in their order. -/
def Placed (items places : List α) : Prop :=
  ∃ place : Fin items.length → Fin places.length, StrictMono place
    ∧ ∀ index, places.get (place index) = items.get index

omit [DecidableEq α] in
theorem placed_iff : Placed items places ↔ items.Sublist places := by
  rw [List.sublist_iff_exists_fin_orderEmbedding_get_eq]
  constructor
  · rintro ⟨place, increasing, same⟩
    exact ⟨OrderEmbedding.ofStrictMono place increasing, fun index => (same index).symm⟩
  · rintro ⟨place, same⟩
    exact ⟨place, place.strictMono, fun index => (same index).symm⟩

end BlackRaven.Lib
