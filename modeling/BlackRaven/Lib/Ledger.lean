import BlackRaven.Lib.WriteBack

/-!
Contract: partial maps that are changed by taking keys out and putting pairs in.

Owns: what a list of changes leaves at a key.
-/

namespace BlackRaven.Lib

open BlackRaven.Lib.WriteBack (update update_self update_of_ne)

variable {K V : Type}

section Changes

variable [DecidableEq K]

def removeAll (contents : K → Option V) (keys : List K) : K → Option V :=
  keys.foldl (fun contents key => update contents key none) contents

/-- Put a list of pairs in, later ones over earlier ones. -/
def addAll (contents : K → Option V) (items : List (K × V)) : K → Option V :=
  items.foldl (fun contents item => update contents item.1 (some item.2)) contents

section Lookup

variable {contents : K → Option V} {keys : List K} {items : List (K × V)} {key : K}

theorem removeAll_of_notMem (absent : key ∉ keys) : removeAll contents keys key = contents key := by
  induction keys generalizing contents with
  | nil => rfl
  | cons head tail ih =>
    rw [List.mem_cons, not_or] at absent
    exact (ih absent.2).trans (update_of_ne _ _ absent.1)

theorem removeAll_of_mem (member : key ∈ keys) : removeAll contents keys key = none := by
  induction keys generalizing contents with
  | nil => cases member
  | cons head tail ih =>
    by_cases later : key ∈ tail
    · exact ih later
    · rcases List.mem_cons.mp member with rfl | inTail
      · exact (removeAll_of_notMem later).trans (update_self _ _ _)
      · exact absurd inTail later

theorem addAll_of_notMem (absent : key ∉ items.map Prod.fst) : addAll contents items key = contents key := by
  induction items generalizing contents with
  | nil => rfl
  | cons head tail ih =>
    rw [List.map_cons, List.mem_cons, not_or] at absent
    exact (ih absent.2).trans (update_of_ne _ _ absent.1)

theorem addAll_of_mem (distinct : (items.map Prod.fst).Nodup) {value : V}
    (member : (key, value) ∈ items) : addAll contents items key = some value := by
  induction items generalizing contents with
  | nil => cases member
  | cons head tail ih =>
    rw [List.map_cons, List.nodup_cons] at distinct
    rcases List.mem_cons.mp member with rfl | inTail
    · exact (addAll_of_notMem distinct.1).trans (update_self _ _ _)
    · exact ih distinct.2 inTail

/-- What is found after the changes was there before or was put in. -/
theorem addAll_eq_some {value : V} (found : addAll contents items key = some value) :
    contents key = some value ∨ (key, value) ∈ items := by
  induction items generalizing contents with
  | nil => exact .inl found
  | cons head tail ih =>
    rcases ih found with before | inTail
    · by_cases same : key = head.1
      · dsimp only at before
        rw [same, update_self] at before
        cases before
        exact .inr (by rw [same]; exact List.mem_cons_self)
      · dsimp only at before
        rw [update_of_ne _ _ same] at before
        exact .inl before
    · exact .inr (List.mem_cons_of_mem _ inTail)

theorem removeAll_eq_some {value : V} (found : removeAll contents keys key = some value) :
    contents key = some value ∧ key ∉ keys := by
  by_cases member : key ∈ keys
  · rw [removeAll_of_mem member] at found
    cases found
  · rw [removeAll_of_notMem member] at found
    exact ⟨found, member⟩

end Lookup

end Changes

end BlackRaven.Lib
