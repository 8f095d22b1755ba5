import BlackRaven.Lib.WriteBack

/-!
Contract: write-back caches stacked to any height, each level with its own readings.

Owns: what every level of a stack reads, and how the operations on the top cache, and the
operations on a lower cache that leave its readings alone, change the readings of all levels.
-/

namespace BlackRaven.Lib.WriteBack

open Store

section Operations

variable {K V : Type} [Ord K]

/-- What each level reads, from the top down. The last level is the base. -/
def Store.levels : Store K V → List (K → Option V)
  | .base contents => [contents]
  | .atop layer below => (atop layer below).read :: below.levels

/-- Change the part of a stack from some depth on. -/
def Store.changeFrom (change : Store K V → Option (Store K V)) : Nat → Store K V → Option (Store K V)
  | 0, store => change store
  | _ + 1, .base _ => none
  | depth + 1, .atop layer lower => (lower.changeFrom change depth).map (.atop layer)

/-- Forget the entry of a key when it carries no mark. -/
def Store.uncache : Store K V → K → Store K V
  | .base contents, _ => .base contents
  | .atop layer below, key =>
    if layer[key]?.any fun entry => !entry.dirty && !entry.fresh then .atop (layer.erase key) below
    else .atop layer below

/-- The readings after a flush: the second level reads as the first. -/
def flushLevels : List (K → Option V) → List (K → Option V)
  | first :: _ :: rest => first :: first :: rest
  | levels => levels

def HasCache (levels : List (K → Option V)) (depth : Nat) : Prop := depth + 1 < levels.length

instance (levels : List (K → Option V)) (depth : Nat) : Decidable (HasCache levels depth) :=
  inferInstanceAs (Decidable (_ < _))

theorem HasCache.atop {store : Store K V} (hasCache : HasCache store.levels 0) :
    ∃ layer below, store = .atop layer below := by
  cases store with
  | base contents => exact absurd hasCache (Nat.lt_irrefl 1)
  | atop layer below => exact ⟨layer, below, rfl⟩

theorem Store.Coherent.caches {layer : Layer K V} {below : Store K V} (coherent : (atop layer below).Coherent) :
    (atop layer below).Caches below.read (atop layer below).read :=
  ⟨⟨layer, below, rfl, rfl⟩, coherent, rfl⟩

end Operations

section Laws

variable {K V : Type} [Ord K] [DecidableEq K] [Std.TransOrd K] [Std.LawfulEqOrd K]

variable {store : Store K V}

end Laws

end BlackRaven.Lib.WriteBack
