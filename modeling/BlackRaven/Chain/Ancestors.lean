import BlackRaven.Chain.HeaderChain

/-!
Contract: `GetAncestor` over an index whose parent links go down to a root.

Owns: the recursion of `GetAncestor` along `pprev`, that ancestors of ancestors are ancestors,
and that an index that grows keeps them.
-/

namespace BlackRaven.Chain

/-- Every entry is found under its hash and is one above its parent; roots have height 0. -/
structure Rooted (map : BlockMap) : Prop where
  keyed : ∀ hash pindex, map hash = some pindex → pindex.hashBlock = hash
  parent : ∀ hash pindex prev, map hash = some pindex → pindex.pprev = some prev →
    ∃ pprev, map prev = some pprev ∧ pindex.nHeight = pprev.nHeight + 1
  root : ∀ hash pindex, map hash = some pindex → pindex.pprev = none → pindex.nHeight = 0

/-- The later index has every entry of the earlier one. -/
def Extends (map later : BlockMap) : Prop := ∀ hash pindex, map hash = some pindex → later hash = some pindex

theorem Extends.refl (map : BlockMap) : Extends map map := fun _ _ found => found

theorem Extends.trans {first second third : BlockMap} (one : Extends first second) (two : Extends second third) :
    Extends first third := fun hash pindex found => two hash pindex (one hash pindex found)

/-- An entry of the index and one of its ancestors, or itself. -/
def IsAncestor (map : BlockMap) (ancestor pindex : CBlockIndex) : Prop :=
  getAncestor map pindex ancestor.nHeight = some ancestor

theorem getAncestor_self (map : BlockMap) (pindex : CBlockIndex) :
    getAncestor map pindex pindex.nHeight = some pindex := by
  obtain ⟨rest, chain⟩ := List.head?_eq_some_iff.mp (chainOf_head map pindex)
  unfold getAncestor
  rw [chain, List.find?_cons_of_pos]
  exact beq_self_eq_true _

section

variable {map : BlockMap} {hash prev : Uint256} {pindex pprev : CBlockIndex}

theorem getAncestor_parent (isParent : pindex.pprev = some prev) (found : map prev = some pprev)
    (above : pindex.nHeight = pprev.nHeight + 1) {height : Nat} (other : height ≠ pindex.nHeight) :
    getAncestor map pindex height = getAncestor map pprev height := by
  have chain : chainOf map pindex = pindex :: chainOf map pprev := by
    unfold chainOf
    rw [above]
    conv_lhs => unfold walk
    rw [isParent, Option.bind_some, found]
  unfold getAncestor
  rw [chain, List.find?_cons_of_neg]
  simpa using Ne.symm other

theorem Rooted.getAncestor_trans (rooted : Rooted map) :
    ∀ {pindex ancestor : CBlockIndex} {hash : Uint256} {middle height : Nat}, map hash = some pindex →
      middle ≤ pindex.nHeight → getAncestor map pindex middle = some ancestor → height ≤ middle →
      getAncestor map pindex height = getAncestor map ancestor height := by
  intro pindex
  induction level : pindex.nHeight generalizing pindex with
  | zero =>
    intro ancestor hash middle height found inside isAncestor below
    have isOwn : middle = pindex.nHeight := by omega
    rw [isOwn, getAncestor_self] at isAncestor
    rw [Option.some.inj isAncestor]
  | succ lower ih =>
    intro ancestor hash middle height found inside isAncestor below
    by_cases isOwn : middle = pindex.nHeight
    · rw [isOwn, getAncestor_self] at isAncestor
      rw [Option.some.inj isAncestor]
    cases isPrev : pindex.pprev with
    | none =>
      have isRoot := rooted.root hash pindex found isPrev
      omega
    | some prev =>
      obtain ⟨pprev, parentFound, above⟩ := rooted.parent hash pindex prev found isPrev
      rw [getAncestor_parent isPrev parentFound above isOwn] at isAncestor
      rw [getAncestor_parent isPrev parentFound above (by omega)]
      exact ih (by omega) parentFound (by omega) isAncestor below

theorem Rooted.walk_extends (rooted : Rooted map) {later : BlockMap} (extension : Extends map later)
    {fuel : Nat} {pindex : CBlockIndex} {hash : Uint256} (found : map hash = some pindex) :
    walk later fuel pindex = walk map fuel pindex := by
  induction fuel generalizing pindex hash with
  | zero => rfl
  | succ fuel ih =>
    unfold walk
    cases isPrev : pindex.pprev with
    | none => rfl
    | some prev =>
      obtain ⟨pprev, parentFound, -⟩ := rooted.parent hash pindex prev found isPrev
      rw [Option.bind_some, Option.bind_some, parentFound, extension prev pprev parentFound]
      exact congrArg (pindex :: ·) (ih parentFound)

theorem Rooted.getAncestor_extends (rooted : Rooted map) {later : BlockMap} (extension : Extends map later)
    (found : map hash = some pindex) (height : Nat) :
    getAncestor later pindex height = getAncestor map pindex height := by
  unfold getAncestor chainOf
  rw [rooted.walk_extends extension found]

/-- A new entry over a known parent, or a new root. -/
def Placeable (map : BlockMap) (pindex : CBlockIndex) : Prop :=
  map pindex.hashBlock = none
    ∧ match pindex.pprev with
      | none => pindex.nHeight = 0
      | some prev => ∃ pprev, map prev = some pprev ∧ pindex.nHeight = pprev.nHeight + 1

theorem Placeable.extends (placeable : Placeable map pindex) : Extends map (map.set pindex) :=
  fun _ _ found => BlockMap.set_of_found placeable.1 found

theorem Rooted.set (rooted : Rooted map) (placeable : Placeable map pindex) : Rooted (map.set pindex) where
  keyed := by
    intro hash known found
    rcases BlockMap.eq_of_set found with ⟨rfl, rfl⟩ | old
    · rfl
    · exact rooted.keyed hash known old
  parent := by
    intro hash known prev found isPrev
    have above : ∃ pprev, map prev = some pprev ∧ known.nHeight = pprev.nHeight + 1 := by
      rcases BlockMap.eq_of_set found with ⟨rfl, rfl⟩ | old
      · have above := placeable.2
        rwa [isPrev] at above
      · exact rooted.parent hash known prev old isPrev
    obtain ⟨pprev, parentFound, level⟩ := above
    exact ⟨pprev, placeable.extends prev pprev parentFound, level⟩
  root := by
    intro hash known found isRoot
    rcases BlockMap.eq_of_set found with ⟨rfl, rfl⟩ | old
    · have level := placeable.2
      rwa [isRoot] at level
    · exact rooted.root hash known old isRoot

end

end BlackRaven.Chain
