import BlackRaven.Lib.SortedMap

/-!
Contract: pending additions and removals of keyed entries, and passing them on to
another such pair.

A key is pending on one side only. Recording a change of a key that is already pending
on that side keeps the first entry or the latest, as the caller chooses.

Owns: what the two sides hold after a change and after changes were passed on, and what
two layers of such pairs read together.
-/

namespace BlackRaven.Lib

structure ChangeSet (κ ε : Type) (cmp : κ → κ → Ordering) where
  toAdd : Std.TreeMap κ ε cmp
  toRemove : Std.TreeMap κ ε cmp

namespace ChangeSet

section Operations

variable {κ ε : Type} {cmp : κ → κ → Ordering}

def empty : ChangeSet κ ε cmp := ⟨∅, ∅⟩

variable (latest : Bool) (changes : ChangeSet κ ε cmp) (key : κ) (entry : ε)

def record (map : Std.TreeMap κ ε cmp) (key : κ) (entry : ε) :
    Std.TreeMap κ ε cmp :=
  if latest then map.insert key entry else map.insertIfNew key entry

def add : ChangeSet κ ε cmp :=
  ⟨record latest changes.toAdd key entry, changes.toRemove.erase key⟩

def remove :
    ChangeSet κ ε cmp :=
  ⟨changes.toAdd.erase key, record latest changes.toRemove key entry⟩

/-- Pass the changes on: first the additions, then the removals. -/
def flush (target : ChangeSet κ ε cmp) : ChangeSet κ ε cmp :=
  changes.toRemove.foldl (remove latest) (changes.toAdd.foldl (add latest) target)

def swap : ChangeSet κ ε cmp := ⟨changes.toRemove, changes.toAdd⟩

/-- Removing is adding with the sides swapped. -/
theorem foldl_remove (items : Std.TreeMap κ ε cmp) (target : ChangeSet κ ε cmp) :
    (items.foldl (remove latest) target).swap = items.foldl (add latest) target.swap := by
  rw [Std.TreeMap.foldl_eq_foldl_toList, Std.TreeMap.foldl_eq_foldl_toList]
  exact (List.foldl_hom swap fun _ _ => rfl).symm

end Operations

section Laws

variable {κ ε : Type} [DecidableEq κ] {cmp : κ → κ → Ordering} [Std.LawfulEqCmp cmp] [Std.TransCmp cmp]

variable (latest : Bool) (items : Std.TreeMap κ ε cmp) (target : ChangeSet κ ε cmp) (key : κ)

theorem getElem?_record (map : Std.TreeMap κ ε cmp) (key other : κ) (entry : ε) :
    (record latest map key entry)[other]?
      = if other = key then some (if latest then entry else map[key]?.getD entry)
        else map[other]? := by
  unfold record
  cases latest with
  | true =>
    rw [if_pos rfl, getElem?_insert_eq]
    rfl
  | false =>
    rw [if_neg Bool.false_ne_true, getElem?_insertIfNew_eq]
    rfl

/-- What a side holds for a key after an entry, or none, was recorded on it. -/
def passOn (held incoming : Option ε) : Option ε :=
  match incoming with
  | none => held
  | some entry => some (if latest then entry else held.getD entry)

theorem foldl_add_map :
    (items.foldl (add latest) target).toAdd[key]? = passOn latest target.toAdd[key]? items[key]?
      ∧ (items.foldl (add latest) target).toRemove[key]?
        = if items[key]?.isSome then none else target.toRemove[key]? := by
  have added := foldl_observed (add latest)
    (fun (changes : ChangeSet κ ε cmp) key => changes.toAdd[key]?)
    (fun entry held => passOn latest held (some entry))
    (fun changes key entry other => getElem?_record latest changes.toAdd key other entry)
    items target key
  have removed := foldl_observed (add latest)
    (fun (changes : ChangeSet κ ε cmp) key => changes.toRemove[key]?) (fun _ _ => none)
    (fun changes key _ other => getElem?_erase_eq changes.toRemove key other) items target key
  rw [added, removed]
  cases items[key]? <;> exact ⟨rfl, rfl⟩

theorem getElem?_flush (changes target : ChangeSet κ ε cmp) (key : κ) :
    (changes.flush latest target).toAdd[key]?
        = (if changes.toRemove[key]?.isSome then none
          else passOn latest target.toAdd[key]? changes.toAdd[key]?)
      ∧ (changes.flush latest target).toRemove[key]?
        = passOn latest (if changes.toAdd[key]?.isSome then none else target.toRemove[key]?)
            changes.toRemove[key]? := by
  have additions := foldl_add_map latest changes.toAdd target key
  have removals := foldl_add_map latest changes.toRemove (changes.toAdd.foldl (add latest) target).swap key
  rw [← foldl_remove] at removals
  simp only [swap, additions] at removals
  exact removals.symm

end Laws

/-! ## Invariants of the two sides -/

structure KeyedBy {κ ε : Type} {cmp : κ → κ → Ordering} (keyOf : ε → κ)
    (changes : ChangeSet κ ε cmp) : Prop where
  added : ∀ (key : κ) entry, changes.toAdd[key]? = some entry → keyOf entry = key
  removed : ∀ (key : κ) entry, changes.toRemove[key]? = some entry → keyOf entry = key

variable {κ ε : Type} {cmp : κ → κ → Ordering}

/-- What holds of every entry under its key, on either side. -/
def Each (holds : κ → ε → Prop) (changes : ChangeSet κ ε cmp) :
    Prop :=
  ∀ (key : κ) entry, changes.toAdd[key]? = some entry ∨ changes.toRemove[key]? = some entry → holds key entry

def Separate (changes : ChangeSet κ ε cmp) : Prop :=
  ∀ key : κ, changes.toAdd[key]? = none ∨ changes.toRemove[key]? = none

def Within (keys : Set κ) (changes : ChangeSet κ ε cmp) : Prop :=
  ∀ key : κ, key ∉ keys → changes.toAdd[key]? = none ∧ changes.toRemove[key]? = none

section Invariants

variable {keyOf : ε → κ} {holds : κ → ε → Prop} {changes target : ChangeSet κ ε cmp} {key : κ} {entry : ε}
  {keys : Set κ}

theorem keyedBy_iff : changes.KeyedBy keyOf ↔ changes.Each fun key entry => keyOf entry = key := by
  constructor
  · intro keyed key entry found
    exact found.elim (keyed.added key entry) (keyed.removed key entry)
  · intro each
    exact ⟨fun key entry found => each key entry (.inl found),
      fun key entry found => each key entry (.inr found)⟩

theorem Each.swap (each : changes.Each holds) : changes.swap.Each holds :=
  fun key entry found => each key entry found.symm

theorem within_iff : changes.Within keys ↔ changes.Each fun key _ => key ∈ keys := by
  constructor
  · intro within key entry found
    by_contra outside
    rw [(within key outside).1, (within key outside).2] at found
    simp at found
  · intro each key outside
    constructor
    · exact Option.eq_none_iff_forall_ne_some.mpr fun entry found =>
        outside (each key entry (.inl found))
    · exact Option.eq_none_iff_forall_ne_some.mpr fun entry found =>
        outside (each key entry (.inr found))

theorem Within.mem (within : changes.Within keys) (keyed : changes.KeyedBy keyOf)
    (found : changes.toAdd[key]? = some entry ∨ changes.toRemove[key]? = some entry) :
    keyOf entry ∈ keys := by
  rw [keyedBy_iff.mp keyed key entry found]
  exact within_iff.mp within key entry found

variable [Std.TransCmp cmp]

theorem KeyedBy.empty : KeyedBy keyOf (empty : ChangeSet κ ε cmp) :=
  ⟨by simp [ChangeSet.empty], by simp [ChangeSet.empty]⟩

theorem Separate.empty : (ChangeSet.empty : ChangeSet κ ε cmp).Separate := by
  intro key
  left
  simp [ChangeSet.empty]

theorem Within.empty : (ChangeSet.empty : ChangeSet κ ε cmp).Within keys := by
  intro key _
  simp [ChangeSet.empty]

variable [DecidableEq κ] [Std.LawfulEqCmp cmp]

variable {map : Std.TreeMap κ ε cmp} {held incoming : Option ε}

theorem record_eq_some {latest : Bool} {key other : κ} {entry held : ε}
    (found : (record latest map key entry)[other]? = some held) :
    map[other]? = some held ∨ other = key ∧ held = entry := by
  rw [getElem?_record] at found
  by_cases isKey : other = key
  · rw [if_pos isKey] at found
    rw [isKey]
    cases latest with
    | true => exact .inr ⟨rfl, (Option.some.inj found).symm⟩
    | false =>
      cases before : map[key]? with
      | none =>
        rw [before] at found
        exact .inr ⟨rfl, (Option.some.inj found).symm⟩
      | some older =>
        rw [before] at found
        exact .inl found
  · rw [if_neg isKey] at found
    exact .inl found

theorem Each.add (each : changes.Each holds) (latest : Bool) (holdsNew : holds key entry) :
    (changes.add latest key entry).Each holds := by
  intro other held found
  rcases found with added | removed
  · rcases record_eq_some added with before | ⟨rfl, rfl⟩
    · exact each other held (.inl before)
    · exact holdsNew
  · exact forall_erase (fun key entry found => each key entry (.inr found)) other held removed

theorem Each.remove (each : changes.Each holds) (latest : Bool) (holdsNew : holds key entry) :
    (changes.remove latest key entry).Each holds :=
  (each.swap.add latest holdsNew).swap

theorem KeyedBy.add (keyed : changes.KeyedBy keyOf) (latest : Bool) (entry : ε) :
    (changes.add latest (keyOf entry) entry).KeyedBy keyOf :=
  keyedBy_iff.mpr ((keyedBy_iff.mp keyed).add latest rfl)

theorem KeyedBy.remove (keyed : changes.KeyedBy keyOf) (latest : Bool) (entry : ε) :
    (changes.remove latest (keyOf entry) entry).KeyedBy keyOf :=
  keyedBy_iff.mpr ((keyedBy_iff.mp keyed).remove latest rfl)

theorem passOn_eq_some {latest : Bool} (passed : passOn latest held incoming = some entry) :
    held = some entry ∨ incoming = some entry := by
  cases incoming with
  | none => exact .inl passed
  | some new =>
    cases latest with
    | true => exact .inr passed
    | false =>
      cases held with
      | none => exact .inr passed
      | some old => exact .inl passed

theorem passOn_isSome (latest : Bool) (either : held.isSome = true ∨ incoming.isSome = true) :
    (passOn latest held incoming).isSome = true := by
  cases incoming with
  | none => simpa [passOn] using either
  | some entry => rfl

theorem Each.flush (each : changes.Each holds) (eachTarget : target.Each holds) (latest : Bool) :
    (changes.flush latest target).Each holds := by
  intro key entry found
  rw [(getElem?_flush latest changes target key).1, (getElem?_flush latest changes target key).2] at found
  rcases found with added | removed
  · rcases passOn_eq_some (Option.ite_none_left_eq_some.mp added).2 with below | above
    · exact eachTarget key entry (.inl below)
    · exact each key entry (.inl above)
  · rcases passOn_eq_some removed with below | above
    · exact eachTarget key entry (.inr (Option.ite_none_left_eq_some.mp below).2)
    · exact each key entry (.inr above)

theorem KeyedBy.flush (keyed : changes.KeyedBy keyOf) (keyedTarget : target.KeyedBy keyOf)
    (latest : Bool) : (changes.flush latest target).KeyedBy keyOf :=
  keyedBy_iff.mpr ((keyedBy_iff.mp keyed).flush (keyedBy_iff.mp keyedTarget) latest)

/-- What the additions and then the removals leave of an observation that belongs to a
key. -/
theorem KeyedBy.foldBoth (keyed : changes.KeyedBy keyOf) {σ ω : Type} (observe : σ → ω) (key : κ)
    (onAdd onRemove : σ → ε → σ) (added removed : ε → Option ω)
    (adds : ∀ entry state, observe (onAdd state entry)
      = if key = keyOf entry then (added entry).getD (observe state) else observe state)
    (removes : ∀ entry state, observe (onRemove state entry)
      = if key = keyOf entry then (removed entry).getD (observe state) else observe state)
    (state : σ) :
    observe (foldValues onRemove changes.toRemove (foldValues onAdd changes.toAdd state))
      = (changes.toRemove[key]?.bind removed).getD ((changes.toAdd[key]?.bind added).getD (observe state)) := by
  rw [foldValues_keyed onRemove changes.toRemove observe key keyOf removed keyed.removed removes,
    foldValues_keyed onAdd changes.toAdd observe key keyOf added keyed.added adds]

theorem Separate.add (separate : changes.Separate) (latest : Bool) (key : κ) (entry : ε) :
    (changes.add latest key entry).Separate := by
  intro other
  by_cases isKey : other = key
  · right
    rw [ChangeSet.add, getElem?_erase_eq, if_pos isKey]
  · simp only [ChangeSet.add, getElem?_record, getElem?_erase_eq, if_neg isKey]
    exact separate other

theorem Separate.remove (separate : changes.Separate) (latest : Bool) (key : κ) (entry : ε) :
    (changes.remove latest key entry).Separate :=
  have swapped : changes.swap.Separate := fun key => (separate key).symm
  fun other => (swapped.add latest key entry other).symm

theorem Separate.flush (separateTarget : target.Separate) (latest : Bool) : (changes.flush latest target).Separate := by
  intro key
  rw [(getElem?_flush latest changes target key).1, (getElem?_flush latest changes target key).2]
  cases removes : changes.toRemove[key]? with
  | some entry => exact .inl rfl
  | none =>
    cases adds : changes.toAdd[key]? with
    | some entry => exact .inr rfl
    | none => exact separateTarget key

theorem Within.add (within : changes.Within keys) (latest : Bool) (isKey : key ∈ keys) (entry : ε) :
    (changes.add latest key entry).Within keys :=
  within_iff.mpr ((within_iff.mp within).add latest isKey)

theorem Within.remove (within : changes.Within keys) (latest : Bool) (isKey : key ∈ keys) (entry : ε) :
    (changes.remove latest key entry).Within keys :=
  within_iff.mpr ((within_iff.mp within).remove latest isKey)

theorem Within.flush (within : changes.Within keys) (withinTarget : target.Within keys)
    (latest : Bool) : (changes.flush latest target).Within keys :=
  within_iff.mpr ((within_iff.mp within).flush (within_iff.mp withinTarget) latest)

end Invariants

/-! ## Reading two layers -/

inductive Pending (ε : Type) where
  | removal (entry : ε)
  | addition (entry : ε)

/-- The removals of both layers come before the additions of both. -/
def pending (upper lower : ChangeSet κ ε cmp) (key : κ) :
    Option (Pending ε) :=
  upper.toRemove[key]?.map .removal <|> lower.toRemove[key]?.map .removal
    <|> upper.toAdd[key]?.map .addition <|> lower.toAdd[key]?.map .addition

section Layers

variable (latest : Bool) {upper : ChangeSet κ ε cmp} (lower : ChangeSet κ ε cmp) {key : κ}

theorem pending_self (changes : ChangeSet κ ε cmp) (key : κ) :
    pending changes changes key
      = (changes.toRemove[key]?.map .removal <|> changes.toAdd[key]?.map .addition) := by
  unfold pending
  cases changes.toRemove[key]? <;> cases changes.toAdd[key]? <;> rfl

theorem pending_eq_addition {entry : ε} (isPending : pending upper lower key = some (.addition entry)) :
    upper.toAdd[key]? = some entry ∨ lower.toAdd[key]? = some entry := by
  have found : upper.toRemove[key]? = none ∧ lower.toRemove[key]? = none
      ∧ (upper.toAdd[key]? = some entry ∨ upper.toAdd[key]? = none ∧ lower.toAdd[key]? = some entry) := by
    simpa [pending] using isPending
  exact found.2.2.imp_right And.right

variable [Std.TransCmp cmp]

theorem pending_empty (key : κ) :
    pending (empty : ChangeSet κ ε cmp) (empty : ChangeSet κ ε cmp) key = none := by
  simp [pending, empty]

variable [DecidableEq κ] [Std.LawfulEqCmp cmp]

/-- A removal pending above is the answer before and after it is passed on. -/
theorem pending_flush_removal {entry : ε} (removal : upper.toRemove[key]? = some entry) :
    pending upper lower key = some (.removal entry)
      ∧ ∃ held, pending (upper.flush latest lower) (upper.flush latest lower) key
          = some (.removal held) ∧ (latest = true → held = entry) := by
  refine ⟨by simp [pending, removal], ?_⟩
  rw [pending_self, (getElem?_flush latest upper lower key).2, removal]
  refine ⟨_, rfl, ?_⟩
  intro isLatest
  rw [if_pos isLatest]

/-- A removal pending below hides an addition above until the addition is passed on. -/
theorem pending_flush_addition {entry : ε} (noRemoval : upper.toRemove[key]? = none)
    (addition : upper.toAdd[key]? = some entry) :
    pending upper lower key = (lower.toRemove[key]?.map .removal <|> some (.addition entry))
      ∧ pending (upper.flush latest lower) (upper.flush latest lower) key
        = some (.addition (if latest then entry else lower.toAdd[key]?.getD entry)) := by
  have flushed := getElem?_flush latest upper lower key
  rw [noRemoval, addition] at flushed
  refine ⟨?_, ?_⟩
  · simp [pending, noRemoval, addition]
  · rw [pending_self, flushed.1, flushed.2]
    rfl

theorem pending_flush_untouched (noRemoval : upper.toRemove[key]? = none)
    (noAddition : upper.toAdd[key]? = none) :
    pending upper lower key = pending lower lower key
      ∧ pending (upper.flush latest lower) (upper.flush latest lower) key = pending lower lower key := by
  have flushed := getElem?_flush latest upper lower key
  rw [noRemoval, noAddition] at flushed
  rw [pending_self, pending_self, flushed.1, flushed.2]
  refine ⟨?_, rfl⟩
  simp [pending, noRemoval, noAddition]

/-- When an answer read off what is pending is the same after the changes were passed
on. The two readings may differ for a key nothing is pending for; removals are told
apart only where the latest one is kept. -/
theorem answer_flush_iff {α : Type} (before after : Option (Pending ε) → α)
    (agree : ∀ found, after (some found) = before (some found))
    (removals : latest = true ∨ ∀ left right, before (some (.removal left)) = before (some (.removal right))) :
    after (pending (upper.flush latest lower) (upper.flush latest lower) key)
        = before (pending upper lower key)
      ↔ (pending upper lower key = none → after none = before none)
        ∧ ∀ entry, upper.toRemove[key]? = none → upper.toAdd[key]? = some entry →
            before (lower.toRemove[key]?.map .removal <|> some (.addition entry))
              = before (some (.addition (if latest then entry else lower.toAdd[key]?.getD entry))) := by
  cases removal : upper.toRemove[key]? with
  | some entry =>
    obtain ⟨isRemoval, held, afterwards, sameEntry⟩ := pending_flush_removal latest lower removal
    have same : before (some (.removal held)) = before (some (.removal entry)) := by
      rcases removals with isLatest | alike
      · rw [sameEntry isLatest]
      · exact alike held entry
    rw [isRemoval, afterwards, agree, same]
    simp
  | none =>
    cases addition : upper.toAdd[key]? with
    | some entry =>
      obtain ⟨isPending, afterwards⟩ := pending_flush_addition latest lower removal addition
      have found : pending upper lower key ≠ none := by
        rw [isPending]
        cases lower.toRemove[key]? <;> simp
      rw [afterwards, agree, isPending]
      constructor
      · intro same
        refine ⟨fun nothing => absurd (isPending.trans nothing) found, ?_⟩
        intro other _ isEntry
        cases isEntry
        exact same.symm
      · intro holds
        exact (holds.2 entry rfl rfl).symm
    | none =>
      obtain ⟨isPending, afterwards⟩ := pending_flush_untouched latest lower removal addition
      rw [isPending, afterwards]
      cases below : pending lower lower key with
      | none => simp
      | some found => simp [agree]

end Layers

end ChangeSet

end BlackRaven.Lib
