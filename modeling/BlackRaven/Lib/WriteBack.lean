import BlackRaven.Lib.SortedMap

/-!
Contract: a stack of write-back caches over a store of optional values.

A cache entry can hold that a key has no value. It is dirty when the store below has to
learn about it, and fresh when the store below is known to have no value for the key,
so that an entry without a value need not be passed on.

Owns: the operations on the top of a stack, what they do to the values read through it,
and the coherence of the flags that makes writing a cache back lose nothing.
-/

namespace BlackRaven.Lib.WriteBack

structure Entry (V : Type) where
  value : Option V
  dirty : Bool
  fresh : Bool
  deriving DecidableEq, Repr

def Entry.initial {V : Type} : Entry V := ⟨none, false, false⟩

abbrev Layer (K V : Type) [Ord K] := Std.TreeMap K (Entry V)

inductive Store (K V : Type) [Ord K] where
  | base (contents : K → Option V)
  | atop (layer : Layer K V) (below : Store K V)

/-! ## Operations -/

section Operations

variable {K V : Type} [Ord K] [DecidableEq K]

def update (contents : K → Option V) (key : K) (value : Option V) : K → Option V :=
  fun other => if other = key then value else contents other

def Store.read : Store K V → K → Option V
  | .base contents, key => contents key
  | .atop layer below, key =>
    match layer[key]? with
    | some entry => entry.value
    | none => below.read key

/-- Copy what is below for a key into every cache on the way that has no entry. -/
def Store.fetch : Store K V → K → Store K V
  | .base contents, _ => .base contents
  | .atop layer below, key =>
    match layer[key]? with
    | some _ => .atop layer below
    | none =>
      let below := below.fetch key
      match below.read key with
      | none => .atop layer below
      | some value => .atop (layer.insert key ⟨some value, false, false⟩) below

variable (layer : Layer K V) (entry : Entry V) (key : K) (slot : Option (Entry V))

/-- Give a key a value in the top cache. Without `overwrite` the cache refuses to replace
a value it holds itself; whether something below has one is not looked at. -/
def Layer.put (value : V) (overwrite : Bool) :
    Option (Layer K V) :=
  let entry := layer.getD key .initial
  if !overwrite && entry.value.isSome then none
  else some (layer.insert key ⟨some value, true, entry.fresh || (!overwrite && !entry.dirty)⟩)

/-- Take the value of a key out of the top cache, which has an entry for it. -/
def Layer.take (entry : Entry V) : Layer K V :=
  if entry.fresh then layer.erase key else layer.insert key ⟨none, true, entry.fresh⟩

def Store.put : Store K V → K → V → Bool → Option (Store K V)
  | .base contents, key, value, _ => some (.base (update contents key (some value)))
  | .atop layer below, key, value, overwrite =>
    (Layer.put layer key value overwrite).map fun layer => .atop layer below

/-- Take the value of a key out of the store: nothing when no cache and no store has the
key, and else what its entry held. -/
def Store.take : Store K V → K → Option (Option V) × Store K V
  | .base contents, key => ((contents key).map some, .base (update contents key none))
  | .atop layer below, key =>
    match (Store.atop layer below).fetch key with
    | .base contents => (none, .base contents)
    | .atop layer below =>
      match layer[key]? with
      | none => (none, .atop layer below)
      | some entry => (some entry.value, .atop (Layer.take layer key entry) below)

/-- The slot of a key in the lower cache after a dirty entry was written to it. An entry
that was there keeps its own mark. -/
def mergeSlot : Option (Entry V) :=
  let fresh := (slot.map Entry.fresh).getD entry.fresh
  if fresh && entry.value.isNone then none else some ⟨entry.value, true, fresh⟩

/-- An entry is marked fresh although the lower cache has a value. -/
def misapplied : Bool :=
  entry.fresh && slot.any fun parent => parent.value.isSome

def mergeEntry (parent : Layer K V) (item : K × Entry V) : Option (Layer K V) :=
  if !item.2.dirty then some parent
  else if misapplied item.2 parent[item.1]? then none
  else some (parent.alter item.1 (mergeSlot item.2))

/-- Write the entries of a cache to the store below it. -/
def batchWrite : Store K V → Option (Store K V)
  | .base contents =>
    some (.base fun key =>
      match layer[key]? with
      | some entry => if entry.dirty then entry.value else contents key
      | none => contents key)
  | .atop parent below => (layer.toList.foldlM mergeEntry parent).map fun parent => .atop parent below

def Store.flush : Store K V → Option (Store K V)
  | .base contents => some (.base contents)
  | .atop layer below => batchWrite layer below

end Operations

/-! ## Coherence -/

theorem update_self {K V : Type} [DecidableEq K] (contents : K → Option V) (key : K)
    (value : Option V) : update contents key value key = value := if_pos rfl

theorem update_of_ne {K V : Type} [DecidableEq K] (contents : K → Option V) {key other : K}
    (value : Option V) (different : other ≠ key) :
    update contents key value other = contents other :=
  if_neg different

theorem update_eq_self {K V : Type} [DecidableEq K] (contents : K → Option V) (key : K) :
    update contents key (contents key) = contents := by
  funext other
  by_cases same : other = key
  · rw [same, update_self]
  · rw [update_of_ne _ _ same]

/-- What the flags of an entry say about the store below. -/
structure Entry.Describes {V : Type} (entry : Entry V) (below : Option V) : Prop where
  clean : entry.dirty = false → entry.value = below
  fresh : entry.fresh = true → below = none

section Coherence

variable {K V : Type} [Ord K]

def Store.Coherent : Store K V → Prop
  | .base _ => True
  | .atop layer below =>
    below.Coherent ∧ ∀ key, ∀ entry : Entry V, layer[key]? = some entry → entry.Describes (below.read key)

variable {below store : Store K V} {layer parent : Layer K V} {entry : Entry V} {key : K} {value : V}
  {contents current : K → Option V}

theorem read_over_some (found : layer[key]? = some entry) :
    (Store.atop layer below).read key = entry.value := by
  simp only [Store.read, found]

theorem read_over_none (absent : layer[key]? = none) : (Store.atop layer below).read key = below.read key := by
  simp only [Store.read, absent]

/-- Every value that is kept somewhere in the stack is good for its key. This needs no
coherence. -/
def Store.Every (good : K → V → Prop) : Store K V → Prop
  | .base contents => ∀ key value, contents key = some value → good key value
  | .atop layer below =>
    (∀ key, ∀ entry : Entry V, layer[key]? = some entry → ∀ value, entry.value = some value → good key value)
    ∧ below.Every good

theorem Store.Every.read {good : K → V → Prop} (every : store.Every good)
    (reads : store.read key = some value) :
    good key value := by
  induction store with
  | base contents => exact every key value reads
  | atop layer below ih =>
    cases found : layer[key]? with
    | some entry =>
      rw [read_over_some found] at reads
      exact every.1 key entry found value reads
    | none =>
      rw [read_over_none found] at reads
      exact ih every.2 reads

/-- A store reads and holds together as another does. -/
structure Store.Agrees (store other : Store K V) : Prop where
  reads : store.read = other.read
  coherent : other.Coherent → store.Coherent

theorem Store.Agrees.refl (store : Store K V) : store.Agrees store := ⟨rfl, id⟩

theorem Store.Agrees.atop {below other : Store K V} (agrees : below.Agrees other)
    (layer : Layer K V) : (Store.atop layer below).Agrees (Store.atop layer other) where
  reads := by
    simp only [Store.read, agrees.reads]
  coherent := by
    rintro ⟨coherent, describes⟩
    refine ⟨agrees.coherent coherent, ?_⟩
    rw [agrees.reads]
    exact describes

/-- What the lower cache holds of a key once an entry was written to it. -/
private theorem mergeSlot_describes (coherent : (Store.atop parent below).Coherent)
    (describes : entry.Describes ((Store.atop parent below).read key)) :
    (∀ merged, mergeSlot entry parent[key]? = some merged →
        merged.value = entry.value ∧ merged.Describes (below.read key))
      ∧ (mergeSlot entry parent[key]? = none → entry.value = below.read key) := by
  have fresh : (parent[key]?.map Entry.fresh).getD entry.fresh = true → below.read key = none := by
    cases slot : parent[key]? with
    | none =>
      rw [read_over_none slot] at describes
      exact describes.fresh
    | some held => exact (coherent.2 key held slot).fresh
  unfold mergeSlot
  by_cases dropped : ((parent[key]?.map Entry.fresh).getD entry.fresh && entry.value.isNone) = true
  · simp only [dropped, if_true]
    rw [Bool.and_eq_true, Option.isNone_iff_eq_none] at dropped
    exact ⟨nofun, fun _ => by rw [dropped.2, fresh dropped.1]⟩
  · simp only [dropped]
    refine ⟨?_, nofun⟩
    intro merged isMerged
    cases isMerged
    exact ⟨rfl, nofun, fresh⟩

/-- The store is a coherent cache over something that reads `contents`, and reads
`current` itself. -/
structure Store.Caches (store : Store K V) (contents current : K → Option V) : Prop where
  shape : ∃ layer below, store = .atop layer below ∧ below.read = contents
  coherent : store.Coherent
  reads : store.read = current

theorem Store.Caches.start [Std.TransOrd K] (coherent : below.Coherent) :
    (Store.atop ∅ below).Caches below.read below.read where
  shape := ⟨∅, below, rfl, rfl⟩
  coherent := by
    refine ⟨coherent, ?_⟩
    intro key entry found
    cases found
  reads := by
    funext key
    exact read_over_none Std.TreeMap.getElem?_emptyc

/-- What the entry of a key, be it the initial one, says about the store. -/
theorem Store.Caches.getD [Std.TransOrd K]
    (caches : (Store.atop layer below).Caches below.read current) (key : K) :
    ((layer.getD key .initial).value = current key
        ∨ (layer.getD key .initial).value = none ∧ current key = below.read key)
      ∧ ((layer.getD key .initial).fresh = true → below.read key = none)
      ∧ ((layer.getD key .initial).dirty = false → current key = below.read key) := by
  rw [Std.TreeMap.getD_eq_getD_getElem?, ← caches.reads]
  cases found : layer[key]? with
  | none =>
    rw [read_over_none found]
    exact ⟨.inr ⟨rfl, rfl⟩, nofun, fun _ => rfl⟩
  | some entry =>
    rw [read_over_some found]
    exact ⟨.inl rfl, (caches.coherent.2 key entry found).fresh, (caches.coherent.2 key entry found).clean⟩

theorem Store.Caches.put_isSome [DecidableEq K] [Std.TransOrd K]
    (caches : store.Caches contents current) (value : V) (overwrite : Bool) (nothing : current key = none) :
    ∃ next, store.put key value overwrite = some next := by
  obtain ⟨layer, below, rfl, rfl⟩ := caches.shape
  have noValue : (layer.getD key Entry.initial).value = none :=
    (caches.getD key).1.elim (·.trans nothing) And.left
  simp [Store.put, Layer.put, noValue]

/-- Without leave to overwrite, a value goes only where the cache reads none, or the store
below has one. -/
theorem Store.Caches.none_of_put [DecidableEq K] [Std.TransOrd K] {next : Store K V}
    (caches : store.Caches contents current) (puts : store.put key value false = some next)
    (nothing : contents key = none) :
    current key = none := by
  obtain ⟨layer, lower, rfl, rfl⟩ := caches.shape
  rcases (caches.getD key).1 with isValue | ⟨-, same⟩
  · rw [← isValue]
    by_contra held
    simp [Store.put, Layer.put, Option.isSome_iff_ne_none.mpr held] at puts
  · exact same.trans nothing

end Coherence

section Laws

variable {K V : Type} [Ord K] [DecidableEq K] [Std.TransOrd K] [Std.LawfulEqOrd K]

theorem read_insert (layer : Layer K V) (below : Store K V) (key : K) (entry : Entry V) :
    (Store.atop (layer.insert key entry) below).read
      = update (Store.atop layer below).read key entry.value := by
  funext other
  simp only [Store.read, getElem?_insert_eq, update]
  by_cases same : other = key
  · simp only [if_pos same]
  · simp only [if_neg same]

theorem read_erase (layer : Layer K V) (below : Store K V) (key : K) :
    (Store.atop (layer.erase key) below).read = update (Store.atop layer below).read key (below.read key) := by
  funext other
  by_cases same : other = key
  · rw [same, update_self, read_over_none]
    rw [getElem?_erase_eq, if_pos rfl]
  · simp only [Store.read, getElem?_erase_eq, update, if_neg same]

variable {layer parent : Layer K V} {below store next : Store K V} {entry : Entry V} {key : K} {value : V}
  {overwrite : Bool}

theorem coherent_insert
    (coherent : (Store.atop layer below).Coherent) (describes : entry.Describes (below.read key)) :
    (Store.atop (layer.insert key entry) below).Coherent :=
  ⟨coherent.1, forall_insert coherent.2 describes⟩

theorem coherent_erase (key : K) (coherent : (Store.atop layer below).Coherent) :
    (Store.atop (layer.erase key) below).Coherent :=
  ⟨coherent.1, forall_erase coherent.2⟩

omit [DecidableEq K] [Std.TransOrd K] [Std.LawfulEqOrd K] in
theorem Layer.put_eq_some {written : Layer K V} (puts : layer.put key value overwrite = some written) :
    written = layer.insert key ⟨some value, true, (layer.getD key .initial).fresh
      || (!overwrite && !(layer.getD key .initial).dirty)⟩ := by
  unfold Layer.put at puts
  dsimp only at puts
  split at puts
  · cases puts
  · exact (Option.some.inj puts).symm

theorem Store.fetch_agrees (store : Store K V) (key : K) : (store.fetch key).Agrees store := by
  induction store with
  | base contents => exact .refl _
  | atop layer below ih =>
    cases found : layer[key]? with
    | some entry =>
      simp only [Store.fetch, found]
      exact .refl _
    | none =>
      cases value : (below.fetch key).read key with
      | none =>
        simp only [Store.fetch, found, value]
        exact ih.atop layer
      | some held =>
        simp only [Store.fetch, found, value]
        constructor
        · rw [read_insert, (ih.atop layer).reads, ← value, ih.reads, ← read_over_none found, update_eq_self]
        · intro coherent
          apply coherent_insert ((ih.atop layer).coherent coherent)
          exact ⟨fun _ => value.symm, nofun⟩

/-- After a fetch the top cache has an entry for a key that has a value. -/
theorem Store.fetch_atop (layer : Layer K V) (below : Store K V) (key : K) :
    ∃ fetched lower, (Store.atop layer below).fetch key = .atop fetched lower
      ∧ lower.read = below.read
      ∧ ∀ value, (Store.atop layer below).read key = some value →
          ∃ entry : Entry V, fetched[key]? = some entry ∧ entry.value = some value := by
  cases found : layer[key]? with
  | some entry =>
    refine ⟨layer, below, by simp only [Store.fetch, found], rfl, ?_⟩
    intro value reads
    rw [read_over_some found] at reads
    exact ⟨entry, found, reads⟩
  | none =>
    have agrees := below.fetch_agrees key
    cases held : (below.fetch key).read key with
    | none =>
      refine ⟨layer, below.fetch key, by simp only [Store.fetch, found, held], agrees.reads, ?_⟩
      intro value reads
      rw [read_over_none found, ← agrees.reads, held] at reads
      cases reads
    | some value =>
      refine ⟨layer.insert key ⟨some value, false, false⟩, below.fetch key,
        by simp only [Store.fetch, found, held], agrees.reads, ?_⟩
      intro other reads
      rw [read_over_none found, ← agrees.reads, held] at reads
      exact ⟨_, by rw [getElem?_insert_eq, if_pos rfl], reads⟩

theorem Layer.take_coherent (coherent : (Store.atop layer below).Coherent) (found : layer[key]? = some entry) :
    (Store.atop (Layer.take layer key entry) below).Coherent
      ∧ (Store.atop (Layer.take layer key entry) below).read
        = update (Store.atop layer below).read key none := by
  have describes := coherent.2 key entry found
  unfold Layer.take
  split
  next isFresh =>
    rw [read_erase, describes.fresh isFresh]
    exact ⟨coherent_erase key coherent, rfl⟩
  next =>
    rw [read_insert]
    exact ⟨coherent_insert coherent ⟨nofun, describes.fresh⟩, rfl⟩

/-- Taking a key out changes nothing else. This needs no coherence. -/
theorem Store.take_read_of_ne (store : Store K V) {other : K} (different : other ≠ key) :
    (store.take key).2.read other = store.read other := by
  cases store with
  | base contents => exact update_of_ne _ _ different
  | atop layer below =>
    have agrees := Store.fetch_agrees (.atop layer below) key
    obtain ⟨top, lower, isFetched, -, -⟩ := Store.fetch_atop layer below key
    rw [← agrees.reads]
    simp only [Store.take, isFetched]
    cases top[key]? with
    | none => rfl
    | some entry =>
      dsimp only
      unfold Layer.take
      split
      · rw [read_erase, update_of_ne _ _ different]
      · rw [read_insert, update_of_ne _ _ different]

theorem Store.take_of_read (held : store.read key = some value) : (store.take key).1 = some (some value) := by
  cases store with
  | base contents => exact congrArg (Option.map some) held
  | atop layer below =>
    obtain ⟨top, lower, isFetched, -, hasEntry⟩ := Store.fetch_atop layer below key
    obtain ⟨entry, found, isValue⟩ := hasEntry value held
    simp only [Store.take, isFetched, found]
    rw [isValue]

theorem Store.put_read (puts : store.put key value overwrite = some next) :
    next.read = update store.read key (some value) := by
  cases store with
  | base contents =>
    obtain rfl := Option.some.inj puts
    rfl
  | atop layer below =>
    obtain ⟨written, writes, rfl⟩ := Option.map_eq_some_iff.mp puts
    rw [Layer.put_eq_some writes]
    exact read_insert _ _ _ _

/-! ## What holds of every value -/

section Every

variable {good : K → V → Prop} {key : K}

theorem Store.Every.insert (every : (Store.atop layer below).Every good)
    (isGood : ∀ value, entry.value = some value → good key value) :
    (Store.atop (layer.insert key entry) below).Every good :=
  ⟨forall_insert every.1 isGood, every.2⟩

theorem Store.Every.erase (every : (Store.atop layer below).Every good) (key : K) :
    (Store.atop (layer.erase key) below).Every good :=
  ⟨forall_erase every.1, every.2⟩

theorem Store.Every.fetch (every : store.Every good) (key : K) : (store.fetch key).Every good := by
  induction store with
  | base contents => exact every
  | atop layer below ih =>
    have lower := ih every.2
    unfold Store.fetch
    split
    · exact every
    · dsimp only
      split
      · exact ⟨every.1, lower⟩
      · next value reads =>
          refine Store.Every.insert ⟨every.1, lower⟩ ?_
          intro other isValue
          cases isValue
          exact lower.read reads

theorem Store.Every.put (every : store.Every good)
    (isGood : good key value) (puts : store.put key value overwrite = some next) :
    next.Every good := by
  cases store with
  | base contents =>
    cases puts
    intro other held reads
    by_cases same : other = key
    · rw [same, update_self] at reads
      cases reads
      rw [same]
      exact isGood
    · rw [update_of_ne _ _ same] at reads
      exact every other held reads
  | atop layer below =>
    obtain ⟨written, writes, rfl⟩ := Option.map_eq_some_iff.mp puts
    rw [Layer.put_eq_some writes]
    apply every.insert
    intro other isValue
    cases isValue
    exact isGood

theorem Store.Every.take (every : store.Every good) (key : K) : (store.take key).2.Every good := by
  cases store with
  | base contents =>
    intro other value reads
    simp only [update] at reads
    split at reads
    · cases reads
    · exact every other value reads
  | atop layer below =>
    have fetched := every.fetch key
    obtain ⟨top, lower, isFetched, -, -⟩ := Store.fetch_atop layer below key
    rw [isFetched] at fetched
    simp only [Store.take, isFetched]
    cases top[key]? with
    | none => exact fetched
    | some entry =>
      dsimp only [Layer.take]
      split
      · exact fetched.erase key
      · exact fetched.insert nofun

theorem Store.Every.mergeAll {items : List (K × Entry V)} {merged : Layer K V} {lower : Store K V}
    (goods : ∀ item ∈ items, ∀ value, item.2.value = some value → good item.1 value)
    (every : (Store.atop parent lower).Every good) (merges : items.foldlM mergeEntry parent = some merged) :
    (Store.atop merged lower).Every good := by
  induction items generalizing parent with
  | nil =>
    cases merges
    exact every
  | cons head tail ih =>
    rw [List.foldlM_cons, Option.bind_eq_bind, Option.bind_eq_some_iff] at merges
    obtain ⟨next, first, later⟩ := merges
    refine ih (List.forall_mem_cons.mp goods).2 ?_ later
    unfold mergeEntry at first
    split at first
    · cases first
      exact every
    · split at first
      · cases first
      · cases first
        refine ⟨?_, every.2⟩
        intro key entry lookup value isValue
        rw [getElem?_alter_eq] at lookup
        split at lookup
        · next same =>
            unfold mergeSlot at lookup
            dsimp only at lookup
            split at lookup
            · cases lookup
            · cases lookup
              rw [same]
              exact goods head List.mem_cons_self value isValue
        · exact every.1 key entry lookup value isValue

theorem Store.Every.flush (every : store.Every good) (flushes : store.flush = some next) : next.Every good := by
  cases store with
  | base contents =>
    cases flushes
    exact every
  | atop layer below =>
    cases below with
    | base contents =>
      cases flushes
      intro key value reads
      dsimp only at reads
      split at reads
      · next entry found =>
          split at reads
          · exact every.1 key entry found value reads
          · exact every.2 key value reads
      · exact every.2 key value reads
    | atop parent lower =>
      obtain ⟨merged, merges, rfl⟩ := Option.map_eq_some_iff.mp flushes
      have inLayer : ∀ item ∈ layer.toList, ∀ value, item.2.value = some value →
          good item.1 value := by
        intro item member
        exact every.1 item.1 item.2 (Std.TreeMap.mem_toList_iff_getElem?_eq_some.mp member)
      exact Store.Every.mergeAll inLayer every.2 merges

end Every

/-! ## Writing back -/

/-- Writing a list of entries with different keys changes the slot of each, and only
these. -/
theorem foldlM_mergeEntry {items : List (K × Entry V)}
    (distinct : items.Pairwise fun left right => left.1 ≠ right.1)
    (applied : ∀ item ∈ items, misapplied item.2 parent[item.1]? = false) :
    ∃ merged, items.foldlM mergeEntry parent = some merged
      ∧ (∀ item ∈ items, merged[item.1]?
          = if item.2.dirty then mergeSlot item.2 parent[item.1]? else parent[item.1]?)
      ∧ ∀ key, (∀ item ∈ items, item.1 ≠ key) → merged[key]? = parent[key]? := by
  induction items generalizing parent with
  | nil => exact ⟨parent, rfl, by simp, by simp⟩
  | cons head tail ih =>
    rw [List.pairwise_cons] at distinct
    -- The slot of the head changes; the slots of the tail are other slots.
    have first : ∃ next, mergeEntry parent head = some next ∧ ∀ key, next[key]?
        = if key = head.1 ∧ head.2.dirty = true then mergeSlot head.2 parent[head.1]?
          else parent[key]? := by
      cases isDirty : head.2.dirty with
      | false => exact ⟨parent, by simp [mergeEntry, isDirty], fun key => by simp⟩
      | true =>
        refine ⟨parent.alter head.1 (mergeSlot head.2), ?_, ?_⟩
        · simp [mergeEntry, isDirty, applied head List.mem_cons_self]
        · intro key
          rw [getElem?_alter_eq]
          simp
    obtain ⟨next, merges, slots⟩ := first
    have untouched : ∀ item ∈ tail, next[item.1]? = parent[item.1]? := by
      intro item member
      rw [slots, if_neg fun isHead => distinct.1 item member isHead.1.symm]
    obtain ⟨merged, rest, changed, kept⟩ := ih distinct.2 (by
      intro item member
      rw [untouched item member]
      exact applied item (List.mem_cons_of_mem head member))
    refine ⟨merged, ?_, ?_, ?_⟩
    · rw [List.foldlM_cons, merges]
      exact rest
    · intro item member
      rcases List.mem_cons.mp member with isHead | inTail
      · rw [isHead, kept head.1 fun other inTail => (distinct.1 other inTail).symm, slots]
        simp
      · rw [changed item inTail, untouched item inTail]
    · intro key absent
      rw [kept key (List.forall_mem_cons.mp absent).2, slots,
        if_neg fun isHead => absent head List.mem_cons_self isHead.1.symm]

/-- A coherent cache can be written back, and the store below then reads as the cache
did. -/
theorem batchWrite_reads (coherent : (Store.atop layer below).Coherent) :
    ∃ written, batchWrite layer below = some written ∧ written.Coherent
      ∧ written.read = (Store.atop layer below).read := by
  cases below with
  | base contents =>
    refine ⟨_, rfl, trivial, ?_⟩
    funext key
    cases found : layer[key]? with
    | none => simp only [Store.read, found]
    | some entry =>
      simp only [Store.read, found]
      cases isDirty : entry.dirty with
      | true => rfl
      | false => exact ((coherent.2 key entry found).clean isDirty).symm
  | atop parent below =>
    have inLayer : ∀ item : K × Entry V, item ∈ layer.toList ↔ layer[item.1]? = some item.2 :=
      fun item => Std.TreeMap.mem_toList_iff_getElem?_eq_some
    have applied : ∀ item ∈ layer.toList, misapplied item.2 parent[item.1]? = false := by
      intro item member
      have describes := coherent.2 item.1 item.2 ((inLayer item).mp member)
      unfold misapplied
      cases isFresh : item.2.fresh with
      | false => rfl
      | true =>
        have nothing := describes.fresh isFresh
        cases slot : parent[item.1]? with
        | none => rfl
        | some held =>
          rw [read_over_some slot] at nothing
          simp [nothing]
    obtain ⟨merged, merges, changed, kept⟩ := foldlM_mergeEntry (pairwise_ne_toList layer) applied
    -- By key: one without an entry keeps its slot, one with an entry has the merged slot.
    have slots : ∀ key : K, merged[key]? = match layer[key]? with
        | none => parent[key]?
        | some entry => if entry.dirty then mergeSlot entry parent[key]? else parent[key]? := by
      intro key
      cases found : layer[key]? with
      | none =>
        apply kept
        intro item member same
        rw [inLayer item, same, found] at member
        cases member
      | some entry => exact changed (key, entry) ((inLayer _).mpr found)
    have written : ∀ key : K, (∀ entry : Entry V, merged[key]? = some entry →
          entry.Describes (below.read key))
        ∧ (Store.atop merged below).read key = (Store.atop layer (.atop parent below)).read key := by
      intro key
      have slot := slots key
      cases inTop : layer[key]? with
      | none =>
        simp only [Store.read, slot, inTop]
        exact ⟨coherent.1.2 key, trivial⟩
      | some top =>
        have describes := coherent.2 key top inTop
        simp only [inTop] at slot
        rw [read_over_some inTop]
        by_cases isDirty : top.dirty = true
        · rw [if_pos isDirty] at slot
          have merging := mergeSlot_describes coherent.1 describes
          rw [← slot] at merging
          refine ⟨fun entry found => (merging.1 entry found).2, ?_⟩
          cases found : merged[key]? with
          | none => rw [read_over_none found, merging.2 found]
          | some entry => rw [read_over_some found, (merging.1 entry found).1]
        · rw [if_neg isDirty] at slot
          rw [describes.clean (by simpa using isDirty)]
          simp only [Store.read, slot]
          exact ⟨coherent.1.2 key, trivial⟩
    exact ⟨.atop merged below, by simp [batchWrite, merges],
      ⟨coherent.1.1, fun key => (written key).1⟩, funext fun key => (written key).2⟩

theorem Store.flush_reads (coherent : store.Coherent)
    (flushes : store.flush = some next) : next.Coherent ∧ next.read = store.read := by
  cases store with
  | base contents =>
    cases flushes
    exact ⟨trivial, rfl⟩
  | atop layer below =>
    obtain ⟨written, writes, isCoherent, reads⟩ := batchWrite_reads coherent
    have same : some next = some written := flushes.symm.trans writes
    cases same
    exact ⟨isCoherent, reads⟩

/-! ## Runs on the top of a stack -/

variable {contents current : K → Option V}

section

variable (caches : store.Caches contents current)

include caches

theorem Store.Caches.fetch (key : K) : (store.fetch key).Caches contents current := by
  obtain ⟨layer, below, rfl, isContents⟩ := caches.shape
  obtain ⟨fetched, lower, isFetched, lowerReads, -⟩ := Store.fetch_atop layer below key
  have agrees := Store.fetch_agrees (.atop layer below) key
  exact ⟨⟨fetched, lower, isFetched, lowerReads.trans isContents⟩,
    agrees.coherent caches.coherent, agrees.reads.trans caches.reads⟩

/-- A value put where the cache or the store below has none, or with leave to overwrite. If only
the cache has none, its entry is dirty and keeps its mark. -/
theorem Store.Caches.put (puts : store.put key value overwrite = some next)
    (unused : overwrite = true ∨ contents key = none ∨ current key = none) :
    next.Caches contents (update current key (some value)) := by
  obtain ⟨layer, below, rfl, rfl⟩ := caches.shape
  obtain ⟨written, writes, rfl⟩ := Option.map_eq_some_iff.mp puts
  obtain rfl := Layer.put_eq_some writes
  obtain ⟨-, marked, clean⟩ := caches.getD key
  refine ⟨⟨_, below, rfl, rfl⟩, coherent_insert caches.coherent ⟨nofun, fun fresh => ?_⟩, ?_⟩
  · rw [Bool.or_eq_true, Bool.and_eq_true, Bool.not_eq_true', Bool.not_eq_true'] at fresh
    rcases fresh with held | ⟨kept, isClean⟩
    · exact marked held
    · rcases unused with allowed | nothing | nothing
      · exact absurd allowed (Bool.eq_false_iff.mp kept)
      · exact nothing
      · exact (clean isClean).symm.trans nothing
  · rw [read_insert, caches.reads]

theorem Store.Caches.take (held : current key = some value) :
    (store.take key).1 = some (some value) ∧ (store.take key).2.Caches contents (update current key none) := by
  have fetched := caches.fetch key
  obtain ⟨layer, below, rfl, -⟩ := caches.shape
  obtain ⟨top, lower, isFetched, -, hasEntry⟩ := Store.fetch_atop layer below key
  rw [← caches.reads] at held
  obtain ⟨entry, found, isValue⟩ := hasEntry value held
  rw [isFetched] at fetched
  have lowerContents : lower.read = contents := by
    obtain ⟨_, _, same, reads⟩ := fetched.shape
    cases same
    exact reads
  have taken := Layer.take_coherent fetched.coherent found
  rw [fetched.reads] at taken
  simp only [Store.take, isFetched, found]
  exact ⟨by rw [isValue], ⟨_, lower, rfl, lowerContents⟩, taken.1, taken.2⟩

/-- A cache that is flushed leaves its values to the store below. -/
theorem Store.Caches.flush : ∃ below, store.flush = some below ∧ below.Coherent ∧ below.read = current := by
  obtain ⟨layer, below, rfl, -⟩ := caches.shape
  obtain ⟨written, writes, coherent, reads⟩ := batchWrite_reads caches.coherent
  exact ⟨written, writes, coherent, reads.trans caches.reads⟩

end

end Laws

end BlackRaven.Lib.WriteBack
