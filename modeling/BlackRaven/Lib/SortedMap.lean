import Mathlib.Data.List.Induction

/-!
Contract: look-ups in a sorted map after a change, by equality of keys, and the orders
of composed keys.

The lemmas of the library speak of the comparison; under a comparison that is `eq` on
equal keys only, these speak of equality.
-/

namespace BlackRaven.Lib

/-! ## Orders -/

def pairOrder {α β : Type} [Ord α] [Ord β] : α × β → α × β → Ordering :=
  compareLex (compareOn Prod.fst) (compareOn Prod.snd)

instance {α β : Type} [Ord α] [Ord β] [Std.TransOrd α] [Std.TransOrd β] :
    Std.TransCmp (pairOrder (α := α) (β := β)) :=
  inferInstanceAs (Std.TransCmp (compareLex (compareOn Prod.fst) (compareOn Prod.snd)))

instance {α β : Type} [Ord α] [Ord β] [Std.TransOrd α] [Std.TransOrd β] [Std.LawfulEqOrd α]
    [Std.LawfulEqOrd β] : Std.LawfulEqCmp (pairOrder (α := α) (β := β)) where
  eq_of_compare := by
    intro left right equal
    simp only [pairOrder, compareLex, compareOn, Ordering.then_eq_eq] at equal
    exact Prod.ext (Std.LawfulEqCmp.eq_of_compare equal.1) (Std.LawfulEqCmp.eq_of_compare equal.2)

theorem transCmp_comap {α β : Type} (cmp : β → β → Ordering) [Std.TransCmp cmp] (f : α → β) :
    Std.TransCmp fun left right => cmp (f left) (f right) where
  eq_swap := Std.OrientedCmp.eq_swap
  isLE_trans := Std.TransCmp.isLE_trans

theorem lawfulEqCmp_comap {α β : Type} (cmp : β → β → Ordering) [Std.LawfulEqCmp cmp] {f : α → β}
    (injective : Function.Injective f) : Std.LawfulEqCmp fun left right => cmp (f left) (f right) where
  compare_self := Std.ReflCmp.compare_self
  eq_of_compare := fun equal => injective (Std.LawfulEqCmp.eq_of_compare equal)

/-! ## Look-ups -/

variable {κ ε : Type} [DecidableEq κ] {cmp : κ → κ → Ordering} [Std.LawfulEqCmp cmp]

theorem ite_compare_eq {α : Type} (key other : κ) (same different : α) :
    (if cmp key other = .eq then same else different) = if other = key then same else different := by
  by_cases equal : other = key
  · rw [if_pos equal, if_pos (Std.LawfulEqCmp.compare_eq_iff_eq.mpr equal.symm)]
  · rw [if_neg equal, if_neg fun compared =>
      equal (Std.LawfulEqCmp.compare_eq_iff_eq.mp compared).symm]

variable [Std.TransCmp cmp]

theorem getElem?_insert_eq (map : Std.TreeMap κ ε cmp) (key other : κ) (value : ε) :
    (map.insert key value)[other]? = if other = key then some value else map[other]? := by
  rw [Std.TreeMap.getElem?_insert, ite_compare_eq]

theorem getElem?_erase_eq (map : Std.TreeMap κ ε cmp) (key other : κ) :
    (map.erase key)[other]? = if other = key then none else map[other]? := by
  rw [Std.TreeMap.getElem?_erase, ite_compare_eq]

section Entries

variable {holds : κ → ε → Prop} {map : Std.TreeMap κ ε cmp} {key : κ}
  (each : ∀ (other : κ) entry, map[other]? = some entry → holds other entry)

include each

theorem forall_insert {value : ε} (new : holds key value) :
    ∀ (other : κ) entry, (map.insert key value)[other]? = some entry → holds other entry := by
  intro other entry found
  rw [getElem?_insert_eq] at found
  by_cases same : other = key
  · rw [if_pos same] at found
    rw [same, ← Option.some.inj found]
    exact new
  · rw [if_neg same] at found
    exact each other entry found

theorem forall_erase : ∀ (other : κ) entry, (map.erase key)[other]? = some entry → holds other entry := by
  intro other entry found
  rw [getElem?_erase_eq] at found
  exact each other entry (Option.ite_none_left_eq_some.mp found).2

end Entries

theorem getElem?_alter_eq (map : Std.TreeMap κ ε cmp) (key other : κ) (change : Option ε → Option ε) :
    (map.alter key change)[other]? = if other = key then change map[key]? else map[other]? := by
  rw [Std.TreeMap.getElem?_alter, ite_compare_eq]

omit [Std.TransCmp cmp] in
theorem beq_compare_eq (key other : κ) : (cmp key other == .eq) = decide (other = key) := by
  rw [Bool.eq_iff_iff, beq_iff_eq, decide_eq_true_iff, Std.LawfulEqCmp.compare_eq_iff_eq, eq_comm]

theorem contains_insert_eq (set : Std.TreeSet κ cmp) (key other : κ) :
    (set.insert key).contains other = if other = key then true else set.contains other := by
  rw [Std.TreeSet.contains_insert, beq_compare_eq]
  by_cases same : other = key <;> simp [same]

theorem contains_erase_eq (set : Std.TreeSet κ cmp) (key other : κ) :
    (set.erase key).contains other = if other = key then false else set.contains other := by
  rw [Std.TreeSet.contains_erase, bne, beq_compare_eq]
  by_cases same : other = key <;> simp [same]

/-- A first insertion stays; later ones of the key have no effect. -/
theorem getElem?_insertIfNew_eq (map : Std.TreeMap κ ε cmp) (key other : κ) (value : ε) :
    (map.insertIfNew key value)[other]? = if other = key then some (map[key]?.getD value) else map[other]? := by
  rw [Std.TreeMap.getElem?_insertIfNew]
  by_cases equal : other = key
  · subst equal
    cases found : map[other]? <;> simp [Std.TreeMap.mem_iff_isSome_getElem?, found]
  · rw [if_neg equal, if_neg fun fresh =>
      equal (Std.LawfulEqCmp.compare_eq_iff_eq.mp fresh.1).symm]

/-! ## Loops -/

theorem foldl_invariant {σ ε : Type} {step : σ → ε → σ} (invariant : σ → Prop) {items : List ε}
    (keeps : ∀ entry ∈ items, ∀ state, invariant state → invariant (step state entry)) {state : σ}
    (holds : invariant state) : invariant (items.foldl step state) := by
  induction items generalizing state with
  | nil => exact holds
  | cons head tail ih =>
    apply ih (List.forall_mem_cons.mp keeps).2
    exact keeps head List.mem_cons_self state holds

theorem foldl_untouched {σ ω ε : Type} {step : σ → ε → σ} (observe : σ → ω) {items : List ε}
    (untouched : ∀ entry ∈ items, ∀ state, observe (step state entry) = observe state) (state : σ) :
    observe (items.foldl step state) = observe state :=
  foldl_invariant (observe · = observe state)
    (fun entry member _ same => (untouched entry member _).trans same) rfl

/-! ## Laying one map over another -/

/-- Every entry of a map over the entries of another. -/
def overwrite {κ ε : Type} {cmp : κ → κ → Ordering} (items target : Std.TreeMap κ ε cmp) :
    Std.TreeMap κ ε cmp :=
  items.foldl (fun map key value => map.insert key value) target

theorem pairwise_ne_toList {κ ε : Type} {cmp : κ → κ → Ordering} [Std.LawfulEqCmp cmp]
    [Std.TransCmp cmp] (map : Std.TreeMap κ ε cmp) :
    map.toList.Pairwise fun left right => left.1 ≠ right.1 := by
  apply Std.TreeMap.distinct_keys_toList.imp
  intro left right different same
  exact different (Std.LawfulEqCmp.compare_eq_iff_eq.mpr same)

/-- A fold over a map that at each entry changes what is observed under that key only:
under each key the observation is the one step of its entry. -/
theorem foldl_observed {σ ω : Type} (step : σ → κ → ε → σ) (observe : σ → κ → ω) (change : ε → ω → ω)
    (steps : ∀ state key value other, observe (step state key value) other
      = if other = key then change value (observe state key) else observe state other)
    (map : Std.TreeMap κ ε cmp) (state : σ) (key : κ) :
    observe (map.foldl step state) key
      = (map[key]?.map fun value => change value (observe state key)).getD (observe state key) := by
  have untouched : ∀ items : List (κ × ε), (∀ item ∈ items, item.1 ≠ key) → ∀ state,
      observe (items.foldl (fun state item => step state item.1 item.2) state) key = observe state key :=
    fun items absent => foldl_untouched (observe · key) fun item member state => by
      rw [steps, if_neg (absent item member).symm]
  rw [Std.TreeMap.foldl_eq_foldl_toList]
  cases found : map[key]? with
  | none =>
    apply untouched
    intro item member same
    rw [Std.TreeMap.mem_toList_iff_getElem?_eq_some, same, found] at member
    cases member
  | some value =>
    have distinct := pairwise_ne_toList map
    obtain ⟨before, after, isList⟩ := List.append_of_mem (Std.TreeMap.mem_toList_iff_getElem?_eq_some.mpr found)
    rw [isList, List.pairwise_append, List.pairwise_cons] at distinct
    rw [isList, List.foldl_append, List.foldl_cons,
      untouched after fun item member => (distinct.2.1.1 item member).symm, steps, if_pos rfl,
      untouched before fun item member => distinct.2.2 item member _ List.mem_cons_self]
    rfl

theorem getElem?_overwrite (items target : Std.TreeMap κ ε cmp) (key : κ) :
    (overwrite items target)[key]? = (items[key]? <|> target[key]?) := by
  have observed := foldl_observed (fun map key value => map.insert key value)
    (fun (map : Std.TreeMap κ ε cmp) key => map[key]?) (fun value _ => some value)
    (fun map key value other => getElem?_insert_eq map key other value) items target key
  rw [overwrite, observed]
  cases items[key]? <;> rfl

theorem overwrite_eq_some {items target : Std.TreeMap κ ε cmp} {key : κ} {entry : ε}
    (found : (overwrite items target)[key]? = some entry) :
    items[key]? = some entry ∨ target[key]? = some entry := by
  rw [getElem?_overwrite] at found
  cases above : items[key]? with
  | some held =>
    rw [above] at found
    exact .inl found
  | none =>
    rw [above] at found
    exact .inr found

/-! ## Runs over entries -/

section Runs

variable {σ ω : Type}

/-- A step over the entries of a map, in the order of the keys. -/
def foldValues {κ ε : Type} {cmp : κ → κ → Ordering} (step : σ → ε → σ)
    (entries : Std.TreeMap κ ε cmp) (state : σ) : σ :=
  entries.foldl (fun state _ entry => step state entry) state

/-- A stage that sets an observation to a value where it touches it, and keeps it where it
does not. -/
structure Stamps (observe : σ → ω) (value : ω) (touched : Prop) (stage : σ → σ) : Prop where
  written : touched → ∀ state, observe (stage state) = value
  kept : ¬touched → ∀ state, observe (stage state) = observe state

variable {observe : σ → ω} {value : ω} {stage : σ → σ}

theorem Stamps.comp {first second : Prop} {before after : σ → σ}
    (stampsBefore : Stamps observe value first before) (stampsAfter : Stamps observe value second after) :
    Stamps observe value (first ∨ second) fun state => after (before state) := by
  constructor
  · intro touched state
    by_cases touchedAfter : second
    · exact stampsAfter.written touchedAfter _
    · rw [stampsAfter.kept touchedAfter]
      exact stampsBefore.written (touched.resolve_right touchedAfter) state
  · intro untouched state
    rw [stampsAfter.kept fun touched => untouched (.inr touched)]
    exact stampsBefore.kept (fun touched => untouched (.inl touched)) state

theorem Stamps.untouched (keeps : ∀ state, observe (stage state) = observe state) :
    Stamps observe value False stage :=
  ⟨False.elim, fun _ => keeps⟩

theorem Stamps.congr {touched same : Prop} (stamps : Stamps observe value touched stage)
    (isSame : touched ↔ same) :
    Stamps observe value same stage :=
  ⟨fun holds => stamps.written (isSame.mpr holds), fun fails => stamps.kept fun holds =>
    fails (isSame.mp holds)⟩

theorem Stamps.foldl {ε : Type} (step : σ → ε → σ) (items : List ε) {touched : ε → Prop}
    (steps : ∀ entry ∈ items, Stamps observe value (touched entry) fun state => step state entry) :
    Stamps observe value (∃ entry ∈ items, touched entry) fun state => items.foldl step state := by
  induction items with
  | nil => exact (Stamps.untouched fun _ => rfl).congr (by simp)
  | cons head tail ih =>
    have rest := ih (List.forall_mem_cons.mp steps).2
    exact ((steps head List.mem_cons_self).comp rest).congr (by simp)

variable {κ ε : Type} {cmp : κ → κ → Ordering} [Std.LawfulEqCmp cmp] [Std.TransCmp cmp]
  {step : σ → ε → σ} {entries : Std.TreeMap κ ε cmp}

omit [Std.LawfulEqCmp cmp] [Std.TransCmp cmp] in
theorem foldValues_eq (step : σ → ε → σ) (entries : Std.TreeMap κ ε cmp) (state : σ) :
    foldValues step entries state = (entries.toList.map Prod.snd).foldl step state := by
  rw [foldValues, Std.TreeMap.foldl_eq_foldl_toList, List.foldl_map]

theorem mem_values {entry : ε} :
    entry ∈ entries.toList.map Prod.snd ↔ ∃ key : κ, entries[key]? = some entry := by
  rw [List.mem_map]
  constructor
  · rintro ⟨⟨key, value⟩, member, rfl⟩
    exact ⟨key, Std.TreeMap.mem_toList_iff_getElem?_eq_some.mp member⟩
  · rintro ⟨key, found⟩
    exact ⟨(key, entry), Std.TreeMap.mem_toList_iff_getElem?_eq_some.mpr found, rfl⟩

theorem foldValues_invariant (invariant : σ → Prop) (keeps : ∀ (key : κ) entry, entries[key]? = some entry →
      ∀ state, invariant state → invariant (step state entry)) {state : σ}
    (holds : invariant state) : invariant (foldValues step entries state) := by
  rw [foldValues_eq]
  apply foldl_invariant invariant _ holds
  intro entry member
  obtain ⟨key, found⟩ := mem_values.mp member
  exact keeps key entry found

theorem foldValues_untouched (observe : σ → ω) (untouched : ∀ (key : κ) entry, entries[key]? = some entry →
      ∀ state, observe (step state entry) = observe state) (state : σ) :
    observe (foldValues step entries state) = observe state :=
  foldValues_invariant (observe · = observe state)
    (fun key entry found _ same => (untouched key entry found _).trans same) rfl

theorem Stamps.foldValues (step : σ → ε → σ) (entries : Std.TreeMap κ ε cmp) {touched : ε → Prop}
    (steps : ∀ (key : κ) entry, entries[key]? = some entry →
      Stamps observe value (touched entry) fun state => step state entry) :
    Stamps observe value (∃ (key : κ) (entry : ε), entries[key]? = some entry ∧ touched entry)
      (foldValues step entries) := by
  have folded := Stamps.foldl step (entries.toList.map Prod.snd) fun entry member =>
    have ⟨key, found⟩ := mem_values.mp member
    steps key entry found
  simp only [← foldValues_eq, mem_values] at folded
  exact folded.congr (by grind)

/-- An observation that belongs to a key, over entries that carry their keys: the step of
its entry sets it, or leaves it, and no other step changes it. -/
theorem foldValues_keyed [DecidableEq κ] (step : σ → ε → σ) (entries : Std.TreeMap κ ε cmp)
    (observe : σ → ω) (key : κ) (keyOf : ε → κ) (set : ε → Option ω)
    (keyed : ∀ (place : κ) entry, entries[place]? = some entry → keyOf entry = place)
    (steps : ∀ entry state, observe (step state entry)
      = if key = keyOf entry then (set entry).getD (observe state) else observe state) (state : σ) :
    observe (foldValues step entries state) = (entries[key]?.bind set).getD (observe state) := by
  let value := (entries[key]?.bind set).getD (observe state)
  have stamps := @Stamps.foldValues _ _ observe value _ _ _ _ _ step entries
    (fun entry => key = keyOf entry ∧ (set entry).isSome = true) (by
      intro place entry found
      constructor
      · rintro ⟨isKey, isSet⟩ other
        obtain ⟨held, sets⟩ := Option.isSome_iff_exists.mp isSet
        rw [← keyed place entry found, ← isKey] at found
        simp only [steps, value, if_pos isKey, found, sets, Option.bind_some, Option.getD_some]
      · intro untouched other
        rw [steps]
        by_cases isKey : key = keyOf entry
        · rw [if_pos isKey, Option.not_isSome_iff_eq_none.mp fun isSet => untouched ⟨isKey, isSet⟩,
            Option.getD_none]
        · rw [if_neg isKey])
  by_cases touched : ∃ (place : κ) (entry : ε), entries[place]? = some entry
      ∧ key = keyOf entry ∧ (set entry).isSome = true
  · exact stamps.written touched state
  · have unset : entries[key]?.bind set = none := by
      by_contra isSet
      obtain ⟨value, isSet⟩ := Option.ne_none_iff_exists'.mp isSet
      obtain ⟨entry, found, sets⟩ := Option.bind_eq_some_iff.mp isSet
      exact touched ⟨key, entry, found, (keyed key entry found).symm, by rw [sets]; rfl⟩
    rw [stamps.kept touched, unset, Option.getD_none]

end Runs

end BlackRaven.Lib
