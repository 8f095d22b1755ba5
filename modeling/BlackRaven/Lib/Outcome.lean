import Mathlib.Control.Monad.Basic

/-!
Contract: inversion of successful computations in `Except`.

Owns: the bind rule that peels a sequence of checks apart.
-/

namespace BlackRaven.Lib

variable {ε α β σ τ ι : Type} {outcome : Except ε α} {failure : ε} {step : σ → ι → Except ε σ}
  {items : List ι} {start last : σ}

/-- A sequence succeeds exactly when its first step does and the rest does after it. -/
theorem bind_eq_ok {first : Except ε α} {next : α → Except ε β} {result : β} :
    (first >>= next) = .ok result ↔ ∃ value, first = .ok value ∧ next value = .ok result := by
  cases first <;> simp [bind, Except.bind]

theorem foldlM_cons_ok {head : ι} {tail : List ι} :
    (head :: tail).foldlM step start = .ok last
      ↔ ∃ next, step start head = .ok next ∧ tail.foldlM step next = .ok last := by
  rw [List.foldlM_cons, bind_eq_ok]

/-- A check that is one branch of an `if` succeeds exactly when it is not taken. -/
theorem ite_error_eq_ok {condition : Prop} [Decidable condition] {next : Except ε α} {result : α} :
    (if condition then .error failure else next) = .ok result ↔ ¬ condition ∧ next = .ok result := by
  by_cases fires : condition <;> simp [fires]

theorem map_eq_error {f : α → β} : outcome.map f = .error failure ↔ outcome = .error failure := by
  cases outcome <;> simp [Except.map]

theorem map_eq_ok {f : α → β} {result : β} :
    outcome.map f = .ok result ↔ ∃ value, outcome = .ok value ∧ f value = result := by
  cases outcome <;> simp [Except.map]

theorem mapError_eq_ok {ω : Type} {rename : ε → ω} {value : α} :
    outcome.mapError rename = .ok value ↔ outcome = .ok value := by
  cases outcome <;> simp [Except.mapError]

def required {ε α : Type} (failure : ε) : Option α → Except ε α
  | none => .error failure
  | some value => .ok value

theorem required_eq_ok {found : Option α} {value : α} :
    required failure found = .ok value ↔ found = some value := by
  cases found <;> simp [required]

/-- A loop whose steps each need a value runs exactly as the loop over the values. -/
theorem foldlM_required {attempt : σ → ι → Option σ}
    (same : ∀ item ∈ items, ∀ state, step state item = required failure (attempt state item))
    (state : σ) : items.foldlM step state = required failure (items.foldlM attempt state) := by
  induction items generalizing state with
  | nil => rfl
  | cons head tail ih =>
    rw [List.foldlM_cons, List.foldlM_cons, same head List.mem_cons_self]
    cases attempt state head with
    | none => rfl
    | some next =>
      exact ih (List.forall_mem_cons.mp same).2 next

theorem toOption_any {good : α → Bool} :
    outcome.toOption.any good = true ↔ ∃ value, outcome = .ok value ∧ good value = true := by
  cases outcome <;> simp [Except.toOption]

theorem toOption_isSome : outcome.toOption.isSome = true ↔ ∃ value, outcome = .ok value := by
  cases outcome <;> simp [Except.toOption]

theorem mapM_congr_of_mem {f g : α → Except ε β} {items : List α}
    (agree : ∀ item ∈ items, f item = g item) : items.mapM f = items.mapM g := by
  induction items with
  | nil => rfl
  | cons head tail ih =>
    rw [List.mapM_cons, List.mapM_cons, agree head List.mem_cons_self, ih (List.forall_mem_cons.mp agree).2]

/-- A loop that stops at the first failure: where every step that succeeds updates one
part of the state, a whole run that succeeds folds the update. -/
theorem foldlM_project {project : σ → τ} {update : τ → ι → τ}
    (effect : ∀ s item next, step s item = .ok next → project next = update (project s) item)
    (runs : items.foldlM step start = .ok last) :
    project last = items.foldl update (project start) := by
  induction items generalizing start with
  | nil =>
    cases runs
    rfl
  | cons head tail ih =>
    obtain ⟨next, first, later⟩ := foldlM_cons_ok.mp runs
    rw [List.foldl_cons, ← effect start head next first]
    exact ih later

/-- An invariant of the steps on the items of a list holds after a run over it. -/
theorem foldlM_invariant (invariant : σ → Prop)
    (preserved : ∀ s item next, item ∈ items → invariant s → step s item = .ok next → invariant next)
    (holds : invariant start) (runs : items.foldlM step start = .ok last) : invariant last := by
  induction items generalizing start with
  | nil =>
    cases runs
    exact holds
  | cons head tail ih =>
    obtain ⟨next, first, later⟩ := foldlM_cons_ok.mp runs
    apply ih _ _ later
    · intro s item following member
      exact preserved s item following (List.mem_cons_of_mem head member)
    · exact preserved start head next List.mem_cons_self holds first

theorem foldlM_total (total : ∀ s, ∀ item ∈ items, ∃ next, step s item = .ok next) (start : σ) :
    ∃ last, items.foldlM step start = .ok last := by
  induction items generalizing start with
  | nil => exact ⟨start, rfl⟩
  | cons head tail ih =>
    obtain ⟨next, first⟩ := total start head List.mem_cons_self
    obtain ⟨last, later⟩ := ih (fun s item member => total s item (List.mem_cons_of_mem head member)) next
    exact ⟨last, bind_eq_ok.mpr ⟨next, first, later⟩⟩

theorem foldlM_unchanged (view : σ → τ) (keeps : ∀ s item next, step s item = .ok next → view next = view s)
    (runs : items.foldlM step start = .ok last) : view last = view start := by
  apply foldlM_invariant (view · = view start) _ rfl runs
  intro s item next _ same steps
  exact (keeps s item next steps).trans same

/-- A loop that also guards its items succeeds exactly when the other does and every item
is good. -/
theorem foldlM_guarded {guarded : σ → ι → Except ε σ} {good : ι → Prop}
    (agree : ∀ s item next, guarded s item = .ok next ↔ step s item = .ok next ∧ good item) :
    items.foldlM guarded start = .ok last ↔ items.foldlM step start = .ok last ∧ ∀ item ∈ items, good item := by
  induction items generalizing start with
  | nil => simp
  | cons head tail ih =>
    rw [List.foldlM_cons, List.foldlM_cons, bind_eq_ok, bind_eq_ok]
    simp only [agree, ih, List.forall_mem_cons]
    constructor
    · rintro ⟨next, ⟨first, headGood⟩, later, tailGood⟩
      exact ⟨⟨next, first, later⟩, headGood, tailGood⟩
    · rintro ⟨⟨next, first, later⟩, headGood, tailGood⟩
      exact ⟨next, ⟨first, headGood⟩, later, tailGood⟩

/-- Two loops whose steps agree on the items of a list agree on it. -/
theorem foldlM_congr_of_mem {other : σ → ι → Except ε σ}
    (agree : ∀ s, ∀ item ∈ items, step s item = other s item) :
    items.foldlM step start = items.foldlM other start := by
  induction items generalizing start with
  | nil => rfl
  | cons head tail ih =>
    rw [List.foldlM_cons, List.foldlM_cons, agree start head List.mem_cons_self]
    congr 1
    funext next
    exact ih fun s item member => agree s item (List.mem_cons_of_mem head member)

/-- What a step on an item establishes, and no other step destroys, holds for every item
after a run. -/
theorem foldlM_established (recorded : ι → σ → Prop)
    (records : ∀ s item next, step s item = .ok next → recorded item next)
    (keeps : ∀ s item next other, step s item = .ok next → recorded other s → recorded other next)
    (runs : items.foldlM step start = .ok last) :
    ∀ item ∈ items, recorded item last := by
  intro item member
  induction items generalizing start with
  | nil => cases member
  | cons head tail ih =>
    obtain ⟨next, first, later⟩ := foldlM_cons_ok.mp runs
    rcases List.mem_cons.mp member with isHead | inTail
    · rw [isHead]
      exact foldlM_invariant _ (fun s other following _ holds steps =>
        keeps s other following head steps holds) (records start head next first) later
    · exact ih later inTail

/-- Two sequences agree up to a view of their results when their first steps do up to a
view that the rest depends on alone. -/
theorem bind_map_congr {γ δ : Type} {first other : Except ε α} {next following : α → Except ε β}
    (view : α → γ) {outcome : β → δ} (agree : first.map view = other.map view)
    (dependent : ∀ value same, view value = view same →
      (next value).map outcome = (following same).map outcome) :
    (first >>= next).map outcome = (other >>= following).map outcome := by
  cases first with
  | error failure =>
    rw [map_eq_error.mp (agree.symm.trans rfl)]
    rfl
  | ok value =>
    obtain ⟨same, isOther, sameView⟩ := map_eq_ok.mp (agree.symm.trans rfl)
    rw [isOther]
    exact dependent value same sameView.symm

theorem bind_const_congr {γ : Type} {first other : Except ε α} {rest : Except ε β} {view : α → γ}
    (agree : first.map view = other.map view) :
    (first >>= fun _ => rest) = (other >>= fun _ => rest) := by
  have mapped : (first >>= fun _ => rest).map id = (other >>= fun _ => rest).map id :=
    bind_map_congr view agree fun _ _ _ => rfl
  rwa [Except.map_id, id, id] at mapped

/-- Two loops whose steps agree up to a view of the state agree up to that view. -/
theorem foldlM_map_congr {other : σ → ι → Except ε σ} {view : σ → τ} {initial : σ}
    (agree : ∀ s same, ∀ item ∈ items, view s = view same → (step s item).map view = (other same item).map view)
    (same : view start = view initial) :
    (items.foldlM step start).map view = (items.foldlM other initial).map view := by
  induction items generalizing start initial with
  | nil => exact congrArg Except.ok same
  | cons head tail ih =>
    apply bind_map_congr view (agree start initial head List.mem_cons_self same)
    intro next following sameNext
    exact ih (fun s similar item member =>
      agree s similar item (List.mem_cons_of_mem head member)) sameNext

/-- A check on every item of a list succeeds exactly when it does on each. -/
theorem forM_eq_ok {check : α → Except ε Unit} {items : List α} :
    items.forM check = .ok () ↔ ∀ item ∈ items, check item = .ok () := by
  induction items with
  | nil => simp [pure, Except.pure]
  | cons head tail ih =>
    have unfolded : (head :: tail).forM check = (check head >>= fun _ => tail.forM check) := rfl
    rw [unfolded, bind_eq_ok, List.forall_mem_cons, ← ih]
    constructor
    · rintro ⟨_, checked⟩
      exact checked
    · intro checked
      exact ⟨(), checked⟩

end BlackRaven.Lib
