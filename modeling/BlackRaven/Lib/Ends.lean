import BlackRaven.Lib.Outcome

/-!
Contract: computations that end in a value with a property or in an allowed failure.

Owns: the rules for sequences and loops, and where a loop that ends otherwise does so.
-/

namespace BlackRaven.Lib

variable {ε α β σ ι : Type}

/-- The value has the property, the failure is an allowed one. -/
def Ends (allowed : ε → Prop) (post : α → Prop) : Except ε α → Prop
  | .ok value => post value
  | .error failure => allowed failure

namespace Ends

variable {allowed : ε → Prop} {post : α → Prop}

variable {outcome : Except ε α} {next : α → Except ε β} {after : β → Prop}

theorem mono {stronger : α → Prop} (ends : Ends allowed stronger outcome)
    (weaker : ∀ value, stronger value → post value) : Ends allowed post outcome := by
  cases outcome with
  | error failure => exact ends
  | ok value => exact weaker value ends

theorem bind {first : Except ε α} (ends : Ends allowed post first)
    (continues : ∀ value, post value → Ends allowed after (next value)) :
    Ends allowed after (first >>= next) := by
  cases first with
  | error failure => exact ends
  | ok value => exact continues value ends

theorem map {f : α → β} (ends : Ends allowed post outcome)
    (maps : ∀ value, post value → after (f value)) : Ends allowed after (outcome.map f) := by
  cases outcome with
  | error failure => exact ends
  | ok value => exact maps value ends

theorem left {first : Except ε α} (ends : Ends allowed after (first >>= next)) :
    Ends allowed (fun _ => True) first := by
  cases first with
  | error failure => exact ends
  | ok value => trivial

/-- Where the rest always ends well, a sequence ends as its first part does. -/
theorem bind_iff {first : Except ε α}
    (continues : ∀ value, first = .ok value → Ends allowed after (next value)) :
    Ends allowed after (first >>= next) ↔ Ends allowed (fun _ => True) first := by
  cases first with
  | error failure => exact Iff.rfl
  | ok value => exact iff_of_true (continues value rfl) trivial

theorem of_ok {value : α} (succeeds : outcome = .ok value) (holds : post value) :
    Ends allowed post outcome := by
  rw [succeeds]
  exact holds

theorem total_iff : Ends (fun _ => False) post outcome ↔ ∃ value, outcome = .ok value ∧ post value := by
  cases outcome <;> simp [Ends]

theorem guard {condition : Prop} [Decidable condition] {failure : ε} {next : Except ε α}
    (allowedFailure : allowed failure) (rest : ¬ condition → Ends allowed post next) :
    Ends allowed post (if condition then .error failure else next) := by
  by_cases fires : condition
  · rw [if_pos fires]
    exact allowedFailure
  · rw [if_neg fires]
    exact rest fires

theorem foldlM {step : σ → ι → Except ε σ} {invariant : σ → Prop} {items : List ι} {state : σ}
    (keeps : ∀ item ∈ items, ∀ state, invariant state → Ends allowed invariant (step state item))
    (holds : invariant state) : Ends allowed invariant (items.foldlM step state) := by
  induction items generalizing state with
  | nil => exact holds
  | cons head tail ih =>
    exact (keeps head List.mem_cons_self state holds).bind fun next nextHolds =>
      ih (List.forall_mem_cons.mp keeps).2 nextHolds

theorem foldlM_zipIdx {step : σ → ι × Nat → Except ε σ} {invariant : Nat → σ → Prop} {items : List ι}
    {start : Nat} {state : σ}
    (keeps : ∀ item index state, item ∈ items → index < start + items.length → invariant index state →
      Ends allowed (invariant (index + 1)) (step state (item, index)))
    (holds : invariant start state) :
    Ends allowed (invariant (start + items.length)) ((items.zipIdx start).foldlM step state) := by
  induction items generalizing start state with
  | nil => exact holds
  | cons head tail ih =>
    rw [List.zipIdx_cons, List.foldlM_cons, List.length_cons, ← Nat.add_assoc, Nat.add_right_comm]
    have first := keeps head start state List.mem_cons_self (by rw [List.length_cons]; omega) holds
    refine first.bind fun next nextHolds => ih ?_ nextHolds
    intro item index state member below
    exact keeps item index state (List.mem_cons_of_mem head member) (by rw [List.length_cons]; omega)

end Ends

/-- A loop ends in a failure that is not allowed exactly where one of its rounds does. -/
theorem foldlM_ends_iff {allowed : ε → Prop} {step : σ → ι → Except ε σ} {items : List ι} {state : σ} :
    Ends allowed (fun _ => True) (items.foldlM step state) ↔
      ∀ before item after reached, items = before ++ item :: after →
        before.foldlM step state = .ok reached → Ends allowed (fun _ => True) (step reached item) := by
  induction items generalizing state with
  | nil =>
    constructor
    · intro _ before item after reached impossible
      simp at impossible
    · intro _
      trivial
  | cons head tail ih =>
    constructor
    · intro ends before item after reached splits runs
      cases before with
      | nil =>
        obtain ⟨rfl, rfl⟩ := List.cons.inj splits
        cases runs
        exact ends.left
      | cons first rest =>
        obtain ⟨rfl, same⟩ := List.cons.inj splits
        rw [List.foldlM_cons] at ends runs
        obtain ⟨next, round, later⟩ := bind_eq_ok.mp runs
        rw [round] at ends
        exact ih.mp ends rest item after reached same later
    · intro rounds
      rw [List.foldlM_cons]
      have first := rounds [] head tail state rfl rfl
      cases round : step state head with
      | error failure =>
        rw [round] at first
        exact first
      | ok next =>
        refine ih.mpr fun before item after reached splits runs => ?_
        refine rounds (head :: before) item after reached (by rw [splits]; rfl) ?_
        rw [List.foldlM_cons, round]
        exact runs

/-- A loop succeeds exactly when each round does, in the state that the rounds before leave. -/
theorem foldlM_isOk_iff {step : σ → ι → Except ε σ} {items : List ι} {state : σ} :
    (∃ last, items.foldlM step state = .ok last) ↔
      ∀ before item after reached, items = before ++ item :: after →
        before.foldlM step state = .ok reached → ∃ next, step reached item = .ok next := by
  have rounds := @foldlM_ends_iff ε σ ι (fun _ => False) step items state
  simpa only [Ends.total_iff, and_true] using rounds

end BlackRaven.Lib
