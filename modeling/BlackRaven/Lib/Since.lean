import BlackRaven.Lib.Outcome

/-!
Contract: a condition that some events of a run set and others clear.

Owns: that it holds after a run exactly when an event has set it and none since then has
cleared it.
-/

namespace BlackRaven.Lib

variable {σ ι ε : Type} (step : σ → ι → Except ε σ) (Sets Clears : σ → ι → Prop)

/-- No event of the run clears the condition. -/
def Uncleared (s : σ) : List ι → Prop
  | [] => True
  | event :: rest => ¬ Clears s event ∧ ∀ next, step s event = .ok next → Uncleared next rest

/-- An event of the run sets the condition, and none after it clears it. -/
def SetSince (s : σ) : List ι → Prop
  | [] => False
  | event :: rest => ∃ next, step s event = .ok next
      ∧ (Sets s event ∧ Uncleared step Clears next rest ∨ SetSince next rest)

variable {step Sets Clears} {Holds : σ → Prop}

/-- A condition that one step sets, keeps or clears: what a run makes of it. -/
theorem holds_after_iff
    (one : ∀ {s event next}, step s event = .ok next → (Holds next ↔ Sets s event ∨ Holds s ∧ ¬ Clears s event))
    {events : List ι} {s last : σ} (runs : events.foldlM step s = .ok last) :
    Holds last ↔ Holds s ∧ Uncleared step Clears s events ∨ SetSince step Sets Clears s events := by
  induction events generalizing s with
  | nil =>
    cases runs
    simp [Uncleared, SetSince]
  | cons event rest ih =>
    obtain ⟨next, first, later⟩ := foldlM_cons_ok.mp runs
    simp only [ih later, one first, Uncleared, SetSince, first, Except.ok.injEq, exists_eq_left', forall_eq']
    rw [or_and_right, and_assoc, or_assoc, or_left_comm]

end BlackRaven.Lib
