import Nucleus.Op

/-! How operations end, whatever they leave behind on the way. -/
namespace Nucleus.Op
variable {σ τ α β : Type} {state : σ}

/-- The result of an operation with the state after it, or the fault it stops with. -/
def outcome (op : Op σ α) (state : σ) : Except Fault (α × σ) := (op.run state).2

theorem outcome_of_run {op : Op σ α} {events : List Event} {ended : Except Fault (α × σ)}
    (ran : op.run state = (events, ended)) : op.outcome state = ended := by
  rw [outcome, ran]

theorem run_of_outcome {op : Op σ α} {ended : Except Fault (α × σ)} (same : op.outcome state = ended) :
    ∃ events, op.run state = (events, ended) := ⟨_, Prod.ext rfl same⟩

@[simp] theorem outcome_pure (value : α) : (pure value : Op σ α).outcome state = .ok (value, state) := rfl

@[simp] theorem outcome_emit (event : Event) : (emit event : Op σ Unit).outcome state = .ok ((), state) := rfl

@[simp] theorem outcome_bind (op : Op σ α) (next : α → Op σ β) :
    (op >>= next).outcome state = op.outcome state >>= fun ended => (next ended.1).outcome ended.2 := by
  unfold outcome
  rw [run_bind]
  rcases op.run state with ⟨events, fault | ⟨value, after⟩⟩ <;> rfl

/-- A lock does not show in how an operation ends. -/
@[simp] theorem outcome_locked (lock : Lock) (op : Op σ α) : (locked lock op).outcome state = op.outcome state := by
  simp only [locked, outcome_bind, outcome_emit, outcome_pure]
  exact bind_pure (op.outcome state)

@[simp] theorem outcome_onPart (part : σ → τ) (put : τ → σ → σ) (op : Op τ α) :
    (onPart part put op).outcome state =
      (op.outcome (part state)).map fun ended => (ended.1, put ended.2 state) := by
  simp only [outcome, run, onPart]
  rcases op (part state) with ⟨events, fault | ended⟩ <;> rfl

end Nucleus.Op
