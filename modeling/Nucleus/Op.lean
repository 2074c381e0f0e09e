import Nucleus.Event
import Nucleus.Fault

/-! Operations: a state in, events and either a fault or a result with the state after it out.
Events before a fault are kept; the state at a fault is not, since nothing runs after it. -/
namespace Nucleus

def Op (σ α : Type) : Type := σ → List Event × Except Fault (α × σ)

namespace Op
variable {σ τ α β : Type}

def run (op : Op σ α) (state : σ) : List Event × Except Fault (α × σ) := op state

protected def pure (value : α) : Op σ α := fun state => ([], .ok (value, state))

protected def bind (op : Op σ α) (next : α → Op σ β) : Op σ β := fun state =>
  match op state with
  | (events, .error fault) => (events, .error fault)
  | (events, .ok (value, state)) =>
    let (more, result) := next value state
    (events ++ more, result)

instance : Monad (Op σ) where
  pure := Op.pure
  bind := Op.bind

instance : MonadStateOf σ (Op σ) where
  get := fun state => ([], .ok (state, state))
  set := fun state _ => ([], .ok ((), state))
  modifyGet := fun change state => ([], .ok (change state))

/-- A checked computation; its failure stops the run. -/
def check (computed : Except Fault α) : Op σ α := fun state =>
  match computed with
  | .ok value => ([], .ok (value, state))
  | .error fault => ([], .error fault)

instance : MonadLift (Except Fault) (Op σ) where
  monadLift := check

def emit (event : Event) : Op σ Unit := fun state => ([event], .ok ((), state))

def log (level : Log.Level) (text : String) : Op σ Unit := emit (.logged ⟨level, text⟩)

/-- Runs an operation on one part of a larger state. -/
def onPart (part : σ → τ) (put : τ → σ → σ) (op : Op τ α) : Op σ α := fun state =>
  match op (part state) with
  | (events, .ok (value, changed)) => (events, .ok (value, put changed state))
  | (events, .error fault) => (events, .error fault)

/-- Holds a lock for the length of an operation. -/
def locked (lock : Lock) (op : Op σ α) : Op σ α := do
  emit (.took lock)
  let value ← op
  emit (.dropped lock)
  pure value

instance : LawfulMonad (Op σ) := LawfulMonad.mk' (Op σ)
  (by
    intro α op
    funext state
    change Op.bind op (fun value => Op.pure value) state = op state
    unfold Op.bind
    rcases h : op state with ⟨events, fault | ⟨value, after⟩⟩ <;> simp [Op.pure])
  (by
    intro α β value next
    funext state
    change Op.bind (Op.pure value) next state = next value state
    simp [Op.bind, Op.pure])
  (by
    intro α β γ op next last
    funext state
    change Op.bind (Op.bind op next) last state = Op.bind op (fun a => Op.bind (next a) last) state
    unfold Op.bind
    rcases op state with ⟨events, fault | ⟨value, after⟩⟩
    · rfl
    · rcases h : next value after with ⟨more, fault | ⟨value, after⟩⟩ <;> simp [h])

/-! ### How operations run -/

section Run
variable (state : σ)

@[simp] theorem run_pure (value : α) : (pure value : Op σ α).run state = ([], .ok (value, state)) :=
  rfl

theorem run_bind (op : Op σ α) (next : α → Op σ β) :
    (op >>= next).run state =
      match op.run state with
      | (events, .error fault) => (events, .error fault)
      | (events, .ok (value, after)) =>
        (events ++ ((next value).run after).1, ((next value).run after).2) := by
  change Op.bind op next state = _
  unfold Op.bind run
  rcases op state with ⟨events, fault | ⟨value, after⟩⟩ <;> rfl

theorem run_map (change : α → β) (op : Op σ α) :
    (change <$> op).run state =
      match op.run state with
      | (events, .error fault) => (events, .error fault)
      | (events, .ok (value, after)) => (events, .ok (change value, after)) := by
  rw [map_eq_pure_bind, run_bind]
  rcases op.run state with ⟨events, fault | ⟨value, after⟩⟩ <;> simp

/-- After a step that succeeds, the rest runs on the state it left. -/
theorem run_bind_ok {op : Op σ α} {events : List Event} {value : α} {after : σ}
    (ran : op.run state = (events, .ok (value, after))) (next : α → Op σ β) :
    (op >>= next).run state =
      (events ++ ((next value).run after).1, ((next value).run after).2) := by
  rw [run_bind, ran]

/-- After a fault nothing runs. -/
theorem run_bind_error {op : Op σ α} {events : List Event} {fault : Fault}
    (ran : op.run state = (events, .error fault)) (next : α → Op σ β) :
    (op >>= next).run state = (events, .error fault) := by
  rw [run_bind, ran]

@[simp] theorem run_get : (get : Op σ σ).run state = ([], .ok (state, state)) := rfl

@[simp] theorem run_set (after : σ) : (set after : Op σ PUnit).run state = ([], .ok ((), after)) :=
  rfl

@[simp] theorem run_modify (change : σ → σ) :
    (modify change : Op σ PUnit).run state = ([], .ok ((), change state)) := rfl

@[simp] theorem run_emit (event : Event) :
    (emit event : Op σ Unit).run state = ([event], .ok ((), state)) := rfl

@[simp] theorem run_check_ok (value : α) :
    (check (.ok value) : Op σ α).run state = ([], .ok (value, state)) := rfl

@[simp] theorem run_check_error (fault : Fault) :
    (check (.error fault) : Op σ α).run state = ([], .error fault) := rfl

@[simp] theorem run_liftM_ok (value : α) :
    (liftM (Except.ok value : Except Fault α) : Op σ α).run state = ([], .ok (value, state)) := rfl

@[simp] theorem run_liftM_error (fault : Fault) :
    (liftM (Except.error fault : Except Fault α) : Op σ α).run state = ([], .error fault) := rfl

theorem run_locked {op : Op σ α} {events : List Event} {value : α} {after : σ} (lock : Lock)
    (ran : op.run state = (events, .ok (value, after))) :
    (locked lock op).run state =
      (.took lock :: (events ++ [.dropped lock]), .ok (value, after)) := by
  simp [locked, run_bind, run_map, ran]

end Run

end Op

end Nucleus
