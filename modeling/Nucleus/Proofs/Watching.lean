import Nucleus.Op

/-! Operations under watch. A watch moves on with each event or refuses it; an operation passes if none of its
events is refused, from whatever state it runs, and the watch is back where it was if the operation returns. -/
namespace Nucleus

/-- Where a watch goes from a place on an event, if it lets the event pass. -/
abbrev Watch (τ : Type) := τ → Event → Option τ

namespace Watch
variable {τ : Type} {watch : Watch τ} {place left : τ} {event : Event} {early late events : List Event}

/-- Where the watch stands after some events, if all pass. -/
def seen (watch : Watch τ) (place : τ) (events : List Event) : Option τ := events.foldlM watch place

@[simp] theorem seen_nil : watch.seen place [] = some place := rfl

theorem seen_cons : watch.seen place (event :: events) = (watch place event).bind (watch.seen · events) := rfl

theorem seen_append : watch.seen place (early ++ late) = (watch.seen place early).bind (watch.seen · late) :=
  List.foldlM_append

theorem seen_append_of_some (passed : watch.seen place early = some left) :
    watch.seen place (early ++ late) = watch.seen left late := by
  rw [seen_append, passed, Option.bind_some]

/-- An event that passes has passed at the place that the events before it lead to. -/
theorem seen_split (passed : watch.seen place (early ++ event :: late) = some left) :
    ∃ middle next, watch.seen place early = some middle ∧ watch middle event = some next := by
  rw [seen_append] at passed
  obtain ⟨middle, first, passed⟩ := Option.bind_eq_some_iff.mp passed
  rw [seen_cons] at passed
  obtain ⟨next, then_event, -⟩ := Option.bind_eq_some_iff.mp passed
  exact ⟨middle, next, first, then_event⟩

end Watch

namespace Op
variable {σ ρ τ α β ε : Type} {watch : Watch τ} {place inner : τ}

/-- From every state, all events pass, and an operation that returns leaves the watch where it was. -/
def Passes (watch : Watch τ) (place : τ) (op : Op σ α) : Prop :=
  ∀ state, ∃ left, watch.seen place (op.run state).1 = some left ∧
    ∀ value after, (op.run state).2 = .ok (value, after) → left = place

namespace Passes

theorem silent {op : Op σ α} (silent : ∀ state, (op.run state).1 = []) : op.Passes watch place := by
  refine fun state => ⟨place, ?_, fun _ _ _ => rfl⟩
  rw [silent state, Watch.seen_nil]

theorem pure (value : α) : (Pure.pure value : Op σ α).Passes watch place := silent fun _ => rfl

/-- After a fault there is nothing to show. -/
theorem faulted {fault : Fault} {fact : α → σ → Prop} :
    ∀ value after, (Except.error fault : Except Fault (α × σ)) = .ok (value, after) → fact value after := by
  intro value after impossible
  cases impossible

theorem bind {op : Op σ α} {next : α → Op σ β} (first : op.Passes watch place)
    (rest : ∀ value, (next value).Passes watch place) : (op >>= next).Passes watch place := by
  intro state
  obtain ⟨middle, passed, back⟩ := first state
  rcases ran : op.run state with ⟨events, fault | ⟨value, after⟩⟩
  · rw [run_bind_error state ran]
    rw [ran] at passed
    exact ⟨middle, passed, faulted⟩
  · rw [run_bind_ok state ran]
    rw [ran] at passed back
    obtain rfl := back value after rfl
    obtain ⟨left, later, home⟩ := rest value after
    exact ⟨left, (Watch.seen_append_of_some passed).trans later, home⟩

theorem map {op : Op σ α} (change : α → β) (passes : op.Passes watch place) :
    (change <$> op).Passes watch place := by
  rw [map_eq_pure_bind]
  exact passes.bind fun value => pure (change value)

theorem check (computed : Except Fault α) : (Op.check computed : Op σ α).Passes watch place := by
  cases computed <;> exact silent fun _ => rfl

theorem get : (MonadState.get : Op σ σ).Passes watch place := silent fun _ => rfl

theorem set (state : σ) : (MonadStateOf.set state : Op σ PUnit).Passes watch place := silent fun _ => rfl

theorem modifyGet (change : σ → α × σ) : (MonadStateOf.modifyGet change : Op σ α).Passes watch place :=
  silent fun _ => rfl

theorem emit {event : Event} (passed : watch place event = some place) :
    (Op.emit event : Op σ Unit).Passes watch place := by
  refine fun _ => ⟨place, ?_, fun _ _ _ => rfl⟩
  rw [run_emit, Watch.seen_cons, passed]
  rfl

/-- Work on a part leaves the events of that part. -/
theorem onPart {part : σ → ρ} {put : ρ → σ → σ} {op : Op ρ α} (passes : op.Passes watch place) :
    (Op.onPart part put op).Passes watch place := by
  intro state
  obtain ⟨left, passed, back⟩ := passes (part state)
  simp only [Op.run, Op.onPart] at passed back ⊢
  rcases ran : op (part state) with ⟨events, fault | ⟨value, changed⟩⟩
  · rw [ran] at passed
    exact ⟨left, passed, faulted⟩
  · rw [ran] at passed back
    exact ⟨left, passed, fun _ _ _ => back value changed rfl⟩

/-- What runs under a lock passes from where taking the lock leads to, and dropping it leads back. -/
theorem locked {lock : Lock} {op : Op σ α} (taken : watch place (.took lock) = some inner)
    (dropped : watch inner (.dropped lock) = some place) (passes : op.Passes watch inner) :
    (Op.locked lock op).Passes watch place := by
  intro state
  obtain ⟨left, passed, back⟩ := passes state
  rcases ran : op.run state with ⟨events, fault | ⟨value, after⟩⟩
  · have whole : (Op.locked lock op).run state = (.took lock :: events, .error fault) := by
      rw [Op.locked, run_bind_ok state (run_emit state _), run_bind_error state ran]
      rfl
    rw [whole, Watch.seen_cons, taken]
    rw [ran] at passed
    exact ⟨left, passed, faulted⟩
  · rw [run_locked state lock ran, Watch.seen_cons, taken]
    rw [ran] at passed back
    obtain rfl := back value after rfl
    refine ⟨place, ?_, fun _ _ _ => rfl⟩
    rw [Option.bind_some, Watch.seen_append_of_some passed, Watch.seen_cons, dropped]
    rfl

/-! ### Steps that may fail -/

theorem throw (error : ε) : (ExceptT.run (throwThe ε error : ExceptT ε (Op σ) α)).Passes watch place :=
  pure (Except.error error)

/-- After a failure nothing runs. -/
theorem throw_bind (error : ε) (next : α → ExceptT ε (Op σ) β) :
    (ExceptT.run (throwThe ε error >>= next)).Passes watch place :=
  pure (Except.error error)

theorem fallible_pure (value : α) : (ExceptT.run (Pure.pure value : ExceptT ε (Op σ) α)).Passes watch place :=
  pure (Except.ok value)

theorem fallible_get : (ExceptT.run (getThe σ : ExceptT ε (Op σ) σ)).Passes watch place := silent fun _ => rfl

theorem fallible_set (state : σ) :
    (ExceptT.run (MonadStateOf.set state : ExceptT ε (Op σ) PUnit)).Passes watch place :=
  silent fun _ => rfl

theorem fallible_modify (change : σ → σ) :
    (ExceptT.run (modify change : ExceptT ε (Op σ) PUnit)).Passes watch place :=
  silent fun _ => rfl

theorem fallible_bind {op : ExceptT ε (Op σ) α} {next : α → ExceptT ε (Op σ) β} (first : op.run.Passes watch place)
    (rest : ∀ value, (next value).run.Passes watch place) : (op >>= next).run.Passes watch place := by
  rw [ExceptT.run_bind]
  apply first.bind
  rintro (failed | value)
  · exact pure _
  · exact rest value

theorem tryCatch {op : ExceptT ε (Op σ) α} {handler : ε → ExceptT ε (Op σ) α} (first : op.run.Passes watch place)
    (rest : ∀ error, (handler error).run.Passes watch place) :
    (ExceptT.run (MonadExcept.tryCatch op handler)).Passes watch place := by
  change (ExceptT.run op >>= _).Passes watch place
  apply first.bind
  rintro (failed | value)
  · exact rest failed
  · exact pure _

theorem lift {op : Op σ α} (passes : op.Passes watch place) :
    (ExceptT.run (liftM op : ExceptT ε (Op σ) α)).Passes watch place :=
  passes.map Except.ok

theorem lift_check (computed : Except Fault α) :
    (ExceptT.run (liftM computed : ExceptT ε (Op σ) α)).Passes watch place :=
  lift (check computed)

end Passes

end Op

end Nucleus
