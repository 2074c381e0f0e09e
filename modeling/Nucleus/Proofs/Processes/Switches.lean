import Nucleus.Proofs.Processes.Line

/-! Passing the processor on through a switch hook. The hook is not the table's own: all that is asked of it is that
it returns to the process it was called for. With somebody in line the caller runs again when its call returns; with
nobody in line the hook is not called at all. -/
namespace Nucleus.Processes

/-- What a switch hook may return with: it is called to leave one process for another, and between the table it was
called with and the one it returns with others have run. -/
abbrev Switch := (previous next : Nat) → (before after : Table) → Prop

/-- The hook returns once the process it left is the current one again and runs. Meanwhile the table is worked as
anybody may work it. -/
structure Switch.Returns (switch : Switch) : Prop where
  caller : ∀ {previous next before after}, switch previous next before after →
    after.current = some previous ∧ after.state? previous = some .running
  changes : ∀ {previous next before after}, switch previous next before after →
    ∃ changes, after = before.changed changes

namespace Table
variable {switch : Switch} {table before after : Table} {pid : Nat}

/-- What a call that passes the processor on may return with, when the switch that it announces is a call of the
hook. -/
inductive Yields (switch : Switch) (before : Table) : Table → Prop
  | stays {events : List Event} {after : Table} :
      Scheduler.yield.run before = (events, .ok ((), after)) →
      (∀ previous next, .switched previous next ∉ events) → Yields switch before after
  | switches {events : List Event} {left after : Table} {previous next : Nat} :
      Scheduler.yield.run before = (events, .ok ((), left)) → .switched previous next ∈ events →
      switch previous next left after → Yields switch before after

theorem yield_run (table : Table) : Scheduler.yield.run table =
    ([.took .table, .dropped .table] ++ (table.yield.1.map fun pair => Event.switched pair.1 pair.2).toList,
      .ok ((), table.yield.2)) := by
  have passed : (Op.locked .table (modifyGet (·.yield)) : Op Table _).run table =
      ([.took .table, .dropped .table], .ok (table.yield.1, table.yield.2)) := rfl
  rw [Scheduler.yield, Op.run_bind_ok table passed]
  cases table.yield.1 <;> rfl

/-- The switch that the current process announces: to whoever is first in line, unless that is itself. -/
theorem yield_fst (hooked : table.hooked = true) (now : table.current = some pid) :
    table.yield.1 = table.retireCurrent.ready.head?.bind fun next =>
      if pid = next then none else some (pid, next) := by
  have taken : table.retireCurrent.takeNext.current = table.retireCurrent.ready.head? := current_takeNext
  simp only [yield, now, taken, hooked]
  cases table.retireCurrent.ready.head? with
  | none => rfl
  | some next => by_cases same : pid = next <;> simp [same]

theorem Yields.cases (yields : before.Yields switch after) :
    (before.yield.1 = none ∧ after = before.yield.2) ∨
      ∃ previous next, before.yield.1 = some (previous, next) ∧ switch previous next before.yield.2 after := by
  cases yields with
  | stays ran unannounced =>
    rw [yield_run] at ran
    cases ran
    left
    refine ⟨?_, rfl⟩
    cases announced : before.yield.1 with
    | none => rfl
    | some pair =>
      exfalso
      apply unannounced pair.1 pair.2
      simp [announced]
  | switches ran announced switched =>
    rw [yield_run] at ran
    cases ran
    right
    simp only [List.mem_append, List.mem_cons, Option.mem_toList, Option.map_eq_some_iff, reduceCtorEq,
      List.not_mem_nil, or_false, false_or] at announced
    obtain ⟨⟨previous, next⟩, found, same⟩ := announced
    cases same
    exact ⟨_, _, found, switched⟩

theorem current_block : (table.block pid).current = table.current := by
  unfold block
  split <;> rfl

/-! ### Waking -/

/-- The table once interrupts have made some processes ready. -/
def woken (table : Table) (pids : List Nat) : Table := table.changed (pids.map .unblock)

theorem current_woken (pids : List Nat) : (table.woken pids).current = table.current := by
  induction pids generalizing table with
  | nil => rfl
  | cons woken rest ih =>
    refine (@ih (table.unblock woken)).trans ?_
    unfold unblock
    split <;> rfl

theorem running_woken (pids : List Nat) :
    (table.woken pids).state? pid = some .running ↔ table.state? pid = some .running := by
  induction pids generalizing table with
  | nil => rfl
  | cons woken rest ih =>
    refine (@ih (table.unblock woken)).trans ?_
    unfold unblock
    split
    · rename_i blocked
      rw [state?_enqueue, state?_withState]
      split
      · rename_i same
        rw [← same, blocked]
        decide
      · rfl
    · rfl

/-! ### Somebody in line -/

theorem hooked_retire (hooked : table.hooked = true) : (table.retire pid).hooked = true := by
  unfold retire
  split <;> exact hooked

theorem hooked_yield (hooked : table.hooked = true) : table.yield.2.hooked = true := by
  have retired : table.retireCurrent.hooked = true := by
    unfold retireCurrent
    split
    · exact hooked_retire hooked
    · exact hooked
  rw [yield_snd, takeNext]
  split <;> exact retired

/-- A hook is there to stay. -/
theorem hooked_change (hooked : table.hooked = true) (step : Change) : (table.change step).hooked = true := by
  cases step with
  | spawn pid =>
    change (table.spawn pid).2.hooked = true
    unfold spawn
    split <;> exact hooked
  | exit pid =>
    change (table.exit pid).2.hooked = true
    unfold exit
    split <;> exact hooked
  | switchTo pid =>
    change (table.switchTo pid).2.hooked = true
    unfold switchTo
    split
    · cases table.current with
      | none => exact hooked
      | some previous =>
        by_cases same : previous = pid
        · simp only [same, if_true]
          exact hooked
        · simp only [same, if_false]
          exact hooked_retire hooked
    · exact hooked
  | block pid =>
    change (table.block pid).hooked = true
    unfold block
    split <;> exact hooked
  | unblock pid =>
    change (table.unblock pid).hooked = true
    unfold unblock
    split <;> exact hooked
  | yield => exact hooked_yield hooked
  | announceSwitches => rfl

theorem hooked_changed (hooked : table.hooked = true) (changes : List Change) :
    (table.changed changes).hooked = true := by
  induction changes generalizing table with
  | nil => exact hooked
  | cons step rest ih => exact ih (hooked_change hooked step)

namespace Yields

theorem hooked (yields : before.Yields switch after) (returns : switch.Returns) (hooked : before.hooked = true) :
    after.hooked = true := by
  rcases yields.cases with ⟨-, rfl⟩ | ⟨previous, next, -, switched⟩
  · exact hooked_yield hooked
  · obtain ⟨changes, rfl⟩ := returns.changes switched
    exact hooked_changed (hooked_yield hooked) changes

/-- With somebody in line the caller is taken again at once, or the hook is called and returns to it. -/
theorem caller (yields : before.Yields switch after) (returns : switch.Returns) (hooked : before.hooked = true)
    (now : before.current = some pid) (busy : before.retireCurrent.ready ≠ []) :
    after.current = some pid ∧ after.state? pid = some .running := by
  obtain ⟨next, rest, line⟩ := List.exists_cons_of_ne_nil busy
  have announced : before.yield.1 = if pid = next then none else some (pid, next) := by
    rw [yield_fst hooked now, line]
    rfl
  rcases yields.cases with ⟨unannounced, rfl⟩ | ⟨previous, other, switch, switched⟩
  · have same : pid = next := by
      rw [announced] at unannounced
      by_cases same : pid = next
      · exact same
      · rw [if_neg same] at unannounced
        cases unannounced
    have chosen : before.yield.2.current = some pid := by
      rw [current_yield, line, same]
      rfl
    exact ⟨chosen, running_yield chosen⟩
  · rw [announced] at switch
    split at switch
    · cases switch
    · cases switch
      exact returns.caller switched

end Yields

/-! ### Nobody in line -/

theorem retireCurrent_of_idle (idle : table.retireCurrent.ready = []) : table.retireCurrent = table := by
  rw [ready_retireCurrent, List.append_eq_nil_iff] at idle
  unfold retireCurrent
  cases now : table.current with
  | none => rfl
  | some pid =>
    have still : table.state? pid ≠ some .running := by
      intro runs
      have last := idle.2
      rw [now, Option.filter_some, if_pos (decide_eq_true runs)] at last
      cases last
    exact if_neg still

/-- The call returns to its caller all the same, and leaves the table with nobody current. -/
theorem Yields.idle (yields : before.Yields switch after) (idle : before.retireCurrent.ready = []) :
    after = { before with current := none } := by
  have nobody : before.retireCurrent.takeNext = { before with current := none } := by
    have same := retireCurrent_of_idle idle
    rw [same] at idle ⊢
    simp only [takeNext, idle]
  have silent : before.yield.1 = none := by
    simp only [yield, nobody]
    cases before.current <;> rfl
  rcases yields.cases with ⟨-, rfl⟩ | ⟨previous, next, announced, -⟩
  · rw [yield_snd, nobody]
  · cases silent.symm.trans announced

theorem InOrder.idle_iff (ordered : before.InOrder) (now : before.current = some pid) :
    before.retireCurrent.ready = [] ↔ before.Blocked pid ∧ before.ready = [] := by
  rw [ready_retireCurrent, now, List.append_eq_nil_iff, and_comm]
  apply and_congr_left
  intro empty
  have known := ordered.known pid now
  have unready : before.state? pid ≠ some .ready := by
    rw [ne_eq, ← ordered.mem, empty]
    exact List.not_mem_nil
  rw [knows_iff] at known
  rw [Option.filter_some, Blocked]
  cases found : before.state? pid with
  | none => exact absurd found known
  | some state =>
    cases state with
    | ready => exact absurd found unready
    | running => simp
    | blocked => simp

/-- The caller runs again exactly if it was not blocked with nobody in line. -/
theorem InOrder.caller_iff (ordered : before.InOrder) (yields : before.Yields switch after)
    (returns : switch.Returns) (hooked : before.hooked = true) (now : before.current = some pid) :
    (after.current = some pid ∧ after.state? pid = some .running) ↔
      ¬(before.Blocked pid ∧ before.ready = []) := by
  rw [← ordered.idle_iff now]
  constructor
  · rintro ⟨again, -⟩ idle
    rw [yields.idle idle] at again
    cases again
  · exact yields.caller returns hooked now

end Table
end Nucleus.Processes
