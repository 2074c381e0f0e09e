import Nucleus.Processes.Scheduler

/-! Who is blocked. Only `block` adds to the blocked processes, and it adds the one it names. -/
namespace Nucleus.Processes.Table
variable {before middle after table : Table} {pid other : Nat} {state : RunState}

def Blocked (table : Table) (pid : Nat) : Prop := table.state? pid = some .blocked

/-- Whoever is blocked afterwards was blocked before. -/
def BlocksNone (before after : Table) : Prop := ∀ pid, after.Blocked pid → before.Blocked pid

theorem state?_withState :
    (table.withState pid state).state? other = if pid = other then some state else table.state? other := by
  simp only [withState, state?, Std.TreeMap.getElem?_insert, Nat.compare_eq_eq]

theorem Blocked.knows (blocked : table.Blocked pid) : table.knows pid = true := by
  rw [Table.knows, Std.TreeMap.contains_eq_isSome_getElem?]
  exact Option.isSome_of_eq_some blocked

namespace BlocksNone

theorem trans (first : BlocksNone before middle) (second : BlocksNone middle after) :
    BlocksNone before after := by
  intro pid blocked
  exact first pid (second pid blocked)

theorem of_states (same : after.states = before.states) : BlocksNone before after := by
  intro pid blocked
  rw [Blocked, state?, same] at blocked
  exact blocked

/-- Any other state takes a process out of the blocked ones, if it was there. -/
theorem withState (other : state ≠ .blocked) : BlocksNone table (table.withState pid state) := by
  intro waiting blocked
  rw [Blocked, state?_withState] at blocked
  split at blocked
  · cases blocked
    contradiction
  · exact blocked

/-- A process that is made ready and put in line. -/
theorem readied : BlocksNone table ((table.withState pid .ready).enqueue pid) :=
  (withState (by decide)).trans (of_states rfl)

theorem retire : BlocksNone table (table.retire pid) := by
  unfold Table.retire
  split
  · exact readied
  · exact of_states rfl

theorem spawn : BlocksNone table (table.spawn pid).2 := by
  unfold Table.spawn
  split
  · exact of_states rfl
  · exact readied

theorem exit : BlocksNone table (table.exit pid).2 := by
  unfold Table.exit
  split
  · intro waiting blocked
    change (table.states.erase pid)[waiting]? = some .blocked at blocked
    rw [Std.TreeMap.getElem?_erase] at blocked
    split at blocked
    · cases blocked
    · exact blocked
  · exact of_states rfl

/-- Neither who gives the processor up nor who gets it is blocked. -/
theorem switchTo : BlocksNone table (table.switchTo pid).2 := by
  have placed (retired : Table) : BlocksNone retired
      { (retired.dequeue pid).withState pid .running with current := some pid } := by
    have dequeued : BlocksNone retired (retired.dequeue pid) := of_states rfl
    have running : BlocksNone (retired.dequeue pid) ((retired.dequeue pid).withState pid .running) :=
      withState (by decide)
    exact (dequeued.trans running).trans (of_states rfl)
  unfold Table.switchTo
  split
  · apply BlocksNone.trans _ (placed _)
    cases table.current with
    | none => exact of_states rfl
    | some previous =>
      by_cases same : previous = pid
      · simp only [same, if_true]
        exact of_states rfl
      · simp only [same, if_false]
        exact retire
  · exact of_states rfl

theorem unblock : BlocksNone table (table.unblock pid) := by
  unfold Table.unblock
  split
  · exact readied
  · exact of_states rfl

theorem retireCurrent : BlocksNone table table.retireCurrent := by
  unfold Table.retireCurrent
  split
  · exact retire
  · exact of_states rfl

theorem takeNext : BlocksNone table table.takeNext := by
  unfold Table.takeNext
  split
  · exact of_states rfl
  · rename_i next rest line
    exact trans (withState (by decide) : BlocksNone table (table.withState next .running)) (of_states rfl)

end BlocksNone

theorem yield_snd : table.yield.2 = table.retireCurrent.takeNext := by
  simp only [yield]
  split <;> rfl

theorem BlocksNone.yield : BlocksNone table table.yield.2 := by
  rw [yield_snd]
  exact retireCurrent.trans takeNext

theorem not_blocked_unblock : ¬(table.unblock pid).Blocked pid := by
  intro blocked
  unfold unblock at blocked
  split at blocked
  · rw [Blocked, enqueue, state?] at blocked
    change ((table.withState pid .ready).state? pid) = some .blocked at blocked
    rw [state?_withState, if_pos rfl] at blocked
    cases blocked
  · contradiction

theorem blocked_of_block (blocked : (table.block pid).Blocked other) :
    other = pid ∨ table.Blocked other := by
  unfold block at blocked
  split at blocked
  · change (table.withState pid .blocked).state? other = some .blocked at blocked
    rw [state?_withState] at blocked
    split at blocked
    · left
      symm
      assumption
    · right
      exact blocked
  · right
    exact blocked

end Nucleus.Processes.Table
