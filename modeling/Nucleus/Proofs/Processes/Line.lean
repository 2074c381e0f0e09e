import Nucleus.Proofs.Processes.Blocked

/-! The line, the run states and who is current say the same of every process, whatever a table has been asked to
do and in whatever order. Only `spawn` makes a process known, and only `exit` of that process forgets it. -/
namespace Nucleus.Processes

/-- What a table can be asked to change. -/
inductive Change where
  | spawn (pid : Nat)
  | exit (pid : Nat)
  | switchTo (pid : Nat)
  | block (pid : Nat)
  | unblock (pid : Nat)
  | yield
  | announceSwitches
deriving DecidableEq, Repr

namespace Table
variable {table : Table} {pid other : Nat} {state : RunState} {step : Change}

def change (table : Table) : Change → Table
  | .spawn pid => (table.spawn pid).2
  | .exit pid => (table.exit pid).2
  | .switchTo pid => (table.switchTo pid).2
  | .block pid => table.block pid
  | .unblock pid => table.unblock pid
  | .yield => table.yield.2
  | .announceSwitches => { table with hooked := true }

/-- The table after some changes, one after the other. -/
def changed (table : Table) (changes : List Change) : Table := changes.foldl change table

/-! ### What the parts of a change do to each process -/

theorem knows_iff : table.knows pid = true ↔ table.state? pid ≠ none := by
  rw [knows, state?, Std.TreeMap.contains_eq_isSome_getElem?, Option.isSome_iff_ne_none]

theorem knows_of_state (found : table.state? pid = some state) : table.knows pid = true := by
  rw [knows_iff, found]
  exact Option.some_ne_none state

theorem state?_enqueue : (table.enqueue pid).state? other = table.state? other := rfl

theorem state?_dequeue : (table.dequeue pid).state? other = table.state? other := rfl

theorem mem_enqueue : other ∈ (table.enqueue pid).ready ↔ other ∈ table.ready ∨ other = pid := by
  simp only [enqueue, List.mem_append, List.mem_singleton]

theorem mem_dequeue : other ∈ (table.dequeue pid).ready ↔ other ∈ table.ready ∧ other ≠ pid := by
  simp only [dequeue, List.mem_filter, decide_eq_true_iff]

theorem knows_withState (known : table.knows pid = true) :
    (table.withState pid state).knows other = true ↔ table.knows other = true := by
  rw [knows_iff, knows_iff, state?_withState]
  split
  · rename_i same
    rw [knows_iff, same] at known
    simp [known]
  · rfl

theorem running_withState (still : state ≠ .running)
    (runs : (table.withState pid state).state? other = some .running) :
    table.state? other = some .running ∧ other ≠ pid := by
  rw [state?_withState] at runs
  split at runs
  · exact absurd (Option.some.inj runs) still
  · rename_i different
    exact ⟨runs, Ne.symm different⟩

theorem spawn_fst : (table.spawn pid).1 = !table.knows pid := by
  unfold spawn
  cases table.knows pid <;> rfl

theorem spawn_snd_of_knows (known : table.knows pid = true) : (table.spawn pid).2 = table := by
  rw [spawn, if_pos known]

theorem exit_fst : (table.exit pid).1 = table.knows pid := by
  unfold exit
  cases table.knows pid <;> rfl

theorem exit_snd_of_knows (known : table.knows pid = true) : (table.exit pid).2 =
    { ({ table with states := table.states.erase pid } : Table).dequeue pid with
      current := if table.current = some pid then none else table.current } := by
  simp only [exit, known, if_true]

theorem exit_snd_of_unknown (unknown : ¬table.knows pid = true) : (table.exit pid).2 = table := by
  rw [exit, if_neg unknown]

theorem state?_exit : (table.exit pid).2.state? other = if pid = other then none else table.state? other := by
  by_cases known : table.knows pid = true
  · rw [exit_snd_of_knows known]
    simp only [state?, dequeue, Std.TreeMap.getElem?_erase, Nat.compare_eq_eq]
  · rw [exit_snd_of_unknown known]
    split
    · rename_i same
      rw [knows_iff, Decidable.not_not] at known
      rw [← same, known]
    · rfl

theorem knows_retire : (table.retire pid).knows other = true ↔ table.knows other = true := by
  unfold retire
  split
  · rename_i runs
    exact knows_withState (knows_of_state runs)
  · rfl

theorem running_retire (runs : (table.retire pid).state? other = some .running) :
    table.state? other = some .running ∧ other ≠ pid := by
  unfold retire at runs
  split at runs
  · exact running_withState (by decide) runs
  · rename_i still
    refine ⟨runs, ?_⟩
    rintro rfl
    exact still runs

/-! ### The line -/

/-- The line holds every ready process once, and nobody else. -/
structure Lined (table : Table) : Prop where
  nodup : table.ready.Nodup
  mem : ∀ pid, pid ∈ table.ready ↔ table.state? pid = some .ready

namespace Lined

theorem enter (lined : table.Lined) (idle : table.state? pid ≠ some .ready) :
    ((table.withState pid .ready).enqueue pid).Lined where
  nodup := by
    have outside : pid ∉ table.ready := fun inside => idle ((lined.mem pid).mp inside)
    apply List.nodup_append.mpr
    refine ⟨lined.nodup, List.nodup_cons.mpr ⟨List.not_mem_nil, List.nodup_nil⟩, ?_⟩
    intro waiting inside last only
    rw [List.mem_singleton.mp only]
    rintro rfl
    exact outside inside
  mem other := by
    change other ∈ (table.enqueue pid).ready ↔ _
    rw [mem_enqueue, state?_enqueue, state?_withState, lined.mem]
    by_cases same : pid = other
    · simp [same]
    · simp [same, Ne.symm same]

theorem leave (lined : table.Lined) (unready : state ≠ .ready) :
    ((table.withState pid state).dequeue pid).Lined where
  nodup := lined.nodup.filter _
  mem other := by
    change other ∈ (table.dequeue pid).ready ↔ _
    rw [mem_dequeue, state?_dequeue, state?_withState, lined.mem]
    by_cases same : pid = other
    · simp [same, unready]
    · simp [same, Ne.symm same]

theorem exit (lined : table.Lined) : (table.exit pid).2.Lined := by
  by_cases known : table.knows pid = true
  · constructor
    · rw [exit_snd_of_knows known]
      exact lined.nodup.filter _
    · intro other
      rw [state?_exit, exit_snd_of_knows known]
      change other ∈ (table.dequeue pid).ready ↔ _
      rw [mem_dequeue, lined.mem]
      by_cases same : pid = other
      · simp [same]
      · simp [same, Ne.symm same]
  · rw [exit_snd_of_unknown known]
    exact lined

/-- The first in line runs, and is in line no more. -/
theorem takeNext (lined : table.Lined) : table.takeNext.Lined := by
  unfold Table.takeNext
  split
  · exact ⟨lined.nodup, lined.mem⟩
  · rename_i next rest line
    have nodup := lined.nodup
    rw [line, List.nodup_cons] at nodup
    refine ⟨nodup.2, fun other => ?_⟩
    change other ∈ rest ↔ (table.withState next .running).state? other = _
    rw [state?_withState]
    by_cases same : next = other
    · rw [← same]
      simp [nodup.1]
    · rw [if_neg same, ← lined.mem other, line, List.mem_cons]
      simp [Ne.symm same]

end Lined

/-! ### Who is current -/

/-- Beside the line, the current process is a known one, and nobody else runs. -/
structure InOrder (table : Table) : Prop extends table.Lined where
  known : ∀ pid, table.current = some pid → table.knows pid = true
  running : ∀ pid, table.state? pid = some .running → table.current = some pid

namespace InOrder

theorem empty : Table.empty.InOrder where
  nodup := List.nodup_nil
  mem pid := by simp [Table.empty, state?]
  known := nofun
  running := by simp [Table.empty, state?]

/-- Who is current stays so if nobody is forgotten and nobody else begins to run. -/
theorem of_lined {after : Table} (ordered : table.InOrder) (lined : after.Lined)
    (current : after.current = table.current)
    (kept : ∀ pid, table.knows pid = true → after.knows pid = true)
    (fewer : ∀ pid, after.state? pid = some .running → table.state? pid = some .running) : after.InOrder where
  toLined := lined
  known pid now := by
    rw [current] at now
    exact kept pid (ordered.known pid now)
  running pid runs := by
    rw [current]
    exact ordered.running pid (fewer pid runs)

theorem enter (ordered : table.InOrder) (idle : table.state? pid ≠ some .ready) :
    ((table.withState pid .ready).enqueue pid).InOrder := by
  refine ordered.of_lined (ordered.toLined.enter idle) rfl ?_ ?_
  · intro other known
    rw [knows_iff] at known ⊢
    rw [state?_enqueue, state?_withState]
    split
    · exact Option.some_ne_none _
    · exact known
  · exact fun other runs => (running_withState (by decide) runs).1

theorem spawn (ordered : table.InOrder) : (table.spawn pid).2.InOrder := by
  unfold Table.spawn
  cases known : table.knows pid with
  | true => exact ordered
  | false =>
    refine ordered.enter ?_
    intro ready
    rw [knows_of_state ready] at known
    cases known

theorem unblock (ordered : table.InOrder) : (table.unblock pid).InOrder := by
  unfold Table.unblock
  split
  · rename_i blocked
    apply ordered.enter
    rw [blocked]
    decide
  · exact ordered

theorem retire (ordered : table.InOrder) : (table.retire pid).InOrder := by
  unfold Table.retire
  split
  · rename_i runs
    apply ordered.enter
    rw [runs]
    decide
  · exact ordered

theorem block (ordered : table.InOrder) : (table.block pid).InOrder := by
  unfold Table.block
  split
  · rename_i known
    refine ordered.of_lined (ordered.toLined.leave (by decide)) rfl ?_ ?_
    · exact fun other => (knows_withState known).mpr
    · exact fun other runs => (running_withState (by decide) runs).1
  · exact ordered

theorem current_exit (ordered : table.InOrder) :
    (table.exit pid).2.current = if table.current = some pid then none else table.current := by
  by_cases known : table.knows pid = true
  · rw [exit_snd_of_knows known]
  · rw [exit_snd_of_unknown known, if_neg]
    exact fun now => known (ordered.known pid now)

theorem exit (ordered : table.InOrder) : (table.exit pid).2.InOrder where
  toLined := ordered.toLined.exit
  known other now := by
    rw [ordered.current_exit] at now
    split at now
    · cases now
    · rename_i stays
      have different : pid ≠ other := fun same => stays (same ▸ now)
      rw [knows_iff, state?_exit, if_neg different, ← knows_iff]
      exact ordered.known other now
  running other runs := by
    rw [state?_exit] at runs
    split at runs
    · cases runs
    · rename_i different
      have now := ordered.running other runs
      rw [ordered.current_exit, if_neg]
      · exact now
      · rw [now]
        exact fun same => different (Option.some.inj same).symm

theorem switchTo (ordered : table.InOrder) : (table.switchTo pid).2.InOrder := by
  -- Before the process runs, whoever else ran has gone to the end of the line.
  have placed : ∀ {retired : Table}, retired.InOrder →
      (∀ other, retired.state? other = some .running → other = pid) →
      ({ (retired.dequeue pid).withState pid .running with current := some pid } : Table).InOrder := by
    intro retired ordered only
    have lined : ((retired.withState pid .running).dequeue pid).Lined := ordered.toLined.leave (by decide)
    refine ⟨⟨lined.nodup, lined.mem⟩, ?_, ?_⟩
    · intro other now
      cases now
      exact knows_of_state (state?_withState.trans (if_pos rfl))
    · intro other runs
      change (retired.withState pid .running).state? other = _ at runs
      rw [state?_withState] at runs
      split at runs
      · rename_i same
        rw [← same]
      · rw [only other runs]
  unfold Table.switchTo
  split
  · cases now : table.current with
    | none =>
      apply placed ordered
      intro other runs
      cases now.symm.trans (ordered.running other runs)
    | some previous =>
      by_cases same : previous = pid
      · simp only [same, if_true]
        apply placed ordered
        intro other runs
        have runner := now.symm.trans (ordered.running other runs)
        rw [same] at runner
        exact (Option.some.inj runner).symm
      · simp only [same, if_false]
        apply placed ordered.retire
        intro other runs
        obtain ⟨ran, different⟩ := running_retire runs
        exact absurd (Option.some.inj (now.symm.trans (ordered.running other ran))).symm different
  · exact ordered

end InOrder

/-! ### Passing the processor on -/

theorem knows_retireCurrent : table.retireCurrent.knows pid = true ↔ table.knows pid = true := by
  unfold retireCurrent
  split
  · exact knows_retire
  · rfl

/-- The line that the next process is taken from: the current process is last in it if it still runs. -/
theorem ready_retireCurrent : table.retireCurrent.ready =
    table.ready ++ (table.current.filter fun pid => table.state? pid = some .running).toList := by
  unfold retireCurrent
  cases table.current with
  | none => simp
  | some pid =>
    by_cases runs : table.state? pid = some .running
    · simp [retire, runs, enqueue, withState, Option.filter]
    · simp [retire, runs]

theorem current_takeNext : table.takeNext.current = table.ready.head? := by
  unfold takeNext
  split <;> simp [*]

theorem current_yield : table.yield.2.current = table.retireCurrent.ready.head? := by
  rw [yield_snd, current_takeNext]

theorem running_yield (now : table.yield.2.current = some pid) : table.yield.2.state? pid = some .running := by
  rw [current_yield] at now
  rw [yield_snd, takeNext]
  split
  · rename_i line
    rw [line] at now
    cases now
  · rename_i next rest line
    rw [line] at now
    cases now
    exact state?_withState.trans (if_pos rfl)

namespace InOrder

theorem retireCurrent (ordered : table.InOrder) : table.retireCurrent.InOrder := by
  unfold Table.retireCurrent
  split
  · exact ordered.retire
  · exact ordered

theorem not_running_retireCurrent (ordered : table.InOrder) :
    table.retireCurrent.state? pid ≠ some .running := by
  intro runs
  unfold Table.retireCurrent at runs
  split at runs
  · rename_i current now
    obtain ⟨ran, different⟩ := running_retire runs
    exact different (Option.some.inj (now.symm.trans (ordered.running pid ran))).symm
  · rename_i now
    cases now.symm.trans (ordered.running pid runs)

/-- Whoever becomes current runs, and is in line no more. -/
theorem current_runs (ordered : table.InOrder) (now : table.yield.2.current = some pid) :
    table.yield.2.state? pid = some .running ∧ pid ∉ table.yield.2.ready := by
  have lined : table.yield.2.Lined := by
    rw [yield_snd]
    exact ordered.retireCurrent.toLined.takeNext
  refine ⟨running_yield now, ?_⟩
  rw [lined.mem, running_yield now]
  decide

theorem knows_yield (ordered : table.InOrder) : table.yield.2.knows pid = true ↔ table.knows pid = true := by
  rw [yield_snd, ← @knows_retireCurrent table, takeNext]
  split
  · rfl
  · rename_i next rest line
    have ready : table.retireCurrent.state? next = some .ready := by
      rw [← ordered.retireCurrent.mem, line]
      exact List.mem_cons_self
    exact knows_withState (knows_of_state ready)

theorem yield (ordered : table.InOrder) : table.yield.2.InOrder where
  toLined := by
    rw [yield_snd]
    exact ordered.retireCurrent.toLined.takeNext
  known pid now := knows_of_state (running_yield now)
  running pid runs := by
    -- Nobody ran when the next was taken, so whoever runs is the one taken.
    rw [yield_snd, takeNext] at runs ⊢
    split at runs
    · exact absurd runs ordered.not_running_retireCurrent
    · rename_i next rest line
      change (table.retireCurrent.withState next .running).state? pid = _ at runs
      rw [state?_withState] at runs
      split at runs
      · rename_i same
        rw [same]
      · exact absurd runs ordered.not_running_retireCurrent

theorem change (ordered : table.InOrder) (step : Change) : (table.change step).InOrder := by
  cases step with
  | spawn pid => exact ordered.spawn
  | exit pid => exact ordered.exit
  | switchTo pid => exact ordered.switchTo
  | block pid => exact ordered.block
  | unblock pid => exact ordered.unblock
  | yield => exact ordered.yield
  | announceSwitches => exact ⟨⟨ordered.nodup, ordered.mem⟩, ordered.known, ordered.running⟩

theorem changed (ordered : table.InOrder) (changes : List Change) : (table.changed changes).InOrder := by
  induction changes generalizing table with
  | nil => exact ordered
  | cons step rest ih => exact ih (ordered.change step)

end InOrder

/-! ### Who is known -/

theorem knows_spawn : (table.spawn pid).2.knows other = true ↔ pid = other ∨ table.knows other = true := by
  unfold spawn
  split
  · rename_i known
    refine ⟨.inr, ?_⟩
    rintro (rfl | already)
    · exact known
    · exact already
  · rw [knows_iff, knows_iff, state?_enqueue, state?_withState]
    by_cases same : pid = other <;> simp [same]

theorem knows_exit : (table.exit pid).2.knows other = true ↔ pid ≠ other ∧ table.knows other = true := by
  rw [knows_iff, knows_iff, state?_exit]
  by_cases same : pid = other <;> simp [same]

theorem knows_switchTo : (table.switchTo pid).2.knows other = true ↔ table.knows other = true := by
  have placed : ∀ {retired : Table}, (∀ {one}, retired.knows one = true ↔ table.knows one = true) →
      table.knows pid = true →
      (((retired.dequeue pid).withState pid .running).knows other = true ↔ table.knows other = true) := by
    intro retired same known
    exact (@knows_withState (retired.dequeue pid) _ _ _ (same.mpr known)).trans same
  unfold switchTo
  split
  · rename_i known
    cases table.current with
    | none => exact placed Iff.rfl known
    | some previous =>
      by_cases same : previous = pid
      · simp only [same, if_true]
        exact placed Iff.rfl known
      · simp only [same, if_false]
        exact placed knows_retire known
  · rfl

theorem knows_block : (table.block pid).knows other = true ↔ table.knows other = true := by
  unfold block
  split
  · rename_i known
    exact knows_withState known
  · rfl

theorem knows_unblock : (table.unblock pid).knows other = true ↔ table.knows other = true := by
  unfold unblock
  split
  · rename_i blocked
    exact knows_withState (knows_of_state blocked)
  · rfl

theorem InOrder.knows_change (ordered : table.InOrder) (step : Change) (pid : Nat) :
    (table.change step).knows pid = true ↔
      step = .spawn pid ∨ table.knows pid = true ∧ step ≠ .exit pid := by
  cases step with
  | spawn spawned => simp [Table.change, knows_spawn]
  | exit gone => simp [Table.change, knows_exit, and_comm]
  | switchTo next => simp [Table.change, knows_switchTo]
  | block waiting => simp [Table.change, knows_block]
  | unblock woken => simp [Table.change, knows_unblock]
  | yield => simp [Table.change, ordered.knows_yield]
  | announceSwitches => simp [Table.change, knows]

/-- Afterwards the same processes are known, in order if they were. -/
def Rearranges (before after : Table) : Prop :=
  before.InOrder → after.InOrder ∧ ∀ pid, after.knows pid = true ↔ before.knows pid = true

namespace Rearranges

theorem refl : table.Rearranges table := fun ordered => ⟨ordered, fun _ => Iff.rfl⟩

theorem trans {middle after : Table} (first : table.Rearranges middle) (second : middle.Rearranges after) :
    table.Rearranges after := by
  intro ordered
  obtain ⟨ordered, known⟩ := first ordered
  obtain ⟨ordered, still⟩ := second ordered
  exact ⟨ordered, fun pid => (still pid).trans (known pid)⟩

theorem change (stays : ∀ pid, step ≠ .spawn pid ∧ step ≠ .exit pid) : table.Rearranges (table.change step) := by
  intro ordered
  refine ⟨ordered.change step, fun pid => ?_⟩
  rw [ordered.knows_change]
  simp [(stays pid).1, (stays pid).2]

theorem switchTo : table.Rearranges (table.switchTo pid).2 :=
  (change fun _ => ⟨nofun, nofun⟩ : table.Rearranges (table.change (.switchTo pid)))

theorem block : table.Rearranges (table.block pid) :=
  (change fun _ => ⟨nofun, nofun⟩ : table.Rearranges (table.change (.block pid)))

theorem unblock : table.Rearranges (table.unblock pid) :=
  (change fun _ => ⟨nofun, nofun⟩ : table.Rearranges (table.change (.unblock pid)))

theorem yield : table.Rearranges table.yield.2 :=
  (change fun _ => ⟨nofun, nofun⟩ : table.Rearranges (table.change .yield))

end Rearranges

/-- Somebody becomes current exactly if somebody is ready or the current process still runs. -/
theorem InOrder.current_yield_iff (ordered : table.InOrder) : table.yield.2.current ≠ none ↔
    (∃ pid, table.state? pid = some .ready) ∨
      ∃ pid, table.current = some pid ∧ table.state? pid = some .running := by
  have line : table.yield.2.current ≠ none ↔ ∃ pid, pid ∈ table.retireCurrent.ready := by
    rw [current_yield, ne_eq, List.head?_eq_none_iff, List.eq_nil_iff_forall_not_mem, Classical.not_forall]
    simp only [Decidable.not_not]
  rw [line, ready_retireCurrent]
  simp only [List.mem_append, Option.mem_toList, Option.filter_eq_some_iff, decide_eq_true_iff, exists_or,
    ordered.mem]

/-- Whatever a table is asked to do: the line holds exactly the ready processes, each once; the current process is
known; nobody but the current process runs. When the processor is passed on, somebody becomes current exactly if
somebody was ready or the current process still ran; it then runs and is in line no more. No process comes or goes
but by a change that names it. -/
theorem line_of_changes (changes : List Change) :
    (empty.changed changes).InOrder ∧
    ((empty.changed changes).yield.2.current ≠ none ↔
      (∃ pid, (empty.changed changes).state? pid = some .ready) ∨
        ∃ pid, (empty.changed changes).current = some pid ∧
          (empty.changed changes).state? pid = some .running) ∧
    (∀ pid, (empty.changed changes).yield.2.current = some pid →
      (empty.changed changes).yield.2.state? pid = some .running ∧
        pid ∉ (empty.changed changes).yield.2.ready) ∧
    ∀ step pid, ((empty.changed changes).change step).knows pid = true ↔
      step = .spawn pid ∨ (empty.changed changes).knows pid = true ∧ step ≠ .exit pid := by
  have ordered : (empty.changed changes).InOrder := InOrder.empty.changed changes
  refine ⟨ordered, ordered.current_yield_iff, ?_, ordered.knows_change⟩
  exact fun pid now => ordered.current_runs now

/-- Process 1 is blocked and made ready again before it passes the processor on, so it is current and waits in line
behind process 2. -/
theorem line_of_early_wake :
    (empty.changed [.spawn 1, .spawn 2, .switchTo 1, .block 1, .unblock 1]).yield.2.current = some 2 ∧
      (empty.changed [.spawn 1, .spawn 2, .switchTo 1, .block 1, .unblock 1]).yield.2.state? 2 =
        some .running := by
  have now : (empty.changed [.spawn 1, .spawn 2, .switchTo 1, .block 1, .unblock 1]).yield.2.current = some 2 := by
    decide +kernel
  obtain ⟨-, -, runs, -⟩ := line_of_changes [.spawn 1, .spawn 2, .switchTo 1, .block 1, .unblock 1]
  exact ⟨now, (runs 2 now).1⟩

end Table
end Nucleus.Processes
