import Mathlib.Data.List.Rotate
import Nucleus.Proofs.Processes.Line

/-! The line is fair. Nobody gets in ahead of a process in line, and each time the processor is passed on the line moves
by one place; so a process with some others ahead of it is current after as many turns and one more. If nothing else
happens meanwhile, the processor goes round once and finds the table as it was. -/
namespace Nucleus.Processes

/-- The change does not itself take a process out of the line. -/
def Change.Spares (step : Change) (pid : Nat) : Prop :=
  step ≠ .block pid ∧ step ≠ .exit pid ∧ step ≠ .switchTo pid

instance (step : Change) (pid : Nat) : Decidable (step.Spares pid) :=
  inferInstanceAs (Decidable (step ≠ .block pid ∧ step ≠ .exit pid ∧ step ≠ .switchTo pid))

namespace Table
variable {before middle after table : Table} {pid other : Nat} {step : Change} {later : List Change}

/-- How many processes are ahead of a process in line. -/
def ahead (table : Table) (pid : Nat) : Nat := table.ready.idxOf pid

theorem idxOf_without_le (apart : other ≠ pid) (line : List Nat) :
    (line.filter (· ≠ other)).idxOf pid ≤ line.idxOf pid := by
  induction line with
  | nil => exact Nat.le_refl _
  | cons first rest ih =>
    by_cases gone : first = other
    · rw [List.filter_cons_of_neg (by simpa using gone), List.idxOf_cons_ne rest (gone ▸ apart)]
      exact ih.trans (Nat.le_succ _)
    · rw [List.filter_cons_of_pos (by simpa using gone)]
      by_cases own : first = pid
      · rw [List.idxOf_cons_eq _ own, List.idxOf_cons_eq _ own]
      · rw [List.idxOf_cons_ne _ own, List.idxOf_cons_ne _ own]
        exact Nat.succ_le_succ ih

/-! ### One change -/

/-- A process in line stays in line, and nobody has got in ahead of it. -/
def KeepsPlace (pid : Nat) (before after : Table) : Prop :=
  pid ∈ before.ready → pid ∈ after.ready ∧ after.ahead pid ≤ before.ahead pid

namespace KeepsPlace

theorem of_ready (same : after.ready = before.ready) : KeepsPlace pid before after := by
  intro waits
  rw [ahead, same]
  exact ⟨waits, Nat.le_refl _⟩

theorem trans (first : KeepsPlace pid before middle) (second : KeepsPlace pid middle after) :
    KeepsPlace pid before after := by
  intro waits
  obtain ⟨still, closer⟩ := first waits
  obtain ⟨yet, closest⟩ := second still
  exact ⟨yet, closest.trans closer⟩

theorem enqueue : KeepsPlace pid table (table.enqueue other) := by
  intro waits
  constructor
  · exact List.mem_append_left _ waits
  · exact Nat.le_of_eq (List.idxOf_append_of_mem waits)

theorem dequeue (apart : other ≠ pid) : KeepsPlace pid table (table.dequeue other) := by
  intro waits
  constructor
  · exact mem_dequeue.mpr ⟨waits, apart.symm⟩
  · exact idxOf_without_le apart table.ready

theorem spawn : KeepsPlace pid table (table.spawn other).2 := by
  unfold Table.spawn
  split
  · exact of_ready rfl
  · exact (of_ready rfl : KeepsPlace pid table (table.withState other .ready)).trans enqueue

theorem exit (apart : other ≠ pid) : KeepsPlace pid table (table.exit other).2 := by
  unfold Table.exit
  split
  · exact (dequeue apart).trans (of_ready rfl)
  · exact of_ready rfl

theorem block (apart : other ≠ pid) : KeepsPlace pid table (table.block other) := by
  unfold Table.block
  split
  · exact (of_ready rfl : KeepsPlace pid table (table.withState other .blocked)).trans (dequeue apart)
  · exact of_ready rfl

theorem unblock : KeepsPlace pid table (table.unblock other) := by
  unfold Table.unblock
  split
  · exact (of_ready rfl : KeepsPlace pid table (table.withState other .ready)).trans enqueue
  · exact of_ready rfl

theorem retire : KeepsPlace pid table (table.retire other) := by
  unfold Table.retire
  split
  · exact (of_ready rfl : KeepsPlace pid table (table.withState other .ready)).trans enqueue
  · exact of_ready rfl

theorem switchTo (apart : other ≠ pid) : KeepsPlace pid table (table.switchTo other).2 := by
  have placed (retired : Table) : KeepsPlace pid retired
      { (retired.dequeue other).withState other .running with current := some other } :=
    (dequeue apart).trans (of_ready rfl)
  unfold Table.switchTo
  split
  · apply KeepsPlace.trans _ (placed _)
    cases table.current with
    | none => exact of_ready rfl
    | some previous =>
      by_cases same : previous = other
      · simp only [same, if_true]
        exact of_ready rfl
      · simp only [same, if_false]
        exact retire
  · exact of_ready rfl

/-- Whatever is done to others, and whatever else is done to the process itself. -/
theorem change (spares : step.Spares pid) (stays : step ≠ .yield) : KeepsPlace pid table (table.change step) := by
  obtain ⟨unblocked, alive, unplaced⟩ := spares
  cases step with
  | spawn other => exact spawn
  | exit other => exact exit fun same => alive (same ▸ rfl)
  | switchTo other => exact switchTo fun same => unplaced (same ▸ rfl)
  | block other => exact block fun same => unblocked (same ▸ rfl)
  | unblock other => exact unblock
  | yield => exact absurd rfl stays
  | announceSwitches => exact of_ready rfl

end KeepsPlace

/-! ### Passing the processor on -/

theorem ready_takeNext : table.takeNext.ready = table.ready.tail := by
  unfold takeNext
  split <;> simp [*]

/-- The process that gives the processor up goes behind everybody in line. -/
theorem ahead_retireCurrent (waits : pid ∈ table.ready) : table.retireCurrent.ahead pid = table.ahead pid := by
  rw [ahead, ready_retireCurrent]
  exact List.idxOf_append_of_mem waits

theorem mem_retireCurrent (waits : pid ∈ table.ready) : pid ∈ table.retireCurrent.ready := by
  rw [ready_retireCurrent]
  exact List.mem_append_left _ waits

theorem head_iff_first (waits : pid ∈ table.ready) : table.ready.head? = some pid ↔ table.ahead pid = 0 := by
  have line := List.ne_nil_of_mem waits
  rw [ahead, List.idxOf_eq_zero_iff_head_eq line, List.head?_eq_some_head line, Option.some.injEq]

theorem current_yield_iff_first (waits : pid ∈ table.ready) :
    table.yield.2.current = some pid ↔ table.ahead pid = 0 := by
  rw [current_yield, head_iff_first (mem_retireCurrent waits), ahead_retireCurrent waits]

/-- Everybody else in line moves up by one place. -/
theorem yield_moves_up (waits : pid ∈ table.ready) (behind : table.ahead pid ≠ 0) :
    pid ∈ table.yield.2.ready ∧ table.yield.2.ahead pid + 1 = table.ahead pid := by
  have still := mem_retireCurrent waits
  rw [← ahead_retireCurrent waits] at behind ⊢
  rw [yield_snd, ahead, ahead, ready_takeNext]
  rw [ahead] at behind
  cases line : table.retireCurrent.ready with
  | nil =>
    rw [line] at still
    cases still
  | cons first rest =>
    rw [line] at still behind
    have apart : first ≠ pid := fun same => behind (List.idxOf_cons_eq rest same)
    constructor
    · exact (List.mem_cons.mp still).resolve_left apart.symm
    · rw [List.idxOf_cons_ne rest apart, List.tail_cons]

/-! ### Many changes -/

/-- If the processor is passed on more often than there are processes ahead, the process becomes current by then. -/
theorem reaches_current (waits : pid ∈ table.ready) (spares : ∀ step ∈ later, step.Spares pid)
    (often : table.ahead pid < later.count .yield) : ∃ early late, later = early ++ .yield :: late ∧
      early.count .yield ≤ table.ahead pid ∧ (table.changed early).yield.2.current = some pid := by
  -- On the changes to come: a `yield` takes one off both sides of `often`, any other change raises neither.
  induction later generalizing table with
  | nil => cases often
  | cons step rest ih =>
    have spares_rest : ∀ step ∈ rest, step.Spares pid := by
      intro step member
      exact spares step (List.mem_cons_of_mem _ member)
    by_cases passes : step = .yield
    · subst passes
      by_cases first : table.ahead pid = 0
      · exact ⟨[], rest, rfl, Nat.zero_le _, (current_yield_iff_first waits).mpr first⟩
      · obtain ⟨still, closer⟩ := yield_moves_up waits first
        rw [List.count_cons_self] at often
        obtain ⟨early, late, rfl, few, now⟩ := ih still spares_rest (by omega)
        refine ⟨.yield :: early, late, rfl, ?_, now⟩
        rw [List.count_cons_self]
        omega
    · obtain ⟨still, closer⟩ := KeepsPlace.change (spares step List.mem_cons_self) passes waits
      rw [List.count_cons_of_ne passes] at often
      obtain ⟨early, late, rfl, few, now⟩ := ih still spares_rest (by omega)
      refine ⟨step :: early, late, rfl, ?_, now⟩
      rw [List.count_cons_of_ne passes]
      exact few.trans closer

/-! ### Once round -/

/-- The same table, however the map of its states is laid out. -/
structure Same (before after : Table) : Prop where
  states : before.states.Equiv after.states
  ready : before.ready = after.ready
  current : before.current = after.current
  hooked : before.hooked = after.hooked

/-- The first of `line` runs and the others wait in that order; of everybody else `base` tells. -/
structure Turning (base : Table) (line : List Nat) (table : Table) : Prop where
  current : table.current = line.head?
  ready : table.ready = line.tail
  hooked : table.hooked = base.hooked
  state : ∀ pid, table.state? pid =
    if line.head? = some pid then some .running else if pid ∈ line then some .ready else base.state? pid

namespace Turning
variable {base : Table} {line : List Nat} {first : Nat}

theorem of_running (ordered : table.InOrder) (runs : table.state? first = some .running) :
    table.Turning (first :: table.ready) table where
  current := ordered.running first runs
  ready := rfl
  hooked := rfl
  state pid := by
    simp only [List.head?_cons, Option.some.injEq]
    split
    · rename_i same
      rw [← same, runs]
    · split
      · rename_i apart member
        have waits := (List.mem_cons.mp member).resolve_left (Ne.symm apart)
        exact (ordered.mem pid).mp waits
      · rfl

theorem retired (turning : base.Turning (first :: line) table) :
    table.retireCurrent = (table.withState first .ready).enqueue first := by
  have runs : table.state? first = some .running := by
    rw [turning.state, if_pos List.head?_cons]
  rw [retireCurrent, turning.current, List.head?_cons]
  exact if_pos runs

/-- The first goes to the end, and whoever is then first runs. -/
theorem yield (turning : base.Turning (first :: line) table) :
    base.Turning (line ++ [first]) table.yield.2 := by
  have queue : ((table.withState first .ready).enqueue first).ready = line ++ [first] := by
    change table.ready ++ [first] = _
    rw [turning.ready, List.tail_cons]
  rw [yield_snd, turning.retired, takeNext]
  cases turned : line ++ [first] with
  | nil => exact absurd turned (List.append_ne_nil_of_right_ne_nil line (List.cons_ne_nil first []))
  | cons next rest =>
    rw [queue, turned]
    constructor
    case current => rfl
    case ready => rfl
    case hooked => exact turning.hooked
    case state =>
      intro pid
      have member : pid ∈ next :: rest ↔ pid ∈ line ∨ first = pid := by
        rw [← turned, List.mem_append, List.mem_singleton, eq_comm (a := pid)]
      -- If the line had nobody else, `next` is `first` again and runs on.
      change ((table.withState first .ready).withState next .running).state? pid = _
      rw [state?_withState, state?_withState, turning.state]
      simp only [List.head?_cons, Option.some.injEq, member]
      by_cases own : first = pid
      · simp only [own, or_true, if_true]
      · simp only [own, List.mem_cons, Ne.symm own, or_false, false_or, if_false]

theorem yields (turning : base.Turning line table) (somebody : line ≠ []) (turns : Nat) :
    base.Turning (line.rotate turns) (table.changed (List.replicate turns .yield)) := by
  induction turns generalizing line table with
  | zero =>
    rw [List.rotate_zero]
    exact turning
  | succ fewer ih =>
    cases line with
    | nil => exact absurd rfl somebody
    | cons first rest =>
      rw [List.rotate_cons_succ]
      exact ih turning.yield (List.append_ne_nil_of_right_ne_nil rest (List.cons_ne_nil first []))

/-- The line leaves nothing about a table open. -/
theorem same (one : base.Turning line before) (other : base.Turning line after) : before.Same after where
  states := Std.TreeMap.Equiv.of_forall_constGet?_eq fun pid => (one.state pid).trans (other.state pid).symm
  ready := one.ready.trans other.ready.symm
  current := one.current.trans other.current.symm
  hooked := one.hooked.trans other.hooked.symm

end Turning

/-- How many of the known processes are ready. -/
def readyCount (table : Table) : Nat := table.processes.countP (·.2 = .ready)

theorem Lined.readyCount_eq (lined : table.Lined) : table.readyCount = table.ready.length := by
  let names := (table.processes.filter (·.2 = .ready)).map Prod.fst
  have apart : names.Nodup := by
    apply List.pairwise_map.mpr
    apply List.Pairwise.filter
    apply List.Pairwise.imp _ (Std.TreeMap.distinct_keys_toList (t := table.states))
    intro one other differ same
    exact differ (Nat.compare_eq_eq.mpr same)
  have alike : ∀ pid, pid ∈ names ↔ pid ∈ table.ready := by
    intro pid
    rw [lined.mem, List.mem_map]
    constructor
    · rintro ⟨⟨name, state⟩, member, rfl⟩
      obtain ⟨listed, ready⟩ := List.mem_filter.mp member
      obtain rfl : state = .ready := of_decide_eq_true ready
      exact Std.TreeMap.mem_toList_iff_getElem?_eq_some.mp listed
    · intro ready
      have listed := Std.TreeMap.mem_toList_iff_getElem?_eq_some.mpr ready
      exact ⟨(pid, .ready), List.mem_filter.mpr ⟨listed, decide_eq_true rfl⟩, rfl⟩
  calc table.readyCount
    _ = names.length := by rw [List.length_map]; exact List.countP_eq_length_filter
    _ = table.ready.length := ((List.perm_ext_iff_of_nodup apart lined.nodup).mpr alike).length_eq

/-- Everybody who is ready has a turn, and then the processor is back. -/
theorem InOrder.once_round (ordered : table.InOrder) (runs : table.state? pid = some .running) :
    table.Same (table.changed (List.replicate (table.readyCount + 1) .yield)) := by
  have start := Turning.of_running ordered runs
  have round : table.Turning (pid :: table.ready)
      (table.changed (List.replicate (table.readyCount + 1) .yield)) := by
    have turned := start.yields (List.cons_ne_nil pid table.ready) (pid :: table.ready).length
    rw [List.rotate_length, List.length_cons, ← ordered.readyCount_eq] at turned
    exact turned
  exact start.same round

/-! ### Every table -/

/-- What a process in line can count on. -/
structure Fair (table : Table) (pid : Nat) : Prop where
  waits : pid ∈ table.ready
  /-- Whatever happens, unless it is done to the process itself or passes the processor on. -/
  undisturbed : ∀ step : Change, step.Spares pid → step ≠ .yield →
    (table.change step).state? pid = some .ready ∧ (table.change step).ahead pid ≤ table.ahead pid
  turn_iff : table.yield.2.current = some pid ↔ table.ahead pid = 0
  moves_up : table.ahead pid ≠ 0 →
    table.yield.2.state? pid = some .ready ∧ table.yield.2.ahead pid + 1 = table.ahead pid
  /-- As often as there are processes ahead the processor may go to others, and then the turn has come. -/
  served : ∀ later : List Change, (∀ step ∈ later, step.Spares pid) → table.ahead pid < later.count .yield →
    ∃ early late, later = early ++ .yield :: late ∧ early.count .yield ≤ table.ahead pid ∧
      (table.changed early).yield.2.current = some pid ∧
      (table.changed early).yield.2.state? pid = some .running

theorem InOrder.fair (ordered : table.InOrder) (ready : table.state? pid = some .ready) : table.Fair pid := by
  have waits := (ordered.mem pid).mpr ready
  constructor
  case waits => exact waits
  case undisturbed =>
    intro step spares stays
    obtain ⟨still, closer⟩ := KeepsPlace.change spares stays waits
    exact ⟨((ordered.change step).mem pid).mp still, closer⟩
  case turn_iff => exact current_yield_iff_first waits
  case moves_up =>
    intro behind
    obtain ⟨still, closer⟩ := yield_moves_up waits behind
    exact ⟨(ordered.yield.mem pid).mp still, closer⟩
  case served =>
    intro later spares often
    obtain ⟨early, late, split, few, now⟩ := reaches_current waits spares often
    exact ⟨early, late, split, few, now, running_yield now⟩

/-- Whatever a table has been asked to do: a ready process loses its place only by what is done to itself, moves up by
one each time the processor is passed on, and is current after as many turns as there are processes ahead, and one
more. From a process that runs, as many turns as there are ready processes and one more lead back to the same table. -/
theorem line_is_fair (changes : List Change) (pid : Nat) :
    ((empty.changed changes).state? pid = some .ready → (empty.changed changes).Fair pid) ∧
    ((empty.changed changes).state? pid = some .running → (empty.changed changes).Same
      ((empty.changed changes).changed
        (List.replicate ((empty.changed changes).readyCount + 1) .yield))) := by
  have ordered : (empty.changed changes).InOrder := InOrder.empty.changed changes
  exact ⟨ordered.fair, ordered.once_round⟩

/-- Process 1 runs, 2 and 3 wait in line, and 4 is blocked. -/
def fourArrive : List Change := [.spawn 1, .spawn 2, .spawn 3, .switchTo 1, .spawn 4, .block 4]

/-- Process 4 comes back and is even put before the line, but process 3 has its turn at the second `yield`. Had nothing
else happened, three turns would have led back to process 1. -/
theorem third_in_turn :
    (empty.changed fourArrive).ahead 3 = 1 ∧
    (∃ early late, [.unblock 4, .yield, .switchTo 4, .yield] = early ++ .yield :: late ∧
      early.count .yield ≤ (empty.changed fourArrive).ahead 3 ∧
      ((empty.changed fourArrive).changed early).yield.2.current = some 3 ∧
      ((empty.changed fourArrive).changed early).yield.2.state? 3 = some .running) ∧
    (empty.changed fourArrive).Same
      ((empty.changed fourArrive).changed
        (List.replicate ((empty.changed fourArrive).readyCount + 1) .yield)) := by
  have ready : (empty.changed fourArrive).state? 3 = some .ready := by decide +kernel
  have runs : (empty.changed fourArrive).state? 1 = some .running := by decide +kernel
  have place : (empty.changed fourArrive).ahead 3 = 1 := by decide +kernel
  have fair := (line_is_fair fourArrive 3).1 ready
  have often : (empty.changed fourArrive).ahead 3 < [.unblock 4, .yield, .switchTo 4, .yield].count Change.yield := by
    rw [place]
    decide
  exact ⟨place, fair.served _ (by decide) often, (line_is_fair fourArrive 1).2 runs⟩

end Table
end Nucleus.Processes
