import Mathlib.Data.List.Chain
import Nucleus.Proofs.Processes.Switches

/-! Which switches are announced. A process that is blocked and gives up the processor with nobody in line was
current last, but the table forgets it. So a switch is announced exactly if no idle time lies between the two
processes, and the announced switches follow one another as long as the processor goes back, after idle time, to the
process that had it. -/
namespace Nucleus.Processes

namespace Scheduler

/-- Asks the locked table for a change. -/
def perform : Change → Op Table Unit
  | .spawn pid => do
    let _ ← spawn pid
  | .exit pid => do
    let _ ← exit pid
  | .switchTo pid => do
    let _ ← switchTo pid
  | .block pid => block pid
  | .unblock pid => unblock pid
  | .yield => yield
  | .announceSwitches => announceSwitches

def performAll : List Change → Op Table Unit
  | [] => pure ()
  | step :: rest => do
    perform step
    performAll rest

end Scheduler

namespace Table
variable {table : Table} {pid next : Nat} {step : Change}

/-- The switches that are announced while changes are made, one after the other. -/
def announced (table : Table) (changes : List Change) : List (Nat × Nat) :=
  ((Scheduler.performAll changes).run table).1.filterMap Event.switch?

theorem perform_run (table : Table) (step : Change) :
    ∃ events, (Scheduler.perform step).run table = (events, .ok ((), table.change step)) ∧
      (step ≠ .yield → events.filterMap Event.switch? = []) ∧
      (step = .yield → events.filterMap Event.switch? = table.yield.1.toList) := by
  cases step with
  | yield =>
    refine ⟨_, yield_run table, fun other => absurd rfl other, fun _ => ?_⟩
    cases table.yield.1 <;> rfl
  | _ => exact ⟨_, rfl, fun _ => rfl, nofun⟩

theorem announced_cons (table : Table) (step : Change) (rest : List Change) :
    table.announced (step :: rest) = table.announced [step] ++ (table.change step).announced rest := by
  obtain ⟨events, ran, -⟩ := perform_run table step
  simp only [announced, Scheduler.performAll, Op.run_bind_ok table ran, Op.run_pure, List.append_nil,
    List.filterMap_append]

theorem announced_other (other : step ≠ .yield) : table.announced [step] = [] := by
  obtain ⟨events, ran, silent, -⟩ := perform_run table step
  simp only [announced, Scheduler.performAll, Op.run_bind_ok table ran, Op.run_pure, List.append_nil, silent other]

theorem announced_yield (table : Table) : table.announced [.yield] = table.yield.1.toList := by
  obtain ⟨events, ran, -, announces⟩ := perform_run table .yield
  simp only [announced, Scheduler.performAll, Op.run_bind_ok table ran, Op.run_pure, List.append_nil,
    announces rfl]

/-- With nobody current there is no process to switch away from. -/
theorem announced_idle (idle : table.current = none) : table.announced [.yield] = [] := by
  rw [announced_yield, yield, idle]
  rfl

theorem announced_to_nobody (idle : table.yield.2.current = none) : table.announced [.yield] = [] := by
  rw [yield_snd] at idle
  rw [announced_yield, yield, idle]
  cases table.current <;> rfl

theorem announced_switch (hooked : table.hooked = true) (now : table.current = some pid)
    (taken : table.yield.2.current = some next) :
    table.announced [.yield] = if pid = next then [] else [(pid, next)] := by
  rw [current_yield] at taken
  rw [announced_yield, yield_fst hooked now, taken, Option.bind_some]
  split <;> rfl

/-- Who is current changes when the processor is passed on, given away or lost by an exit. -/
theorem current_change (passes : step ≠ .yield) (leaves : ∀ gone, step ≠ .exit gone)
    (places : ∀ chosen, step ≠ .switchTo chosen) : (table.change step).current = table.current := by
  cases step with
  | spawn pid =>
    change (table.spawn pid).2.current = table.current
    unfold spawn
    split <;> rfl
  | exit pid => exact absurd rfl (leaves pid)
  | switchTo pid => exact absurd rfl (places pid)
  | block pid => exact current_block
  | unblock pid => exact current_woken [pid]
  | yield => exact absurd rfl passes
  | announceSwitches => rfl

end Table

/-- A table and the process that had the processor last, if it has not exited since. -/
structure Watched where
  table : Table
  last : Option Nat

namespace Watched
variable {watched : Watched} {step : Change} {pid : Nat}

def start : Watched := ⟨Table.empty, none⟩

def change (watched : Watched) (step : Change) : Watched :=
  let after := watched.table.change step
  ⟨after, (after.current.or watched.last).filter after.knows⟩

def changed (watched : Watched) (changes : List Change) : Watched := changes.foldl change watched

/-- After idle time nobody takes the processor but the process that had it last. -/
def GoesBack (watched : Watched) : List Change → Prop
  | [] => True
  | step :: rest =>
    (step = .yield → watched.table.current = none →
      ∀ previous ∈ watched.last, ∀ next ∈ watched.table.yield.2.current, previous = next) ∧
    (watched.change step).GoesBack rest

instance decidableGoesBack : (steps : List Change) → (watched : Watched) → Decidable (watched.GoesBack steps)
  | [], _ => .isTrue trivial
  | step :: rest, watched =>
    haveI := decidableGoesBack rest (watched.change step)
    inferInstanceAs (Decidable (_ ∧ _))

/-- The current process is the last one, and the last one is known. -/
structure Remembers (watched : Watched) : Prop where
  ordered : watched.table.InOrder
  current : ∀ pid, watched.table.current = some pid → watched.last = some pid
  known : ∀ pid, watched.last = some pid → watched.table.knows pid = true

theorem last_of_current (ordered : watched.table.InOrder)
    (now : (watched.change step).table.current = some pid) : (watched.change step).last = some pid := by
  have known : (watched.table.change step).knows pid = true := (ordered.change step).known pid now
  change (watched.table.change step).current = some pid at now
  simp only [change, now, Option.some_or, Option.filter_some, known, if_true]

theorem last_of_idle (idle : (watched.change step).table.current = none) :
    (watched.change step).last = watched.last.filter (watched.table.change step).knows := by
  change (watched.table.change step).current = none at idle
  simp only [change, idle, Option.none_or]

theorem Remembers.start : start.Remembers where
  ordered := .empty
  current := nofun
  known := nofun

theorem Remembers.change (remembers : watched.Remembers) (step : Change) : (watched.change step).Remembers where
  ordered := remembers.ordered.change step
  current _ now := last_of_current remembers.ordered now
  known _ last := (Option.filter_eq_some_iff.mp last).2

theorem Remembers.changed (remembers : watched.Remembers) (changes : List Change) :
    (watched.changed changes).Remembers := by
  induction changes generalizing watched with
  | nil => exact remembers
  | cons step rest ih => exact ih (remembers.change step)

/-- While nobody exits, the last process stays the last one through idle time. -/
theorem Remembers.last_stays (remembers : watched.Remembers) (leaves : ∀ gone, step ≠ .exit gone)
    (idle : (watched.change step).table.current = none) : (watched.change step).last = watched.last := by
  rw [last_of_idle idle]
  cases last : watched.last with
  | none => rfl
  | some pid =>
    have known : (watched.table.change step).knows pid = true :=
      (remembers.ordered.knows_change step pid).mpr (.inr ⟨remembers.known pid last, leaves pid⟩)
    rw [Option.filter_some, if_pos known]

/-! ### Switches in a row -/

/-- Switches that follow one another, from the process that had the processor before them to the one that has it
after them. -/
structure Row (before : Option Nat) (switches : List (Nat × Nat)) (after : Option Nat) : Prop where
  chain : switches.IsChain fun first second => first.2 = second.1
  first : ∀ switch ∈ switches.head?, before = none ∨ before = some switch.1
  last : ∀ switch ∈ switches.getLast?, after = some switch.2
  silent : switches = [] → before = none ∨ after = before

namespace Row
variable {before middle after : Option Nat} {rest : List (Nat × Nat)} {previous : Nat} {next : Nat}

theorem nil (same : before = none ∨ after = before) : Row before [] after :=
  ⟨.nil, nofun, nofun, fun _ => same⟩

theorem skip (same : before = none ∨ middle = before) (row : Row middle rest after) : Row before rest after := by
  rcases same with rfl | rfl
  · exact ⟨row.chain, fun _ _ => .inl rfl, row.last, fun _ => .inl rfl⟩
  · exact row

theorem cons (row : Row (some next) rest after) : Row (some previous) ((previous, next) :: rest) after where
  chain := by
    rw [List.isChain_cons]
    constructor
    · intro second member
      rcases row.first second member with impossible | same
      · cases impossible
      · exact Option.some.inj same
    · exact row.chain
  first := by
    rintro switch ⟨⟩
    exact .inr rfl
  last := by
    cases rest with
    | nil =>
      rintro switch ⟨⟩
      rcases row.silent rfl with impossible | same
      · cases impossible
      · exact same
    | cons second later => exact row.last
  silent := nofun

end Row

/-- One step announces the switch away from the last process or none, and then the last process is still the last,
unless another takes the processor after idle time. -/
theorem Remembers.announced_cases (remembers : watched.Remembers) (hooked : watched.table.hooked = true)
    (leaves : ∀ gone, step ≠ .exit gone) (places : ∀ chosen, step ≠ .switchTo chosen)
    (back : step = .yield → watched.table.current = none →
      ∀ previous ∈ watched.last, ∀ next ∈ watched.table.yield.2.current, previous = next) :
    (watched.table.announced [step] = [] ∧
        (watched.last = none ∨ (watched.change step).last = watched.last)) ∨
      ∃ previous next, watched.table.announced [step] = [(previous, next)] ∧
        watched.last = some previous ∧ (watched.change step).last = some next := by
  cases now : (watched.change step).table.current with
  | none =>
    refine .inl ⟨?_, .inr (remembers.last_stays leaves now)⟩
    by_cases passes : step = .yield
    · subst passes
      exact Table.announced_to_nobody now
    · exact Table.announced_other passes
  | some next =>
    have last : (watched.change step).last = some next := last_of_current remembers.ordered now
    by_cases passes : step = .yield
    · subst passes
      cases current : watched.table.current with
      | none =>
        refine .inl ⟨Table.announced_idle current, ?_⟩
        cases previous : watched.last with
        | none => exact .inl rfl
        | some pid =>
          right
          rw [last, back rfl current pid previous next now]
      | some pid =>
        have before := remembers.current pid current
        rw [Table.announced_switch hooked current now]
        by_cases same : pid = next
        · rw [if_pos same]
          refine .inl ⟨rfl, .inr ?_⟩
          rw [last, before, same]
        · rw [if_neg same]
          exact .inr ⟨pid, next, rfl, before, last⟩
    · have same : (watched.table.change step).current = watched.table.current :=
        Table.current_change passes leaves places
      refine .inl ⟨Table.announced_other passes, .inr ?_⟩
      rw [last, remembers.current next (same.symm.trans now)]

theorem Remembers.row {steps : List Change} (remembers : watched.Remembers) (hooked : watched.table.hooked = true)
    (stay : ∀ pid, .exit pid ∉ steps ∧ .switchTo pid ∉ steps) (back : watched.GoesBack steps) :
    Row watched.last (watched.table.announced steps) (watched.changed steps).last := by
  induction steps generalizing watched with
  | nil => exact .nil (.inr rfl)
  | cons step rest ih =>
    obtain ⟨first, later⟩ := back
    have leaves : ∀ gone, step ≠ .exit gone := fun gone same => (stay gone).1 (same ▸ List.mem_cons_self)
    have places : ∀ chosen, step ≠ .switchTo chosen :=
      fun chosen same => (stay chosen).2 (same ▸ List.mem_cons_self)
    have row := ih (remembers.change step) (Table.hooked_change hooked step)
      (fun pid => ⟨fun member => (stay pid).1 (List.mem_cons_of_mem step member),
        fun member => (stay pid).2 (List.mem_cons_of_mem step member)⟩) later
    rw [Table.announced_cons]
    rcases remembers.announced_cases hooked leaves places first with
      ⟨silent, same⟩ | ⟨previous, next, announces, was, is⟩
    · rw [silent]
      exact row.skip same
    · rw [announces, was]
      rw [is] at row
      exact row.cons

/-- Whatever a table has been asked to do, once switches are announced: when the processor is passed on to another
process than the one that had it last, and that one has not exited, the switch between the two is announced once if
there was no idle time in between, and not at all if there was. Nothing else is announced: not a process that is
taken again, nor one that takes the processor from nobody. Idle time begins when a blocked process passes the
processor on with nobody in line. While nobody exits and no process is placed past the line, the announced switches
follow one another from the last process before them to the last process after them, if after idle time the processor
goes back to the process that had it. -/
theorem announced_switches (changes : List Change)
    (hooked : (start.changed changes).table.hooked = true) :
    (∀ previous next, (start.changed changes).last = some previous →
      (start.changed changes).table.yield.2.current = some next →
        (previous = next → (start.changed changes).table.announced [.yield] = []) ∧
        (previous ≠ next →
          ((start.changed changes).table.announced [.yield] = [(previous, next)] ↔
            (start.changed changes).table.current = some previous) ∧
          ((start.changed changes).table.announced [.yield] = [] ↔
            (start.changed changes).table.current = none))) ∧
    ((start.changed changes).last = none ∨ (start.changed changes).table.yield.2.current = none →
      (start.changed changes).table.announced [.yield] = []) ∧
    (∀ step, step ≠ .yield → (start.changed changes).table.announced [step] = []) ∧
    (∀ pid, (start.changed changes).table.current = some pid →
      ((start.changed changes).table.yield.2.current = none ↔
        (start.changed changes).table.Blocked pid ∧ (start.changed changes).table.ready = [])) ∧
    ∀ steps, (∀ pid, .exit pid ∉ steps ∧ .switchTo pid ∉ steps) → (start.changed changes).GoesBack steps →
      ((start.changed changes).table.announced steps).IsChain (fun first second => first.2 = second.1) ∧
      (∀ switch ∈ ((start.changed changes).table.announced steps).head?, ∀ previous,
        (start.changed changes).last = some previous → switch.1 = previous) ∧
      ∀ switch ∈ ((start.changed changes).table.announced steps).getLast?,
        ((start.changed changes).changed steps).last = some switch.2 ∧
        ∀ pid, ((start.changed changes).changed steps).table.current = some pid → pid = switch.2 := by
  have remembers : (start.changed changes).Remembers := Remembers.start.changed changes
  generalize start.changed changes = watched at hooked remembers ⊢
  refine ⟨?_, ?_, fun _ => Table.announced_other, ?_, ?_⟩
  · intro previous next last taken
    cases now : watched.table.current with
    | none => simp [Table.announced_idle now]
    | some pid =>
      cases last.symm.trans (remembers.current pid now)
      rw [Table.announced_switch hooked now taken]
      constructor
      · intro same
        rw [if_pos same]
      · intro different
        simp [different]
  · rintro (nobody | idle)
    · apply Table.announced_idle
      cases now : watched.table.current with
      | none => rfl
      | some pid => cases nobody.symm.trans (remembers.current pid now)
    · exact Table.announced_to_nobody idle
  · intro pid now
    rw [Table.current_yield, List.head?_eq_none_iff]
    exact remembers.ordered.idle_iff now
  · intro steps stay back
    have row := remembers.row hooked stay back
    refine ⟨row.chain, ?_, ?_⟩
    · intro switch member previous last
      rcases row.first switch member with nobody | same
      · cases nobody.symm.trans last
      · exact (Option.some.inj (last.symm.trans same)).symm
    · intro switch member
      have last := row.last switch member
      refine ⟨last, fun pid now => ?_⟩
      have after := (remembers.changed steps).current pid now
      exact Option.some.inj (after.symm.trans last)

/-- Process 1 is blocked with nobody in line, and takes the processor again once it is made ready. Then it shares the
processor with process 2. -/
def shared : List Change := [.block 1, .yield, .unblock 1, .yield, .spawn 2, .yield, .yield, .yield]

theorem shared_announced :
    (start.changed [.announceSwitches, .spawn 1, .switchTo 1]).table.announced shared = [(1, 2), (2, 1), (1, 2)] ∧
      ((start.changed [.announceSwitches, .spawn 1, .switchTo 1]).changed shared).last = some 2 := by
  have hooked : (start.changed [.announceSwitches, .spawn 1, .switchTo 1]).table.hooked = true := by
    decide +kernel
  have switches : (start.changed [.announceSwitches, .spawn 1, .switchTo 1]).table.announced shared =
      [(1, 2), (2, 1), (1, 2)] := by
    decide +kernel
  obtain ⟨-, -, -, -, row⟩ := announced_switches [.announceSwitches, .spawn 1, .switchTo 1] hooked
  obtain ⟨-, -, last⟩ := row shared (fun pid => by simp [shared]) (by decide +kernel)
  rw [switches] at last
  exact ⟨switches, (last (1, 2) rfl).1⟩

/-- Process 1 is blocked with nobody in line. Process 2 begins and takes the processor from it unannounced. -/
theorem unannounced_after_idle_time :
    let watched := start.changed [.announceSwitches, .spawn 1, .switchTo 1, .block 1, .yield, .spawn 2]
    watched.table.hooked = true ∧ watched.last = some 1 ∧ watched.table.knows 1 = true ∧
      watched.table.yield.2.current = some 2 ∧ watched.table.announced [.yield] ≠ [(1, 2)] := by
  decide +kernel

end Watched
end Nucleus.Processes
