import Nucleus.Kernel.Boot
import Nucleus.Proofs.Kernel.Schedules

/-! A receive can outlive its process. A process that exits while its receive is parked takes its queue with it, but
the receive keeps the queue and knows its owner by pid only. When it looks again it cannot tell a process that has
the pid since from the one that it was for. -/
namespace Nucleus.Kernel
open Buddy Messages Processes Syscall

theorem lookOnce_run {kernel after : Kernel} {receive : Receive} {outcome : Look} {events : List Event}
    (ran : (look receive.number receive.sender receive.buffer).run kernel = (events, .ok (outcome, after))) :
    ∃ events next, (Task.lookOnce receive).run kernel = (events, .ok (next, after)) := by
  rw [Task.lookOnce, Op.run_bind_ok kernel ran]
  cases outcome <;> exact ⟨_, _, rfl⟩

def Task.parked? : Task → Option Receive
  | .parked receive => some receive
  | _ => none

theorem Task.eq_parked {task : Task} {receive : Receive} (shown : task.parked? = some receive) :
    task = .parked receive := by
  cases task <;> cases shown
  rfl

/-! ### Whatever calls are made -/

namespace World
variable {world after : World} {task : Task} {outcome : Outcome} {action : Action} {events : List Event}
variable {heap : Heap} {space : UserSpace} {hooked : Bool} {index : Nat} {receive : Receive}

/-- The worlds that actions lead to. A new process may begin a receive while that of an earlier one with its pid is
in progress. -/
abbrev Occurs (heap : Heap) (space : UserSpace) (hooked : Bool) (world : World) : Prop :=
  Led (fun _ _ => True) heap space hooked world

theorem mem_settle {next : Task} (member : next ∈ (world.settle index outcome).tasks) :
    outcome.task? = some next ∨ next ∈ world.tasks := by
  simp only [settle, List.mem_append, Option.mem_toList] at member
  rcases member with (front | made) | back
  · exact .inr (List.mem_of_mem_take front)
  · exact .inl made
  · exact .inr (List.mem_of_mem_drop back)

theorem Housed.act (housed : world.Housed) (ran : (perform action).run world = (events, .ok ((), after))) :
    after.Housed := by
  cases action with
  | call call =>
    cases ran
    exact (Alike.call world call).housed housed
  | write addr bytes =>
    cases ran
    exact (Alike.write world addr bytes).housed housed
  | advance index =>
    cases there : world.tasks[index]? with
    | none =>
      rw [perform, Op.run_bind_ok world (Op.run_get world), there] at ran
      cases ran
      exact housed
    | some task =>
      obtain ⟨_, outcome, changed, advanced, -, turn⟩ := housed.advances there
      cases ran.symm.trans (perform_advance there advanced)
      exact housed.run turn (List.mem_of_getElem? there) fun _ => mem_settle

theorem Occurs.housed (occurs : Occurs heap space hooked world) : world.Housed := by
  induction occurs with
  | start =>
    refine ⟨?_, nofun, nofun⟩
    intro owner number found
    cases found
  | act _ _ ran housed => exact housed.act ran

theorem Reached.occurs (reached : Reached heap space hooked world) : Occurs heap space hooked world :=
  reached.mono fun _ _ _ => trivial

/-- A receive whose owner has exited, or has at least lost the queue that the receive is at. -/
def Dead (world : World) (receive : Receive) : Prop :=
  world.kernel.registry.number? receive.owner ≠ some receive.number

/-- What becomes of a dead receive that looks again: it touches nobody's registered queue and no other process, and
it leaves its owner alone exactly if its bytes are there or the pid is not in use. -/
structure Outlives (world : World) (receive : Receive) (queue : Queue) (outcome : Look) (after : Kernel) : Prop where
  harmless : outcome ≠ .blocked ∧ after.table = world.kernel.table ↔
    receive.wait.required ≤ (stream receive.wait.sender queue.messages).length ∨
      ¬world.kernel.table.knows receive.owner = true
  gone : (stream receive.wait.sender queue.messages).length < receive.wait.required →
    ¬world.kernel.table.knows receive.owner = true → outcome = .ownerGone
  blocks : (stream receive.wait.sender queue.messages).length < receive.wait.required →
    world.kernel.table.knows receive.owner = true → outcome = .blocked ∧ after.table.Blocked receive.owner
  queues : ∀ pid, after.registry.queueOf? pid = world.kernel.registry.queueOf? pid
  others : ∀ pid, pid ≠ receive.owner → after.table.state? pid = world.kernel.table.state? pid

theorem Dead.outlives {queue : Queue} (dead : world.Dead receive) (leads : world.kernel.registry.Leads)
    (there : world.queue? receive.number = some queue) (owned : queue.owner = receive.owner) :
    ∃ outcome after, world.kernel.afterLook queue receive.number receive.sender receive.buffer = (outcome, after) ∧
      world.Outlives receive queue outcome after := by
  have untouched : ∀ {after : Kernel} {left : Queue}, after.registry = world.kernel.registry.put receive.number left →
      ∀ pid, after.registry.queueOf? pid = world.kernel.registry.queueOf? pid := by
    intro after left registry pid
    rw [registry]
    apply leads.queueOf?_put there
    rw [owned]
    exact dead
  rcases Nat.lt_or_ge (stream receive.wait.sender queue.messages).length receive.wait.required with missing | enough
  · by_cases known : world.kernel.table.knows receive.owner = true
    · obtain ⟨after, looked, table, registry⟩ :=
        afterLook_blocks receive.number missing (owned ▸ known)
      rw [owned] at table
      have blocked : after.table.Blocked receive.owner := by
        rw [table, Table.block, if_pos known]
        exact Table.state?_withState.trans (if_pos rfl)
      refine ⟨.blocked, after, looked, ?_, ?_, fun _ _ => ⟨rfl, blocked⟩, untouched registry, ?_⟩
      · exact ⟨fun fine => absurd rfl fine.1, fun fine => (fine.elim (Nat.not_le.mpr missing) (· known)).elim⟩
      · exact fun _ unknown => absurd known unknown
      · intro pid other
        rw [table, Table.block, if_pos known]
        exact Table.state?_withState.trans (if_neg (Ne.symm other))
    · obtain ⟨after, looked, table, registry⟩ :=
        afterLook_gone receive.number missing (owned ▸ known)
      refine ⟨.ownerGone, after, looked, ⟨fun _ => .inr known, fun _ => ⟨nofun, table⟩⟩, fun _ _ => rfl, ?_,
        untouched registry, ?_⟩
      · exact fun _ is => absurd is known
      · exact fun pid _ => by rw [table]
  · obtain ⟨after, looked, table, registry⟩ := afterLook_delivers receive.number enough
    refine ⟨.delivered, after, looked, ⟨fun _ => .inl enough, fun _ => ⟨nofun, table⟩⟩, ?_, ?_,
      untouched registry, ?_⟩
    · exact fun missing => absurd enough (Nat.not_le.mpr missing)
    · exact fun missing => absurd enough (Nat.not_le.mpr missing)
    · exact fun pid _ => by rw [table]

variable {pid : Nat}

/-- Unless a receive of an earlier process with its pid may have blocked it, a blocked process has its wait recorded
with its own queue, or is about to be woken. -/
theorem Awake.blocked_alive (awake : world.Awake) (blocked : world.kernel.table.Blocked pid)
    (alive : ∀ receive ∈ world.waiting, receive.owner = pid → ¬world.Dead receive) :
    (∃ queue wait, world.kernel.registry.queueOf? pid = some queue ∧ queue.waiting = some wait) ∨
      ∃ receive, receive.owner = pid ∧ world.Owes receive := by
  obtain ⟨receive, -, owner, waits | owed⟩ := awake.blocked pid blocked
  · obtain ⟨queue, there, -, recorded⟩ := waits.recorded
    have registered := Decidable.not_not.mp (alive receive waits.waiting owner)
    rw [owner] at registered
    exact .inl ⟨queue, receive.wait, by rw [Registry.queueOf?, registered]; exact there, recorded⟩
  · exact .inr ⟨receive, owner, owed⟩

theorem Dead.unrecorded {queue : Queue} (dead : world.Dead receive) (linked : world.Linked) (awake : world.Awake)
    (member : receive ∈ world.waiting) (registered : world.kernel.registry.queueOf? receive.owner = some queue) :
    queue.waiting = none := by
  obtain ⟨number, found, there⟩ := Option.bind_eq_some_iff.mp registered
  cases recorded : queue.waiting with
  | none => rfl
  | some wait =>
    -- The receive that waits there has the same owner, and no process has two.
    obtain ⟨other, waits, here, -⟩ := awake.recorded number queue wait there recorded
    obtain ⟨known, known_there, owned⟩ := linked.leads receive.owner number found
    cases there.symm.trans known_there
    subst here
    have same_owner : other.owner = receive.owner := (linked.owned waits there).symm.trans owned
    have last := (awake.waiting receive member).1
    rw [← same_owner, (awake.waiting other waits).1] at last
    cases last
    exact absurd found dead

/-- Whatever calls are made, a dead receive that runs again touches nobody's registered queue and no process but the
one that has its owner's pid. It leaves that one alone exactly if its bytes are there or the pid is not in use; with
its bytes missing it finds no such process if the pid is not in use, and blocks the process that has it otherwise.
While no process makes a second receive, nothing else leaves a process blocked with neither a wait recorded with its
queue nor a send about to wake it; and a process whose pid has a dead receive never has a wait recorded. -/
theorem dead_receive (occurs : Occurs heap space hooked world) :
    (∀ (index : Nat) (receive : Receive), world.tasks[index]? = some (.parked receive) → world.Dead receive →
      ∃ queue outcome after, world.queue? receive.number = some queue ∧ queue.owner = receive.owner ∧
        (∃ events, (look receive.number receive.sender receive.buffer).run world.kernel =
          (events, .ok (outcome, after))) ∧
        (∃ events next, (perform (.advance index)).run world = (events, .ok ((), next)) ∧ next.kernel = after) ∧
        world.Outlives receive queue outcome after) ∧
    (Reached heap space hooked world →
      (∀ pid, world.kernel.table.Blocked pid →
        (∀ receive ∈ world.waiting, receive.owner = pid → ¬world.Dead receive) →
        (∃ queue wait, world.kernel.registry.queueOf? pid = some queue ∧ queue.waiting = some wait) ∨
          ∃ receive, receive.owner = pid ∧ world.Owes receive) ∧
      ∀ receive ∈ world.waiting, world.Dead receive → ∀ queue,
        world.kernel.registry.queueOf? receive.owner = some queue → queue.waiting = none) := by
  refine ⟨?_, ?_⟩
  · intro index receive there dead
    have housed := occurs.housed
    obtain ⟨queue, found, owned⟩ := housed.receives _ (List.mem_of_getElem? there) receive rfl
    obtain ⟨outcome, after, ends, outlives⟩ := dead.outlives housed.leads found owned
    obtain ⟨events, looked⟩ := look_run receive.sender receive.buffer found
    rw [ends] at looked
    obtain ⟨more, next, advanced⟩ := lookOnce_run looked
    exact ⟨queue, outcome, after, found, owned, ⟨events, looked⟩,
      ⟨more, _, perform_advance there advanced, rfl⟩, outlives⟩
  · intro reached
    obtain ⟨linked, awake⟩ := reached.awake
    refine ⟨fun pid blocked alive => awake.blocked_alive blocked alive, ?_⟩
    intro receive member dead queue registered
    exact dead.unrecorded linked awake member registered

/-- Process 1 waits for a byte of process 7, and exits while its receive is parked. -/
def orphaned : List Action :=
  [.call (.spawn 1), .advance 0, .advance 0, .call .yield, .advance 0, .call (.receive 7 4096 1), .advance 0,
    .advance 0, .advance 0, .advance 0, .call (.exit 1), .advance 1, .advance 1]

theorem orphaned_finds_nobody : ∃ world, (start Boot.kernel.heap .flat false).follow orphaned = some world ∧
    ∃ events after, (look 0 7 ⟨4096, 1⟩).run world.kernel = (events, .ok (.ownerGone, after)) ∧
      after.table.knows 1 = false := by
  have ended : ((start Boot.kernel.heap .flat false).follow orphaned).map (fun world =>
      (world.tasks[0]?.bind Task.parked?, world.kernel.registry.number? 1, world.kernel.table.knows 1,
        (world.queue? 0).map fun queue => (stream 7 queue.messages).length)) =
      some (some ⟨1, 0, 7, ⟨4096, 1⟩⟩, none, false, some 0) := by
    decide +kernel
  obtain ⟨world, ran, same⟩ := Option.map_eq_some_iff.mp ended
  simp only [Prod.mk.injEq] at same
  obtain ⟨parked, dropped, unknown, queued⟩ := same
  obtain ⟨task, there, shown⟩ := Option.bind_eq_some_iff.mp parked
  cases Task.eq_parked shown
  have dead : world.Dead ⟨1, 0, 7, ⟨4096, 1⟩⟩ := by
    intro found
    cases dropped.symm.trans found
  obtain ⟨sections, -⟩ := dead_receive (Reached.occurs (Led.start.follow ran))
  obtain ⟨queue, outcome, after, found, -, ⟨events, looked⟩, -, outlives⟩ := sections 0 _ there dead
  have gone : ¬world.kernel.table.knows 1 = true := by simp [unknown]
  have missing : (stream 7 queue.messages).length < 1 := by
    rw [found, Option.map_some, Option.some.injEq] at queued
    omega
  cases outlives.gone missing gone
  obtain ⟨-, untouched⟩ := outlives.harmless.mpr (.inr gone)
  exact ⟨world, ran, events, after, looked, by rw [untouched, unknown]⟩

/-- Another process 1 begins, and makes no call. When the receive of the first one runs again, the second is blocked,
with no wait recorded with its queue and nobody about to wake it. -/
theorem orphaned_blocks_successor :
    ((start Boot.kernel.heap .flat false).follow (orphaned ++ [.call (.spawn 1), .advance 1, .advance 1])).map
        (fun world => (world.kernel.table.state? 1, world.kernel.registry.number? 1)) = some (some .ready, some 1) ∧
      ((start Boot.kernel.heap .flat false).follow
          (orphaned ++ [.call (.spawn 1), .advance 1, .advance 1, .advance 0])).map
        (fun world => (world.kernel.table.state? 1,
          (world.kernel.registry.queueOf? 1).map Queue.waiting, world.wakes)) =
        some (some .blocked, some none, []) := by
  decide +kernel

end World

end Nucleus.Kernel
