import Nucleus.Proofs.Kernel.Linked

/-! No wake-up is lost: a blocked process has its wait recorded, or somebody is about to make it ready. -/
namespace Nucleus.Kernel.World
open Buddy Messages Processes Syscall

variable {before after world : World} {task : Task} {outcome : Outcome} {others : List Task}
variable {receive other : Receive} {number place : Nat} {queue old left : Queue}

structure Awake (world : World) : Prop where
  short : ∀ number queue, world.queue? number = some queue → queue.Short
  /-- Only receives in progress are waited for. -/
  recorded : ∀ number queue wait, world.queue? number = some queue → queue.waiting = some wait →
    ∃ receive ∈ world.waiting, receive.number = number ∧ receive.wait = wait
  /-- A wait is recorded until its bytes are there. -/
  waiting : ∀ receive ∈ world.waiting, world.blockedIn receive.owner = some receive ∧
    ∃ queue, world.queue? receive.number = some queue ∧
      (queue.waiting = some receive.wait ∨ queue.Completed receive.wait)
  blocked : ∀ pid, world.kernel.table.Blocked pid → ∃ receive, world.blockedIn pid = some receive ∧
    receive.owner = pid ∧ (world.Recorded receive ∨ world.Owes receive)

/-- One queue is another afterwards. -/
structure Replaced (before after : World) (number : Nat) (old left : Queue) : Prop where
  was : before.queue? number = some old
  now : after.queue? number = some left
  apart : ∀ {place : Nat}, place ≠ number → after.queue? place = before.queue? place

namespace Replaced

theorem of_put (was : before.queue? number = some old)
    (registry : after.kernel.registry = before.kernel.registry.put number left) :
    Replaced before after number old left where
  was := was
  now := by
    rw [queue?, registry]
    exact Registry.queue_put_self was
  apart different := by
    rw [queue?, registry]
    exact Registry.queue_put_other different

theorem found (replaced : Replaced before after number old left) (there : after.queue? place = some queue) :
    place = number ∧ queue = left ∨ place ≠ number ∧ before.queue? place = some queue := by
  by_cases same : place = number
  · subst same
    cases replaced.now.symm.trans there
    exact .inl ⟨rfl, rfl⟩
  · rw [replaced.apart same] at there
    exact .inr ⟨same, there⟩

theorem short (replaced : Replaced before after number old left) (awake : before.Awake) (short : left.Short) :
    ∀ place queue, after.queue? place = some queue → queue.Short := by
  intro place queue there
  rcases replaced.found there with ⟨-, rfl⟩ | ⟨-, there⟩
  · exact short
  · exact awake.short place queue there

end Replaced

/-- The queue of a receive in progress is its owner's. -/
theorem Linked.owned (linked : world.Linked) (member : receive ∈ world.waiting)
    (there : world.queue? receive.number = some queue) : queue.owner = receive.owner := by
  obtain ⟨task, running, shown⟩ := List.mem_filterMap.mp member
  obtain ⟨known, found, owned⟩ := linked.receives receive
    (List.mem_filterMap.mpr ⟨task, running, Task.receive?_of_waiting? shown⟩)
  cases there.symm.trans found
  exact owned

/-- A wait stays recorded while its queue is left alone. -/
theorem Recorded.carry (waits : before.Recorded receive) (member : receive ∈ after.waiting)
    (same : after.queue? receive.number = before.queue? receive.number) : after.Recorded receive := by
  obtain ⟨queue, there, kept⟩ := waits.recorded
  exact ⟨member, queue, same.trans there, kept⟩

namespace Ran

/-- Beside the receive that runs, nobody waits for its owner or at its queue. -/
theorem alone (ran : Ran before task outcome others after) (linked : before.Linked)
    (looking : task.receive? = some receive) (member : other ∈ others.filterMap Task.waiting?) :
    other.owner ≠ receive.owner ∧ other.number ≠ receive.number := by
  have different : other.owner ≠ receive.owner := by
    intro same
    obtain ⟨second, running, shown⟩ := List.mem_filterMap.mp member
    have single : (before.tasks.filterMap Task.receiver?).Nodup := linked.single
    rw [(ran.tasks_before.filterMap _).nodup_iff,
      List.filterMap_cons_some (Task.receiver?_of_receive? looking)] at single
    apply (List.nodup_cons.mp single).1
    apply List.mem_filterMap.mpr
    refine ⟨second, running, ?_⟩
    rw [← same]
    exact Task.receiver?_of_receive? (Task.receive?_of_waiting? shown)
  constructor
  · exact different
  · intro same
    obtain ⟨queue, there, owned⟩ := linked.receives receive (ran.shown_before.mpr (.inl looking))
    rw [← same] at there
    exact different ((linked.owned (ran.shown_before.mpr (.inr member)) there).symm.trans owned)

theorem waited (ran : Ran before task outcome others after) (looking : task.receive? = some receive)
    (member : other ∈ before.waiting) : other = receive ∨ other ∈ others.filterMap Task.waiting? := by
  rcases ran.shown_before.mp member with mine | rest
  · cases looking.symm.trans (Task.receive?_of_waiting? mine)
    exact .inl rfl
  · exact .inr rest

/-- What is owed stays owed by a call that owes nothing itself. -/
theorem owes (ran : Ran before task outcome others after) (unowed : task.wake? = none)
    (owed : before.Owes other) : after.Owes other := by
  apply ran.shown_after.mpr
  right
  rcases ran.shown_before.mp owed with mine | rest
  · rw [unowed] at mine
    cases mine
  · exact rest

theorem calm (ran : Ran before task outcome others after) (awake : before.Awake)
    (quiet : Quiet before.kernel after.kernel)
    (continues : Continues before.kernel task outcome after.kernel) : after.Awake := by
  have waiting : ∀ receive, receive ∈ after.waiting ↔ receive ∈ before.waiting := by
    intro receive
    rw [World.waiting, ran.shown_after, continues.waiting, World.waiting, ran.shown_before]
  have blockedIn : ∀ pid, after.blockedIn pid = before.blockedIn pid := by
    intro pid
    rw [ran.blockedIn, continues.blocked]
  constructor
  · intro number queue there
    rcases quiet.grows.fresh there with same | ⟨-, idle⟩
    · exact awake.short number queue same
    · exact Queue.Short.of_none idle
  · intro number queue wait there waits
    rcases quiet.grows.fresh there with same | ⟨-, idle⟩
    · obtain ⟨receive, member, here⟩ := awake.recorded number queue wait same waits
      exact ⟨receive, (waiting receive).mpr member, here⟩
    · rw [idle] at waits
      cases waits
  · intro receive member
    obtain ⟨last, queue, there, state⟩ := awake.waiting receive ((waiting receive).mp member)
    exact ⟨(blockedIn _).trans last, queue, quiet.grows.kept there, state⟩
  · intro pid blocked
    obtain ⟨receive, last, rfl, waits | owed⟩ := awake.blocked pid (quiet.blocksNone pid blocked)
    · obtain ⟨queue, there, recorded⟩ := waits.recorded
      refine ⟨receive, (blockedIn _).trans last, rfl, .inl ?_⟩
      exact ⟨(waiting receive).mpr waits.waiting, queue, quiet.grows.kept there, recorded⟩
    · refine ⟨receive, (blockedIn _).trans last, rfl, .inr ?_⟩
      apply ran.shown_after.mpr
      rcases ran.shown_before.mp owed with mine | rest
      · rcases continues.wake _ mine with next | ready
        · exact .inl next
        · exact absurd blocked ready
      · exact .inr rest

theorem ends {reply : Reply} (ran : Ran before task (.returned reply) others after) (linked : before.Linked)
    (awake : before.Awake) (looking : task.receive? = some receive)
    (there : before.queue? receive.number = some queue) (ended : left.waiting = none)
    (reason : receive.wait.required ≤ (stream receive.wait.sender queue.messages).length ∨
      ¬before.kernel.table.Blocked queue.owner)
    (registry : after.kernel.registry = before.kernel.registry.put receive.number left)
    (table : after.kernel.table = before.kernel.table) : after.Awake := by
  have replaced := Replaced.of_put there registry
  have waiting : ∀ other, other ∈ after.waiting ↔ other ∈ others.filterMap Task.waiting? := by
    intro other
    rw [World.waiting, ran.shown_after]
    simp [Outcome.task?]
  have blockedIn : ∀ pid, after.blockedIn pid = before.blockedIn pid := ran.blockedIn
  constructor
  · exact replaced.short awake (Queue.Short.of_none ended)
  · intro number queue wait found waits
    rcases replaced.found found with ⟨-, rfl⟩ | ⟨different, was⟩
    · rw [ended] at waits
      cases waits
    · obtain ⟨other, member, here⟩ := awake.recorded number queue wait was waits
      rcases ran.waited looking member with rfl | rest
      · exact absurd here.1.symm different
      · exact ⟨other, (waiting other).mpr rest, here⟩
  · intro other member
    have rest := (waiting other).mp member
    obtain ⟨last, queue, was, state⟩ := awake.waiting other (ran.shown_before.mpr (.inr rest))
    refine ⟨(blockedIn _).trans last, queue, ?_, state⟩
    rw [replaced.apart (ran.alone linked looking rest).2]
    exact was
  · intro pid blocked
    rw [table] at blocked
    obtain ⟨other, last, rfl, waits | owed⟩ := awake.blocked pid blocked
    · rcases ran.waited looking waits.waiting with rfl | rest
      · -- The receive that ends cannot be one whose owner is blocked with its wait recorded.
        obtain ⟨recorded, was, owned, wait⟩ := waits.recorded
        cases there.symm.trans was
        rcases reason with enough | ready
        · exact absurd enough (Nat.not_le.mpr (awake.short _ _ there _ wait))
        · rw [owned] at ready
          exact absurd blocked ready
      · have kept := waits.carry ((waiting other).mpr rest)
          (replaced.apart (ran.alone linked looking rest).2)
        exact ⟨other, (blockedIn _).trans last, rfl, .inl kept⟩
    · exact ⟨other, (blockedIn _).trans last, rfl,
        .inr (ran.owes (Task.unowed_of_receive? looking) owed)⟩

theorem blocks (ran : Ran before task (.next (.leave receive)) others after) (linked : before.Linked)
    (awake : before.Awake) (looking : task.receive? = some receive)
    (there : before.queue? receive.number = some queue)
    (missing : ¬queue.offers receive.sender receive.buffer.len = true)
    (registry : after.kernel.registry =
      before.kernel.registry.put receive.number (queue.await receive.sender receive.buffer.len))
    (table : after.kernel.table = before.kernel.table.block queue.owner) : after.Awake := by
  have replaced := Replaced.of_put there registry
  obtain ⟨known, found, owned⟩ := linked.receives receive (ran.shown_before.mpr (.inl looking))
  cases there.symm.trans found
  have waiting : ∀ other, other ∈ after.waiting ↔ receive = other ∨ other ∈ others.filterMap Task.waiting? := by
    intro other
    rw [World.waiting, ran.shown_after]
    simp [Outcome.task?, Task.waiting?]
  have here : after.blockedIn receive.owner = some receive := by
    rw [ran.blockedIn]
    exact if_pos rfl
  have elsewhere : ∀ {pid}, receive.owner ≠ pid → after.blockedIn pid = before.blockedIn pid := by
    intro pid different
    rw [ran.blockedIn]
    exact if_neg different
  have mine : after.Recorded receive :=
    ⟨(waiting receive).mpr (.inl rfl), _, replaced.now, owned, rfl⟩
  constructor
  · exact replaced.short awake (Queue.Short.await missing)
  · intro number queue wait found waits
    rcases replaced.found found with ⟨rfl, rfl⟩ | ⟨different, was⟩
    · cases waits
      exact ⟨receive, mine.waiting, rfl, rfl⟩
    · obtain ⟨other, member, same⟩ := awake.recorded number queue wait was waits
      rcases ran.waited looking member with rfl | rest
      · exact absurd same.1.symm different
      · exact ⟨other, (waiting other).mpr (.inr rest), same⟩
  · intro other member
    rcases (waiting other).mp member with rfl | rest
    · exact ⟨here, _, replaced.now, .inl rfl⟩
    · obtain ⟨different, apart⟩ := ran.alone linked looking rest
      obtain ⟨last, queue, was, state⟩ := awake.waiting other (ran.shown_before.mpr (.inr rest))
      exact ⟨(elsewhere different.symm).trans last, queue, (replaced.apart apart).trans was, state⟩
  · intro pid blocked
    by_cases same : receive.owner = pid
    · subst same
      exact ⟨receive, here, rfl, .inl mine⟩
    rw [table] at blocked
    rcases Table.blocked_of_block blocked with rfl | blocked
    · exact absurd owned.symm same
    obtain ⟨other, last, rfl, waits | owed⟩ := awake.blocked pid blocked
    · rcases ran.waited looking waits.waiting with rfl | rest
      · exact absurd rfl same
      · have kept := waits.carry ((waiting other).mpr (.inr rest))
          (replaced.apart (ran.alone linked looking rest).2)
        exact ⟨other, (elsewhere same).trans last, rfl, .inl kept⟩
    · exact ⟨other, (elsewhere same).trans last, rfl,
        .inr (ran.owes (Task.unowed_of_receive? looking) owed)⟩

/-- A section of a send leaves the receives that wait as they are. -/
theorem waiting_of_target (ran : Ran before task outcome others after) (posting : task.target? = some number)
    (unwaiting : outcome.task?.bind Task.waiting? = none) (receive : Receive) :
    receive ∈ after.waiting ↔ receive ∈ before.waiting := by
  rw [World.waiting, ran.shown_after, unwaiting, World.waiting, ran.shown_before,
    Task.unwaiting_of_target? posting]

theorem queues {longer : Queue} {message : Message} {reply : Reply}
    (ran : Ran before task (.returned reply) others after) (awake : before.Awake)
    (posting : task.target? = some number) (there : before.queue? number = some queue)
    (owned : longer.owner = queue.owner) (messages : longer.messages = queue.messages ++ [message])
    (same : longer.waiting = queue.waiting) (short : queue.Short → longer.Short)
    (registry : after.kernel.registry = before.kernel.registry.put number longer)
    (table : after.kernel.table = before.kernel.table) : after.Awake := by
  have replaced := Replaced.of_put there registry
  have waiting := ran.waiting_of_target posting rfl
  have blockedIn : ∀ pid, after.blockedIn pid = before.blockedIn pid := ran.blockedIn
  have kept : ∀ {place queue}, before.queue? place = some queue → ∃ left, after.queue? place = some left ∧
      left.owner = queue.owner ∧ left.waiting = queue.waiting ∧
      (∀ wait, queue.Completed wait → left.Completed wait) := by
    intro place queue was
    by_cases here : place = number
    · subst here
      cases there.symm.trans was
      exact ⟨longer, replaced.now, owned, same, fun wait => Queue.Completed.append same messages⟩
    · exact ⟨queue, (replaced.apart here).trans was, rfl, rfl, fun _ completed => completed⟩
  constructor
  · exact replaced.short awake (short (awake.short number _ there))
  · intro place queue wait found waits
    rcases replaced.found found with ⟨rfl, rfl⟩ | ⟨-, was⟩
    · rw [same] at waits
      obtain ⟨receive, member, here⟩ := awake.recorded place _ wait there waits
      exact ⟨receive, (waiting receive).mpr member, here⟩
    · obtain ⟨receive, member, here⟩ := awake.recorded place queue wait was waits
      exact ⟨receive, (waiting receive).mpr member, here⟩
  · intro receive member
    obtain ⟨last, queue, was, state⟩ := awake.waiting receive ((waiting receive).mp member)
    obtain ⟨left, found, -, waits, completes⟩ := kept was
    refine ⟨(blockedIn _).trans last, left, found, ?_⟩
    rcases state with recorded | completed
    · exact .inl (waits.trans recorded)
    · exact .inr (completes _ completed)
  · intro pid blocked
    rw [table] at blocked
    obtain ⟨receive, last, rfl, waits | owed⟩ := awake.blocked pid blocked
    · obtain ⟨queue, was, owner, recorded⟩ := waits.recorded
      obtain ⟨left, found, same_owner, same_wait, -⟩ := kept was
      exact ⟨receive, (blockedIn _).trans last, rfl, .inl ⟨(waiting receive).mpr waits.waiting, left, found,
        same_owner.trans owner, same_wait.trans recorded⟩⟩
    · exact ⟨receive, (blockedIn _).trans last, rfl,
        .inr (ran.owes (Task.unowed_of_target? posting) owed)⟩

theorem completes {longer : Queue} {wait : Wait}
    (ran : Ran before task (.next (.lookUp ⟨queue.owner, number, some wait⟩)) others after)
    (awake : before.Awake) (posting : task.target? = some number)
    (there : before.queue? number = some queue) (waits : queue.waiting = some wait)
    (completed : longer.Completed wait)
    (registry : after.kernel.registry = before.kernel.registry.put number longer)
    (table : after.kernel.table = before.kernel.table) : after.Awake := by
  have replaced := Replaced.of_put there registry
  have waiting := ran.waiting_of_target posting rfl
  have blockedIn : ∀ pid, after.blockedIn pid = before.blockedIn pid := ran.blockedIn
  constructor
  · exact replaced.short awake (Queue.Short.of_none completed.ended)
  · intro place queue other found waits
    rcases replaced.found found with ⟨-, rfl⟩ | ⟨-, was⟩
    · rw [completed.ended] at waits
      cases waits
    · obtain ⟨receive, member, here⟩ := awake.recorded place queue other was waits
      exact ⟨receive, (waiting receive).mpr member, here⟩
  · intro receive member
    obtain ⟨last, queue, was, state⟩ := awake.waiting receive ((waiting receive).mp member)
    refine ⟨(blockedIn _).trans last, ?_⟩
    by_cases here : receive.number = number
    · subst here
      cases there.symm.trans was
      rcases state with recorded | earlier
      · cases waits.symm.trans recorded
        exact ⟨longer, replaced.now, .inr completed⟩
      · cases waits.symm.trans earlier.ended
    · exact ⟨queue, (replaced.apart here).trans was, state⟩
  · intro pid blocked
    rw [table] at blocked
    obtain ⟨receive, last, rfl, recorded | owed⟩ := awake.blocked pid blocked
    · refine ⟨receive, (blockedIn _).trans last, rfl, ?_⟩
      by_cases here : receive.number = number
      · -- The wait that ends was this one, and the send that ended it owes the wake-up.
        obtain ⟨known, was, owner, same⟩ := recorded.recorded
        subst here
        cases there.symm.trans was
        cases waits.symm.trans same
        right
        apply ran.shown_after.mpr
        left
        rw [← owner]
        rfl
      · exact .inl (recorded.carry ((waiting receive).mpr recorded.waiting) (replaced.apart here))
    · exact ⟨receive, (blockedIn _).trans last, rfl,
        .inr (ran.owes (Task.unowed_of_target? posting) owed)⟩

theorem awake (ran : Ran before task outcome others after) (linked : before.Linked)
    (awake : before.Awake) : after.Awake := by
  cases ran.turn with
  | calm quiet continues => exact ran.calm awake quiet continues
  | ends looking there _ ended reason registry table =>
    exact ran.ends linked awake looking there ended reason registry table
  | blocks looking there missing registry table =>
    exact ran.blocks linked awake looking there missing registry table
  | queues posting there owned messages same short registry table =>
    exact ran.queues awake posting there owned messages same short registry table
  | completes posting there owned waits completed registry table =>
    exact ran.completes awake posting there waits completed registry table

end Ran

end Nucleus.Kernel.World
