import Nucleus.Proofs.Kernel.Turns

/-! A section inside a world: which calls it leaves in progress, and that each of them still finds its
queue. -/
namespace Nucleus.Kernel
open Messages Processes Syscall

namespace Turn
variable {before after : Kernel} {task : Task} {outcome : Outcome} {number : Nat} {queue : Queue}

/-- A section leaves the registry alone, grows it, or changes one queue. -/
theorem registry (turn : Turn before task outcome after) :
    Quiet before after ∨ ∃ place old left, before.registry.queues[place]? = some old ∧
      after.registry = before.registry.put place left ∧ left.owner = old.owner := by
  cases turn with
  | calm quiet _ => exact .inl quiet
  | ends _ found owned _ _ registry _ => exact .inr ⟨_, _, _, found, registry, owned⟩
  | blocks _ found _ registry _ => exact .inr ⟨_, _, _, found, registry, rfl⟩
  | queues _ found owned _ _ _ registry _ => exact .inr ⟨_, _, _, found, registry, owned⟩
  | completes _ found owned _ _ registry _ => exact .inr ⟨_, _, _, found, registry, owned⟩

theorem keeps (turn : Turn before task outcome after)
    (there : before.registry.queues[number]? = some queue) :
    ∃ left, after.registry.queues[number]? = some left ∧ left.owner = queue.owner := by
  rcases turn.registry with quiet | ⟨place, old, left, found, registry, owned⟩
  · exact ⟨queue, quiet.grows.kept there, rfl⟩
  · rw [registry]
    by_cases same : number = place
    · subst same
      cases there.symm.trans found
      exact ⟨left, Registry.queue_put_self there, owned⟩
    · exact ⟨queue, by rw [Registry.queue_put_other same, there], rfl⟩

theorem leads (turn : Turn before task outcome after) (leads : before.registry.Leads) :
    after.registry.Leads := by
  rcases turn.registry with quiet | ⟨place, old, left, found, registry, owned⟩
  · exact quiet.leads leads
  · rw [registry]
    exact leads.put found owned

theorem receive {receive : Receive} (turn : Turn before task outcome after)
    (next : outcome.task?.bind Task.receive? = some receive) :
    task.receive? = some receive ∨ before.registry.number? receive.owner = some receive.number := by
  cases turn with
  | calm _ continues => exact continues.receive receive next
  | ends => cases next
  | blocks looking =>
    cases next
    exact .inl looking
  | queues => cases next
  | completes => cases next

theorem receiver {pid : Nat} (turn : Turn before task outcome after)
    (next : outcome.task?.bind Task.receiver? = some pid) :
    task.receiver? = some pid ∨ task.startsReceive = true ∧ pid = before.table.currentPid := by
  cases turn with
  | calm _ continues => exact continues.receiver pid next
  | ends => cases next
  | blocks looking =>
    cases next
    exact .inl (Task.receiver?_of_receive? looking)
  | queues => cases next
  | completes => cases next

theorem target (turn : Turn before task outcome after)
    (next : outcome.task?.bind Task.target? = some number) :
    task.target? = some number ∨ ∃ owner, before.registry.number? owner = some number := by
  cases turn with
  | calm _ continues => exact continues.target number next
  | ends => cases next
  | blocks => cases next
  | queues => cases next
  | completes => cases next

end Turn

namespace World
variable {before after world : World} {task : Task} {outcome : Outcome} {others : List Task}
variable {β : Type} {shows : Task → Option β} {shown : β}

/-- One call has run a section among the others. -/
structure Ran (before : World) (task : Task) (outcome : Outcome) (others : List Task) (after : World) :
    Prop where
  tasks_before : before.tasks.Perm (task :: others)
  tasks_after : after.tasks.Perm (outcome.task?.toList ++ others)
  turn : Turn before.kernel task outcome after.kernel
  blockedIn : ∀ pid, after.blockedIn pid =
    match outcome.blocked? with
    | some receive => if receive.owner = pid then some receive else before.blockedIn pid
    | none => before.blockedIn pid
  entered : task.startsReceive = true → before.kernel.table.currentPid ∉ before.receivers

namespace Ran

theorem shown_before (ran : Ran before task outcome others after) :
    shown ∈ before.tasks.filterMap shows ↔ shows task = some shown ∨ shown ∈ others.filterMap shows := by
  rw [(ran.tasks_before.filterMap shows).mem_iff]
  simp only [List.mem_filterMap, List.mem_cons, exists_eq_or_imp]

theorem shown_after (ran : Ran before task outcome others after) :
    shown ∈ after.tasks.filterMap shows ↔
      outcome.task?.bind shows = some shown ∨ shown ∈ others.filterMap shows := by
  rw [(ran.tasks_after.filterMap shows).mem_iff, List.filterMap_append, List.mem_append]
  cases outcome.task? with
  | none => simp
  | some next => simp

end Ran

/-- Calls in progress know queues that are there, receives those of their owners. -/
structure Housed (world : World) : Prop where
  leads : world.kernel.registry.Leads
  receives : ∀ task ∈ world.tasks, ∀ receive, task.receive? = some receive →
    ∃ queue, world.queue? receive.number = some queue ∧ queue.owner = receive.owner
  targets : ∀ task ∈ world.tasks, ∀ number, task.target? = some number →
    ∃ queue, world.queue? number = some queue

/-- What is left of a call finds the queue that the call found. -/
theorem Housed.run (housed : before.Housed) (turn : Turn before.kernel task outcome after.kernel)
    (running : task ∈ before.tasks)
    (made : ∀ next ∈ after.tasks, outcome.task? = some next ∨ next ∈ before.tasks) : after.Housed where
  leads := turn.leads housed.leads
  receives next member receive shown := by
    have known : ∃ queue, before.queue? receive.number = some queue ∧ queue.owner = receive.owner := by
      rcases made next member with left | old
      · rcases turn.receive (Option.bind_eq_some_iff.mpr ⟨next, left, shown⟩) with same | found
        · exact housed.receives task running receive same
        · exact housed.leads receive.owner receive.number found
      · exact housed.receives next old receive shown
    obtain ⟨queue, there, owned⟩ := known
    obtain ⟨left, found, kept⟩ := turn.keeps there
    exact ⟨left, found, kept.trans owned⟩
  targets next member number shown := by
    have known : ∃ queue, before.queue? number = some queue := by
      rcases made next member with left | old
      · rcases turn.target (Option.bind_eq_some_iff.mpr ⟨next, left, shown⟩) with same | ⟨owner, found⟩
        · exact housed.targets task running number same
        · obtain ⟨queue, there, -⟩ := housed.leads owner number found
          exact ⟨queue, there⟩
      · exact housed.targets next old number shown
    obtain ⟨queue, there⟩ := known
    obtain ⟨left, found, -⟩ := turn.keeps there
    exact ⟨left, found⟩

/-- Calls in progress know queues that are there, receives those of their owners, and no process has
two receives. -/
structure Linked (world : World) : Prop where
  leads : world.kernel.registry.Leads
  receives : ∀ receive ∈ world.receives, ∃ queue, world.queue? receive.number = some queue ∧
    queue.owner = receive.owner
  targets : ∀ number ∈ world.targets, ∃ queue, world.queue? number = some queue
  single : world.receivers.Nodup

namespace Linked

theorem housed (linked : world.Linked) : world.Housed where
  leads := linked.leads
  receives task member receive shown := linked.receives receive (List.mem_filterMap.mpr ⟨task, member, shown⟩)
  targets task member number shown := linked.targets number (List.mem_filterMap.mpr ⟨task, member, shown⟩)

theorem of_housed (housed : world.Housed) (single : world.receivers.Nodup) : world.Linked where
  leads := housed.leads
  receives receive member := by
    obtain ⟨task, running, shown⟩ := List.mem_filterMap.mp member
    exact housed.receives task running receive shown
  targets number member := by
    obtain ⟨task, running, shown⟩ := List.mem_filterMap.mp member
    exact housed.targets task running number shown
  single := single

end Linked

/-- A process that has no receive when it enters one has one afterwards. -/
theorem Ran.single (ran : Ran before task outcome others after) (single : before.receivers.Nodup) :
    after.receivers.Nodup := by
  have single : (before.tasks.filterMap Task.receiver?).Nodup := single
  have fresh : ∀ pid, outcome.task?.bind Task.receiver? = some pid →
      pid ∉ others.filterMap Task.receiver? := by
    intro pid next other
    rcases ran.turn.receiver next with same | ⟨enters, rfl⟩
    · rw [(ran.tasks_before.filterMap _).nodup_iff, List.filterMap_cons_some same] at single
      exact (List.nodup_cons.mp single).1 other
    · exact ran.entered enters (ran.shown_before.mpr (.inr other))
  have rest : (others.filterMap Task.receiver?).Nodup := by
    have all : (task :: others).filterMap Task.receiver? |>.Nodup := by
      rw [← (ran.tasks_before.filterMap _).nodup_iff]
      exact single
    exact all.sublist ((List.sublist_cons_self task others).filterMap _)
  change (after.tasks.filterMap Task.receiver?).Nodup
  rw [(ran.tasks_after.filterMap _).nodup_iff, List.filterMap_append]
  cases kept : outcome.task? with
  | none => exact rest
  | some next =>
    cases shown : next.receiver? with
    | none =>
      rw [Option.toList_some, List.filterMap_cons_none shown]
      exact rest
    | some pid =>
      rw [Option.toList_some, List.filterMap_cons_some shown]
      apply List.nodup_cons.mpr
      constructor
      · apply fresh
        rw [kept]
        exact shown
      · exact rest

theorem Linked.run (linked : before.Linked) (ran : Ran before task outcome others after) : after.Linked := by
  apply Linked.of_housed _ (ran.single linked.single)
  apply linked.housed.run ran.turn (ran.tasks_before.mem_iff.mpr List.mem_cons_self)
  intro next member
  rcases List.mem_append.mp (ran.tasks_after.mem_iff.mp member) with left | other
  · exact .inl (Option.mem_toList.mp left)
  · exact .inr (ran.tasks_before.mem_iff.mpr (List.mem_cons_of_mem task other))

end World

end Nucleus.Kernel
