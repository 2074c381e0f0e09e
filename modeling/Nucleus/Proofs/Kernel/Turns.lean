import Nucleus.Proofs.Kernel.World
import Nucleus.Proofs.Messages.Numbers
import Nucleus.Proofs.Messages.Streams
import Nucleus.Proofs.Processes.Blocked
import Nucleus.Proofs.Returns

/-! All that one section of a call can do. -/
namespace Nucleus.Kernel
open Messages Processes Syscall

/-- Nobody is blocked, and every queue stays as it was. -/
structure Quiet (before after : Kernel) : Prop where
  grows : before.registry.Grows after.registry
  leads : before.registry.Leads → after.registry.Leads
  blocksNone : before.table.BlocksNone after.table

/-- What a section without an effect on waits hands on to the next. -/
structure Continues (before : Kernel) (task : Task) (outcome : Outcome) (after : Kernel) : Prop where
  blocked : outcome.blocked? = none
  waiting : outcome.task?.bind Task.waiting? = task.waiting?
  receive : ∀ receive, outcome.task?.bind Task.receive? = some receive →
    task.receive? = some receive ∨ before.registry.number? receive.owner = some receive.number
  receiver : ∀ pid, outcome.task?.bind Task.receiver? = some pid →
    task.receiver? = some pid ∨ task.startsReceive = true ∧ pid = before.table.currentPid
  target : ∀ number, outcome.task?.bind Task.target? = some number →
    task.target? = some number ∨ ∃ owner, before.registry.number? owner = some number
  wake : ∀ wake, task.wake? = some wake →
    outcome.task?.bind Task.wake? = some wake ∨ ¬after.table.Blocked wake.owner

/-- What a section does, by its effect on queues and waits. -/
inductive Turn (before : Kernel) : Task → Outcome → Kernel → Prop
  | calm {task : Task} {outcome : Outcome} {after : Kernel} :
      Quiet before after → Continues before task outcome after → Turn before task outcome after
  /-- A receive returns, with its bytes or without its owner. -/
  | ends {task : Task} {receive : Receive} {queue left : Queue} {reply : Reply} {after : Kernel} :
      task.receive? = some receive → before.registry.queues[receive.number]? = some queue →
      left.owner = queue.owner → left.waiting = none →
      receive.wait.required ≤ (stream receive.wait.sender queue.messages).length ∨
        ¬before.table.Blocked queue.owner →
      after.registry = before.registry.put receive.number left → after.table = before.table →
      Turn before task (.returned reply) after
  /-- A receive records what it waits for and its owner is blocked. -/
  | blocks {task : Task} {receive : Receive} {queue : Queue} {after : Kernel} :
      task.receive? = some receive → before.registry.queues[receive.number]? = some queue →
      ¬queue.offers receive.sender receive.buffer.len = true →
      after.registry =
        before.registry.put receive.number (queue.await receive.sender receive.buffer.len) →
      after.table = before.table.block queue.owner → Turn before task (.next (.leave receive)) after
  /-- A message is queued that ends no wait. -/
  | queues {task : Task} {number : Nat} {queue longer : Queue} {message : Message} {reply : Reply}
      {after : Kernel} :
      task.target? = some number → before.registry.queues[number]? = some queue →
      longer.owner = queue.owner → longer.messages = queue.messages ++ [message] →
      longer.waiting = queue.waiting → (queue.Short → longer.Short) →
      after.registry = before.registry.put number longer → after.table = before.table →
      Turn before task (.returned reply) after
  /-- A message is queued that ends a wait. -/
  | completes {task : Task} {number : Nat} {queue longer : Queue} {wait : Wait} {after : Kernel} :
      task.target? = some number → before.registry.queues[number]? = some queue →
      longer.owner = queue.owner → queue.waiting = some wait → longer.Completed wait →
      after.registry = before.registry.put number longer → after.table = before.table →
      Turn before task (.next (.lookUp ⟨queue.owner, number, some wait⟩)) after

variable {before after kernel : Kernel} {α : Type}

theorem Quiet.of_table (same : after.registry = before.registry)
    (blocksNone : before.table.BlocksNone after.table) : Quiet before after where
  grows := Registry.Grows.of_queues (by rw [same])
  leads leads := by
    rw [same]
    exact leads
  blocksNone := blocksNone

theorem Quiet.refl (kernel : Kernel) : Quiet kernel kernel := of_table rfl (.of_states rfl)

/-- Of what a call does not show, everything holds. -/
theorem unshown {β : Type} {fact : β → Prop} : ∀ shown, (none : Option β) = some shown → fact shown := by
  intro shown impossible
  cases impossible

theorem Continues.returned {task : Task} (reply : Reply) (unwaiting : task.waiting? = none)
    (unowed : ∀ wake, task.wake? = some wake → ¬after.table.Blocked wake.owner) :
    Continues before task (.returned reply) after where
  blocked := rfl
  waiting := unwaiting.symm
  receive := unshown
  receiver := unshown
  target := unshown
  wake wake owed := .inr (unowed wake owed)

/-! ### The locked parts -/

theorem table_returns (act : Table → α × Table) :
    Op.Ends (onTable (Op.locked .table (modifyGet act))) kernel
      fun value after => value = (act kernel.table).1 ∧
        after = { kernel with table := (act kernel.table).2 } :=
  .of_run rfl ⟨rfl, rfl⟩

theorem yield_returns :
    Op.Ends (onTable Scheduler.yield) kernel
      fun _ after => after = { kernel with table := kernel.table.yield.2 } := by
  have passed : Op.Ends (Op.locked .table (modifyGet (·.yield))) kernel.table
      fun _ after => after = kernel.table.yield.2 := .of_run rfl rfl
  have announced : Op.Ends Scheduler.yield kernel.table
      fun _ after => after = kernel.table.yield.2 := by
    apply Op.Ends.bind passed
    rintro (none | ⟨previous, next⟩) _ rfl
    · exact .of_run rfl rfl
    · exact .of_run rfl rfl
  apply announced.onPart.mono
  rintro _ _ ⟨_, rfl, rfl⟩
  rfl

theorem currentPid_returns :
    Op.Ends (onTable Scheduler.currentPid) kernel
      fun value after => value = kernel.table.currentPid ∧ after = kernel :=
  .of_run rfl ⟨rfl, rfl⟩

theorem knows_returns (pid : Nat) :
    Op.Ends (onTable (Scheduler.knows pid)) kernel
      fun value after => value = kernel.table.knows pid ∧ after = kernel :=
  .of_run rfl ⟨rfl, rfl⟩

theorem findQueue_returns (owner : Nat) :
    Op.Ends (onRegistry (Registry.findQueue owner)) kernel
      fun value after => value = kernel.registry.number? owner ∧ after = kernel :=
  .of_run rfl ⟨rfl, rfl⟩

theorem queueAt_returns {number : Nat} {queue : Queue}
    (there : kernel.registry.queues[number]? = some queue) :
    Op.Ends (queueAt number) kernel
      fun value after => value = queue ∧ after = kernel := by
  refine ⟨[], queue, kernel, ?_, trivial, rfl, rfl⟩
  simp only [queueAt, Op.run, there]

theorem withQueue_returns {number : Nat} {queue : Queue} {act : Queue → α × Queue}
    (there : kernel.registry.queues[number]? = some queue) :
    Op.Ends (onRegistry (Registry.withQueue number act)) kernel
      fun value after => value = (act queue).1 ∧
        after = { kernel with registry := kernel.registry.put number (act queue).2 } := by
  have worked : Op.Ends (Registry.withQueue number act) kernel.registry
      fun value after => value = (act queue).1 ∧ after = kernel.registry.put number (act queue).2 := by
    apply Op.Ends.locked
    refine ⟨[], _, _, ?_, trivial, rfl, rfl⟩
    simp only [Op.run, there]
  apply worked.onPart.mono
  rintro _ _ ⟨_, rfl, rfl, rfl⟩
  exact ⟨rfl, rfl⟩

/-- Work on a queue that ran found it. -/
theorem withQueue_found {number : Nat} {act : Queue → α × Queue} {events : List Event} {value : α}
    (ran : (onRegistry (Registry.withQueue number act)).run kernel = (events, .ok (value, after))) :
    ∃ queue, kernel.registry.queues[number]? = some queue ∧ value = (act queue).1 ∧
      after = { kernel with registry := kernel.registry.put number (act queue).2 } := by
  cases found : kernel.registry.queues[number]? with
  | none =>
    obtain ⟨_, ran, -⟩ := Op.onPart_ran ran
    obtain ⟨_, ran⟩ := Op.locked_ran ran
    simp only [Op.run, found] at ran
    cases ran
  | some queue => exact ⟨queue, rfl, (withQueue_returns found).ran ran⟩

theorem openQueue_returns (pid : Nat) :
    Op.Ends (onRegistry (Registry.openQueue pid)) kernel
      fun _ after => after = { kernel with registry := (kernel.registry.create pid).2 } := by
  have opened : Op.Ends (Registry.openQueue pid) kernel.registry
      fun _ after => after = (kernel.registry.create pid).2 := by
    apply Op.Ends.locked
    apply Op.Returns.get_bind
    split
    · exact Op.Ends.of_run rfl rfl
    · exact Op.Ends.of_run rfl rfl
  apply opened.onPart.mono
  rintro _ _ ⟨_, rfl, rfl⟩
  rfl

theorem putQueue_returns (number : Nat) (queue : Queue) :
    Op.Ends (putQueue number queue) kernel
      fun _ after => after = { kernel with registry := kernel.registry.put number queue } :=
  .of_run rfl rfl

@[simp] theorem fill_registry (kernel : Kernel) (addr : Nat) (bytes : List UInt8) :
    (kernel.fill addr bytes).registry = kernel.registry := by
  unfold fill
  split <;> rfl

@[simp] theorem fill_table (kernel : Kernel) (addr : Nat) (bytes : List UInt8) :
    (kernel.fill addr bytes).table = kernel.table := by
  unfold fill
  split <;> rfl

/-- The three ends of a look, each with what it leaves behind. -/
def Looked (before : Kernel) (receive : Receive) (queue : Queue) (after : Kernel) : Look → Prop
  | .delivered =>
    queue.offers receive.sender receive.buffer.len = true ∧
      after.registry = before.registry.put receive.number
        (queue.endWait.take receive.sender receive.buffer.len).2 ∧
      after.table = before.table
  | .blocked =>
    ¬queue.offers receive.sender receive.buffer.len = true ∧
      after.registry =
        before.registry.put receive.number (queue.await receive.sender receive.buffer.len) ∧
      after.table = before.table.block queue.owner
  | .ownerGone =>
    before.table.knows queue.owner = false ∧
      after.registry = before.registry.put receive.number queue.endWait ∧ after.table = before.table

/-- How a look at a queue ends, and the kernel it leaves. -/
def afterLook (kernel : Kernel) (queue : Queue) (number sender : Nat) (buffer : Buffer) : Look × Kernel :=
  if queue.offers sender buffer.len then
    let (bytes, left) := queue.endWait.take sender buffer.len
    (.delivered, { kernel with registry := kernel.registry.put number left }.fill buffer.addr bytes)
  else if kernel.table.knows queue.owner then
    (.blocked, { kernel with
      registry := kernel.registry.put number (queue.await sender buffer.len)
      table := kernel.table.block queue.owner })
  else (.ownerGone, { kernel with registry := kernel.registry.put number queue.endWait })

section Ends
variable {queue : Queue} {sender : Nat} {buffer : Buffer}

theorem afterLook_delivers (number : Nat) (enough : buffer.len ≤ (stream sender queue.messages).length) :
    ∃ after, kernel.afterLook queue number sender buffer = (.delivered, after) ∧ after.table = kernel.table ∧
      after.registry = kernel.registry.put number (queue.endWait.take sender buffer.len).2 :=
  ⟨_, if_pos (Queue.offers_iff.mpr enough), fill_table _ _ _, fill_registry _ _ _⟩

theorem afterLook_blocks (number : Nat) (missing : (stream sender queue.messages).length < buffer.len)
    (known : kernel.table.knows queue.owner = true) :
    ∃ after, kernel.afterLook queue number sender buffer = (.blocked, after) ∧
      after.table = kernel.table.block queue.owner ∧
      after.registry = kernel.registry.put number (queue.await sender buffer.len) :=
  ⟨_, (if_neg (Queue.not_offers_iff.mpr missing)).trans (if_pos known), rfl, rfl⟩

theorem afterLook_gone (number : Nat) (missing : (stream sender queue.messages).length < buffer.len)
    (unknown : ¬kernel.table.knows queue.owner = true) :
    ∃ after, kernel.afterLook queue number sender buffer = (.ownerGone, after) ∧ after.table = kernel.table ∧
      after.registry = kernel.registry.put number queue.endWait :=
  ⟨_, (if_neg (Queue.not_offers_iff.mpr missing)).trans (if_neg unknown), rfl, rfl⟩

end Ends

theorem look_ends {number : Nat} {queue : Queue} (sender : Nat) (buffer : Buffer)
    (there : kernel.registry.queues[number]? = some queue) :
    Op.Ends (look number sender buffer) kernel
      fun outcome after => kernel.afterLook queue number sender buffer = (outcome, after) := by
  apply Op.Ends.locked
  apply Op.Ends.bind (queueAt_returns there)
  rintro _ kernel ⟨rfl, rfl⟩
  rename_i queue
  by_cases offered : queue.offers sender buffer.len = true
  · rw [if_pos offered, afterLook, if_pos offered]
    exact .of_run rfl rfl
  · rw [if_neg offered, afterLook, if_neg offered]
    apply Op.Ends.bind (putQueue_returns _ _)
    rintro _ _ rfl
    apply Op.Ends.bind (knows_returns _)
    rintro _ _ ⟨rfl, rfl⟩
    simp only
    cases known : kernel.table.knows queue.owner with
    | true => exact .of_run rfl rfl
    | false =>
      -- The wait is recorded and taken back.
      have twice : (kernel.registry.put number (queue.await sender buffer.len)).put number queue.endWait =
          kernel.registry.put number queue.endWait := Registry.put_put _ _
      refine .of_run rfl ?_
      simp only [twice]
      rfl

theorem look_run {number : Nat} {queue : Queue} (sender : Nat) (buffer : Buffer)
    (there : kernel.registry.queues[number]? = some queue) : ∃ events,
    (look number sender buffer).run kernel = (events, .ok (kernel.afterLook queue number sender buffer)) := by
  obtain ⟨events, outcome, after, ran, -, same⟩ := look_ends sender buffer there
  rw [same]
  exact ⟨events, ran⟩

/-- A look that ran found its queue. -/
theorem look_found {number sender : Nat} {buffer : Buffer} {events : List Event} {outcome : Look}
    (ran : (look number sender buffer).run kernel = (events, .ok (outcome, after))) :
    ∃ queue, kernel.registry.queues[number]? = some queue ∧
      kernel.afterLook queue number sender buffer = (outcome, after) := by
  cases found : kernel.registry.queues[number]? with
  | none =>
    obtain ⟨_, ran⟩ := Op.locked_ran ran
    obtain ⟨_, _, _, _, queue, -⟩ := Op.bind_ran ran
    simp only [queueAt, Op.run, found] at queue
    cases queue
  | some queue => exact ⟨queue, rfl, (look_ends sender buffer found).ran ran⟩

theorem look_returns {receive : Receive} {queue : Queue}
    (there : kernel.registry.queues[receive.number]? = some queue) :
    Op.Ends (look receive.number receive.sender receive.buffer) kernel
      fun looked after => Looked kernel receive queue after looked := by
  apply (look_ends _ _ there).mono
  intro looked after same
  rcases Nat.lt_or_ge (stream receive.sender queue.messages).length receive.buffer.len with missing | enough
  · by_cases known : kernel.table.knows queue.owner = true
    · obtain ⟨left, ended, table, registry⟩ := afterLook_blocks receive.number missing known
      cases ended.symm.trans same
      exact ⟨Queue.not_offers_iff.mpr missing, registry, table⟩
    · obtain ⟨left, ended, table, registry⟩ := afterLook_gone receive.number missing known
      cases ended.symm.trans same
      exact ⟨Bool.eq_false_iff.mpr known, registry, table⟩
  · obtain ⟨left, ended, table, registry⟩ := afterLook_delivers receive.number enough
    cases ended.symm.trans same
    exact ⟨Queue.offers_iff.mpr enough, registry, table⟩

namespace Task

theorem enterCall_turn (call : Call) :
    Op.Ends (enterCall call) kernel (Turn kernel (enter call)) := by
  cases call with
  | send refused target addr len =>
    simp only [enterCall]
    cases Buffer.ofRange addr len with
    | error error => exact .of_run rfl (.calm (.refl _) (.returned _ rfl unshown))
    | ok buffer =>
      apply Op.Ends.bind (findQueue_returns target)
      rintro _ kernel ⟨rfl, rfl⟩
      cases found : kernel.registry.number? target with
      | none => exact .of_run rfl (.calm (.refl _) (.returned _ rfl unshown))
      | some number =>
        refine .of_run rfl (.calm (.refl _) ⟨rfl, rfl, unshown, unshown, ?_, unshown⟩)
        rintro _ ⟨rfl⟩
        exact .inr ⟨target, found⟩
  | receive sender addr len =>
    apply Op.Ends.bind currentPid_returns
    rintro _ kernel ⟨rfl, rfl⟩
    refine .of_run rfl (.calm (.refl _) ⟨rfl, rfl, unshown, ?_, unshown, unshown⟩)
    rintro _ ⟨rfl⟩
    exact .inr ⟨rfl, rfl⟩
  | spawn pid =>
    apply Op.Ends.bind (table_returns (·.spawn pid))
    rintro spawned _ ⟨rfl, rfl⟩
    have quiet : Quiet kernel { kernel with table := (kernel.table.spawn pid).2 } :=
      .of_table rfl .spawn
    cases (kernel.table.spawn pid).1 with
    | true =>
      exact .of_run rfl (.calm quiet ⟨rfl, rfl, unshown, unshown, unshown, unshown⟩)
    | false => exact .of_run rfl (.calm quiet (.returned _ rfl unshown))
  | exit pid =>
    apply Op.Ends.bind (table_returns (·.exit pid))
    rintro left _ ⟨rfl, rfl⟩
    have quiet : Quiet kernel { kernel with table := (kernel.table.exit pid).2 } :=
      .of_table rfl .exit
    cases (kernel.table.exit pid).1 with
    | true =>
      exact .of_run rfl (.calm quiet ⟨rfl, rfl, unshown, unshown, unshown, unshown⟩)
    | false => exact .of_run rfl (.calm quiet (.returned _ rfl unshown))
  | switchTo pid =>
    exact .of_run rfl (.calm (.of_table rfl .switchTo) (.returned _ rfl unshown))
  | yield =>
    apply Op.Ends.bind yield_returns
    rintro _ _ rfl
    exact .of_run rfl (.calm (.of_table rfl .yield) (.returned _ rfl unshown))

theorem findOwn_turn (owner sender addr len : Nat) :
    Op.Ends (findOwn owner sender addr len) kernel
      (Turn kernel (find owner sender addr len)) := by
  apply Op.Ends.bind (findQueue_returns owner)
  rintro _ kernel ⟨rfl, rfl⟩
  cases found : kernel.registry.number? owner with
  | none => exact .of_run rfl (.calm (.refl _) (.returned _ rfl unshown))
  | some number =>
    simp only
    cases Buffer.ofRange addr len with
    | error error => exact .of_run rfl (.calm (.refl _) (.returned _ rfl unshown))
    | ok buffer =>
      refine .of_run rfl (.calm (.refl _) ⟨rfl, rfl, ?_, ?_, unshown, unshown⟩)
      · rintro _ ⟨rfl⟩
        exact .inr found
      · rintro _ ⟨rfl⟩
        exact .inl rfl

theorem lookOnce_turn {task : Task} {receive : Receive} {queue : Queue}
    (looking : task.receive? = some receive)
    (there : kernel.registry.queues[receive.number]? = some queue) :
    Op.Ends (lookOnce receive) kernel (Turn kernel task) := by
  apply Op.Ends.bind (look_returns there)
  rintro (_ | _ | _) after looked
  · obtain ⟨offered, registry, table⟩ := looked
    let left := (queue.endWait.take receive.sender receive.buffer.len).2
    have owned : left.owner = queue.owner := rfl
    refine .of_run rfl (.ends looking there owned rfl ?_ registry table)
    exact .inl (Queue.offers_iff.mp offered)
  · obtain ⟨missing, registry, table⟩ := looked
    exact .of_run rfl (.blocks looking there missing registry table)
  · obtain ⟨unknown, registry, table⟩ := looked
    have owned : queue.endWait.owner = queue.owner := rfl
    refine .of_run rfl (.ends looking there owned rfl ?_ registry table)
    right
    intro blocked
    rw [blocked.knows] at unknown
    cases unknown

theorem postOnce_turn {refused : Option Allocation} {target number sender : Nat} {buffer : Buffer}
    {queue : Queue} (there : kernel.registry.queues[number]? = some queue) :
    Op.Ends (postOnce refused target number sender buffer) kernel
      (Turn kernel (post refused target number sender buffer)) := by
  apply Op.Returns.get_bind
  apply Op.Ends.bind (withQueue_returns there)
  rintro _ _ ⟨rfl, rfl⟩
  rcases queue.enqueue_cases refused sender (kernel.load buffer) with
    enqueued | ⟨longer, owned, messages, ⟨wait, waits, completed, enqueued⟩ | ⟨same, short, enqueued⟩⟩
  · simp only [enqueued, Registry.put_same there]
    exact .of_run rfl (.calm (.refl _) (.returned _ rfl unshown))
  · simp only [enqueued, there, owned, Option.bind_some, waits]
    exact .of_run rfl (.completes rfl there owned waits completed rfl rfl)
  · simp only [enqueued]
    exact .of_run rfl (.queues rfl there owned messages same short rfl rfl)

theorem advance_turn {task : Task}
    (receives : ∀ receive, task.receive? = some receive →
      ∃ queue, kernel.registry.queues[receive.number]? = some queue)
    (targets : ∀ number, task.target? = some number →
      ∃ queue, kernel.registry.queues[number]? = some queue) :
    Op.Ends task.advance kernel (Turn kernel task) := by
  cases task with
  | enter call => exact enterCall_turn call
  | find owner sender addr len => exact findOwn_turn owner sender addr len
  | look receive =>
    obtain ⟨queue, there⟩ := receives receive rfl
    exact lookOnce_turn rfl there
  | leave receive =>
    apply Op.Ends.bind yield_returns
    rintro _ _ rfl
    refine .of_run rfl (.calm (.of_table rfl .yield) ⟨rfl, rfl, ?_, ?_, unshown, unshown⟩)
    · exact fun _ found => .inl found
    · exact fun _ found => .inl found
  | parked receive =>
    obtain ⟨queue, there⟩ := receives receive rfl
    exact lookOnce_turn rfl there
  | sign refused target number buffer =>
    apply Op.Ends.bind currentPid_returns
    rintro _ kernel ⟨rfl, rfl⟩
    refine .of_run rfl (.calm (.refl _) ⟨rfl, rfl, unshown, unshown, ?_, unshown⟩)
    exact fun _ found => .inl found
  | post refused target number sender buffer =>
    obtain ⟨queue, there⟩ := targets number rfl
    exact postOnce_turn there
  | lookUp wake =>
    apply Op.Ends.bind (knows_returns wake.owner)
    rintro _ kernel ⟨rfl, rfl⟩
    cases known : kernel.table.knows wake.owner with
    | true =>
      refine .of_run rfl (.calm (.refl _) ⟨rfl, rfl, unshown, unshown, unshown, ?_⟩)
      exact fun _ found => .inl found
    | false =>
      refine .of_run rfl (.calm (.refl _) (.returned _ rfl ?_))
      rintro _ ⟨rfl⟩ blocked
      rw [blocked.knows] at known
      cases known
  | unblock wake =>
    refine .of_run rfl (.calm (.of_table rfl .unblock) (.returned _ rfl ?_))
    rintro _ ⟨rfl⟩
    exact Table.not_blocked_unblock
  | openQueue pid =>
    apply Op.Ends.bind (openQueue_returns pid)
    rintro _ _ rfl
    refine .of_run rfl (.calm ⟨?_, ?_, .of_states rfl⟩ (.returned _ rfl unshown))
    · exact Registry.grows_create
    · exact Registry.Leads.create
  | dropQueue pid =>
    refine .of_run rfl (.calm ⟨?_, ?_, .of_states rfl⟩ (.returned _ rfl unshown))
    · exact Registry.grows_destroy
    · exact Registry.Leads.destroy

end Task

end Nucleus.Kernel
