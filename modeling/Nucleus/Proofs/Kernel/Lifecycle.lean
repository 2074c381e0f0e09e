import Nucleus.Kernel.Boot
import Nucleus.Proofs.Kernel.Lasting
import Nucleus.Proofs.Processes.Line

/-! The queues come and go with the processes: between two operations a queue is registered for every process and for
nobody else. Only making and ending a process changes who is registered. -/
namespace Nucleus.Kernel
open Buddy Messages Processes Syscall

variable {before middle after kernel : Kernel} {named : Nat → Prop} {pid other number sender : Nat} {buffer : Buffer}
variable {α ρ : Type} {op : Op Kernel α} {rounds : List (Op Kernel ρ)} {events : List Event} {value : α}

/-- Nobody comes or goes: the same processes are known, and everybody's registered queue is the one it was. -/
structure Stays (before after : Kernel) : Prop where
  table : before.table.Rearranges after.table
  leads : before.registry.Leads → after.registry.Leads
  numbers : after.registry.numbers = before.registry.numbers

namespace Stays

theorem of_table (table : before.table.Rearranges after.table) (registry : after.registry = before.registry) :
    Stays before after :=
  ⟨table, fun leads => registry ▸ leads, by rw [registry]⟩

/-- A queue is changed that keeps its owner. -/
theorem of_put {queue left : Queue} (table : before.table.Rearranges after.table)
    (there : before.registry.queues[number]? = some queue)
    (registry : after.registry = before.registry.put number left) (owned : left.owner = queue.owner) :
    Stays before after where
  table := table
  leads leads := by
    rw [registry]
    exact leads.put there owned
  numbers := by
    rw [registry]
    rfl

theorem lasting : Op.Lasting Stays where
  refl _ := of_table .refl rfl
  trans first second := ⟨first.table.trans second.table, fun leads => second.leads (first.leads leads),
    second.numbers.trans first.numbers⟩

theorem number? (stays : Stays before after) (pid : Nat) :
    after.registry.number? pid = before.registry.number? pid := by
  rw [Registry.number?, stays.numbers]
  rfl

end Stays

/-- A queue is registered for every process and for nobody else, and it is the queue of its owner. -/
structure Paired (kernel : Kernel) : Prop where
  ordered : kernel.table.InOrder
  leads : kernel.registry.Leads
  registered : ∀ pid, kernel.table.knows pid = true ↔ (kernel.registry.number? pid).isSome = true

/-- Processes and queues stay paired, and whoever is not named keeps the queue it has. -/
structure Sustains (named : Nat → Prop) (before after : Kernel) : Prop where
  paired : before.Paired → after.Paired
  place : ∀ pid, ¬named pid → after.registry.number? pid = before.registry.number? pid

namespace Sustains

theorem refl (kernel : Kernel) : Sustains named kernel kernel := ⟨id, fun _ _ => rfl⟩

theorem trans (first : Sustains named before middle) (second : Sustains named middle after) :
    Sustains named before after where
  paired paired := second.paired (first.paired paired)
  place pid unnamed := (second.place pid unnamed).trans (first.place pid unnamed)

theorem lasting : Op.Lasting (Sustains named) := ⟨refl, trans⟩

end Sustains

theorem Stays.sustains (stays : Stays before after) : Sustains named before after := by
  refine ⟨fun paired => ?_, fun pid _ => stays.number? pid⟩
  obtain ⟨ordered, known⟩ := stays.table paired.ordered
  refine ⟨ordered, stays.leads paired.leads, fun pid => ?_⟩
  rw [known, paired.registered, stays.number?]

/-! ### Making and ending a process -/

/-- The kernel with a process made, and a queue for it. -/
def withProcess (kernel : Kernel) (pid : Nat) : Kernel :=
  { kernel with table := (kernel.table.spawn pid).2, registry := (kernel.registry.create pid).2 }

/-- The kernel with a process ended, and its queue dropped. -/
def withoutProcess (kernel : Kernel) (pid : Nat) : Kernel :=
  { kernel with table := (kernel.table.exit pid).2, registry := (kernel.registry.destroy pid).2 }

theorem spawnProcess_ends (pid : Nat) : Op.Ends (spawnProcess pid) kernel fun spawned after =>
    spawned = !kernel.table.knows pid ∧
      after = if kernel.table.knows pid then kernel else kernel.withProcess pid := by
  apply Op.Ends.bind (table_returns (·.spawn pid))
  rintro _ _ ⟨rfl, rfl⟩
  rw [Table.spawn_fst]
  cases known : kernel.table.knows pid with
  | true =>
    rw [Table.spawn_snd_of_knows known]
    exact .pure ⟨rfl, rfl⟩
  | false =>
    apply Op.Ends.bind (openQueue_returns pid)
    rintro _ _ rfl
    exact .pure ⟨rfl, rfl⟩

theorem exitProcess_ends (pid : Nat) : Op.Ends (exitProcess pid) kernel fun left after =>
    left = kernel.table.knows pid ∧
      after = if kernel.table.knows pid then kernel.withoutProcess pid else kernel := by
  apply Op.Ends.bind (table_returns (·.exit pid))
  rintro _ _ ⟨rfl, rfl⟩
  rw [Table.exit_fst]
  cases known : kernel.table.knows pid with
  | true => exact .of_run rfl ⟨rfl, rfl⟩
  | false =>
    rw [Table.exit_snd_of_unknown (by simp [known])]
    exact .pure ⟨rfl, rfl⟩

namespace Paired

theorem unregistered (paired : kernel.Paired) (unknown : kernel.table.knows pid = false) :
    kernel.registry.number? pid = none := by
  rw [← Option.not_isSome_iff_eq_none, ← paired.registered, unknown]
  decide

theorem withProcess (paired : kernel.Paired) (unknown : kernel.table.knows pid = false) :
    (kernel.withProcess pid).Paired where
  ordered := paired.ordered.spawn
  leads := paired.leads.create
  registered other := by
    change (kernel.table.spawn pid).2.knows other = true ↔
      ((kernel.registry.create pid).2.number? other).isSome = true
    rw [Table.knows_spawn, Registry.number?_create (paired.unregistered unknown)]
    by_cases same : pid = other
    · simp [same]
    · simp [same, paired.registered]

theorem withoutProcess (paired : kernel.Paired) : (kernel.withoutProcess pid).Paired where
  ordered := paired.ordered.exit
  leads := paired.leads.destroy
  registered other := by
    change (kernel.table.exit pid).2.knows other = true ↔
      ((kernel.registry.destroy pid).2.number? other).isSome = true
    rw [Table.knows_exit, Registry.number?_destroy]
    by_cases same : pid = other
    · simp [same]
    · simp [same, paired.registered]

end Paired

theorem spawnProcess_sustains (may : named pid) : (spawnProcess pid).Leaves (Sustains named) := by
  intro kernel events spawned after ran
  obtain ⟨-, rfl⟩ := (spawnProcess_ends pid).ran ran
  cases known : kernel.table.knows pid with
  | true => exact .refl kernel
  | false =>
    refine ⟨fun paired => paired.withProcess known, fun other unnamed => ?_⟩
    have apart : pid ≠ other := fun same => unnamed (same ▸ may)
    change (kernel.registry.create pid).2.number? other = _
    cases found : kernel.registry.number? pid with
    | none => rw [Registry.number?_create found, if_neg apart]
    | some number => simp only [Registry.create, found]

theorem exitProcess_sustains (may : named pid) : (exitProcess pid).Leaves (Sustains named) := by
  intro kernel events left after ran
  obtain ⟨-, rfl⟩ := (exitProcess_ends pid).ran ran
  cases kernel.table.knows pid with
  | true =>
    refine ⟨fun paired => paired.withoutProcess, fun other unnamed => ?_⟩
    have apart : pid ≠ other := fun same => unnamed (same ▸ may)
    exact Registry.number?_destroy.trans (if_neg apart)
  | false => exact .refl kernel

/-! ### Everything else -/

theorem table_stays {act : Table → α × Table} (table : ∀ table : Table, table.Rearranges (act table).2) :
    (onTable (Op.locked .table (modifyGet act))).Leaves Stays := by
  intro kernel events value after ran
  obtain ⟨-, rfl⟩ := (table_returns act).ran ran
  exact .of_table (table kernel.table) rfl

theorem yield_stays : (onTable Scheduler.yield).Leaves Stays := by
  intro kernel events value after ran
  obtain rfl := yield_returns.ran ran
  exact .of_table .yield rfl

theorem post_stays (number : Nat) (refused : Option Allocation) (sender : Nat) (payload : List UInt8) :
    (post number refused sender payload).Leaves Stays := by
  intro kernel events result after ran
  obtain ⟨queue, there, -, rfl⟩ := withQueue_found ran
  refine .of_put .refl there rfl ?_
  rcases queue.enqueue_cases refused sender payload with
    enqueued | ⟨longer, owned, -, ⟨wait, -, -, enqueued⟩ | ⟨-, -, enqueued⟩⟩
  · simp only [enqueued]
  · simp only [enqueued, owned]
  · simp only [enqueued, owned]

theorem look_stays (number sender : Nat) (buffer : Buffer) : (look number sender buffer).Leaves Stays := by
  intro kernel events outcome after ran
  obtain ⟨queue, there, ended⟩ := look_found ran
  rw [afterLook] at ended
  split at ended
  · cases ended
    refine .of_put ?_ there (fill_registry _ _ _) rfl
    rw [fill_table]
    exact .refl
  · split at ended
    · cases ended
      exact .of_put .block there rfl rfl
    · cases ended
      exact .of_put .refl there rfl rfl

theorem onHeap_stays (op : Op Heap α) : (onHeap op).Leaves Stays := by
  intro kernel events value after ran
  obtain ⟨heap, -, rfl⟩ := Op.onPart_ran ran
  exact .of_table .refl rfl

/-- Nobody comes or goes while a call is served. -/
theorem Stays.parts : Sectional fun _ op => op.Leaves Stays where
  toCompositional := Stays.lasting.compositional
  get := .get Stays.lasting
  currentPid := currentPid_leaves Stays.lasting
  knows := knows_leaves Stays.lasting
  unblock _ := table_stays fun _ => .unblock
  yield := yield_stays
  findQueue := findQueue_leaves Stays.lasting
  post := post_stays
  look := look_stays
  allocate _ := onHeap_stays _
  release _ := onHeap_stays _

theorem Sustains.whole : Compositional fun _ op => op.Leaves (Sustains named) := Sustains.lasting.compositional

theorem Sustains.of_stays {op : Op Kernel α} (leaves : op.Leaves Stays) : op.Leaves (Sustains named) :=
  leaves.mono fun _ _ => Stays.sustains

theorem Sustains.parts : Sectional fun _ op => op.Leaves (Sustains named) where
  toCompositional := Sustains.whole
  get := Sustains.of_stays Stays.parts.get
  currentPid := Sustains.of_stays Stays.parts.currentPid
  knows pid := Sustains.of_stays (Stays.parts.knows pid)
  unblock pid := Sustains.of_stays (Stays.parts.unblock pid)
  yield := Sustains.of_stays Stays.parts.yield
  findQueue owner := Sustains.of_stays (Stays.parts.findQueue owner)
  post number refused sender payload := Sustains.of_stays (Stays.parts.post number refused sender payload)
  look number sender buffer := Sustains.of_stays (Stays.parts.look number sender buffer)
  allocate size := Sustains.of_stays (Stays.parts.allocate size)
  release addr := Sustains.of_stays (Stays.parts.release addr)

theorem Activity.sustains (activity : Activity named op) : op.Leaves (Sustains named) := by
  have parts : Sectional fun _ op => op.Leaves (Sustains named) := Sustains.parts
  refine parts.activity Sustains.whole ?_ ?_ ?_ ?_ ?_ activity
  · intro α op leaves
    rw [Task.inside_kernel]
    exact leaves
  · exact fun pid => spawnProcess_sustains
  · exact fun pid => exitProcess_sustains
  · exact fun pid => Sustains.of_stays (table_stays fun _ => .switchTo)
  · exact fun pid => Sustains.of_stays (table_stays fun _ => .block)

/-! ### From a kernel without processes on -/

/-- No process and no queue. -/
def unused (heap : Heap) (space : UserSpace) (hooked : Bool) : Kernel :=
  ⟨heap, Registry.empty, { Table.empty with hooked }, space⟩

/-- The kernels that activity leads to from one without processes. A receive may be left parked, so the kernels that
others find while it waits are among them. -/
def Arises (heap : Heap) (space : UserSpace) (hooked : Bool) (kernel : Kernel) : Prop :=
  ∃ (α : Type) (op : Op Kernel α) (events : List Event) (value : α), Activity (fun _ => True) op ∧
    op.run (unused heap space hooked) = (events, .ok (value, kernel))

variable {heap : Heap} {space : UserSpace} {hooked : Bool}

theorem Paired.unused : (unused heap space hooked).Paired where
  ordered := ⟨⟨Table.InOrder.empty.nodup, Table.InOrder.empty.mem⟩, Table.InOrder.empty.known,
    Table.InOrder.empty.running⟩
  leads := by
    intro owner number found
    simp [Kernel.unused, Registry.empty, Registry.number?] at found
  registered pid := by simp [Kernel.unused, Registry.empty, Registry.number?, Table.empty, Table.knows]

theorem Arises.paired (arises : Arises heap space hooked kernel) : kernel.Paired := by
  obtain ⟨α, op, events, value, activity, ran⟩ := arises
  exact (activity.sustains _ _ _ _ ran).paired .unused

theorem Activity.arises (activity : Activity (fun _ => True) op) :
    op.Leaves fun before after => Arises heap space hooked before → Arises heap space hooked after := by
  rintro before events value after ran ⟨α, first, early, reply, begun, reached⟩
  refine ⟨_, first >>= fun _ => op, early ++ events, value, .bind begun fun _ => activity, ?_⟩
  rw [Op.run_bind_ok _ reached, ran]

/-- What an attempt to make a process comes to. -/
structure Spawned (before : Kernel) (pid : Nat) (spawned : Bool) (after : Kernel) : Prop where
  answer : spawned = !before.table.knows pid
  refused : spawned = false → after = before
  known : spawned = true → after.table.knows pid = true
  /-- The queue has not been there before. -/
  fresh : spawned = true → after.registry.number? pid = some before.registry.queues.size ∧
    after.registry.queueOf? pid = some (Queue.ofOwner pid)
  others : ∀ other, other ≠ pid → after.registry.number? other = before.registry.number? other ∧
    after.registry.queueOf? other = before.registry.queueOf? other

/-- What an attempt to end a process comes to. -/
structure Exited (before : Kernel) (pid : Nat) (left : Bool) (after : Kernel) : Prop where
  answer : left = before.table.knows pid
  refused : left = false → after = before
  gone : after.table.knows pid = false ∧ after.registry.queueOf? pid = none
  others : ∀ other, other ≠ pid → after.registry.number? other = before.registry.number? other ∧
    after.registry.queueOf? other = before.registry.queueOf? other

theorem Paired.spawned (paired : kernel.Paired) (pid : Nat) :
    Op.Ends (spawnProcess pid) kernel (Spawned kernel pid) := by
  apply (spawnProcess_ends pid).mono
  rintro spawned after ⟨rfl, rfl⟩
  cases known : kernel.table.knows pid with
  | true => exact ⟨by rw [known], fun _ => rfl, nofun, nofun, fun _ _ => ⟨rfl, rfl⟩⟩
  | false =>
    have unregistered := paired.unregistered known
    refine ⟨by rw [known], nofun, fun _ => ?_, fun _ => ⟨?_, ?_⟩, fun other apart => ⟨?_, ?_⟩⟩
    · exact Table.knows_spawn.mpr (.inl rfl)
    · exact (Registry.number?_create unregistered).trans (if_pos rfl)
    · exact Registry.queueOf?_create_self unregistered
    · exact (Registry.number?_create unregistered).trans (if_neg apart.symm)
    · exact paired.leads.queueOf?_create_other unregistered apart.symm

theorem Paired.exited (paired : kernel.Paired) (pid : Nat) :
    Op.Ends (exitProcess pid) kernel (Exited kernel pid) := by
  apply (exitProcess_ends pid).mono
  rintro left after ⟨rfl, rfl⟩
  cases known : kernel.table.knows pid with
  | true =>
    have number : ∀ other, (kernel.withoutProcess pid).registry.number? other =
        if pid = other then none else kernel.registry.number? other := fun other => Registry.number?_destroy
    refine ⟨by rw [known], nofun, ⟨?_, ?_⟩, fun other apart => ⟨?_, ?_⟩⟩
    · rw [← Bool.not_eq_true]
      exact fun still => (Table.knows_exit.mp still).1 rfl
    · rw [if_pos rfl, Registry.queueOf?, number, if_pos rfl, Option.bind_none]
    · exact (number other).trans (if_neg apart.symm)
    · rw [if_pos rfl, Registry.queueOf?, number, if_neg apart.symm]
      rfl
  | false =>
    refine ⟨by rw [known], fun _ => rfl, ⟨known, ?_⟩, fun _ _ => ⟨rfl, rfl⟩⟩
    exact Option.bind_eq_none_iff.mpr fun number found => by
      cases (paired.unregistered known).symm.trans found

/-- Whatever has gone on since the kernel was without processes, in whatever order and nested in whatever way: the
processes are those a queue is registered for, and a queue is registered for its owner. A process that is made gets an
empty queue of its own, whoever had its pid before; one that is ended loses its queue; a refused attempt changes
nothing. Nobody else's queue is touched, and all that goes on without making or ending a process leaves it the queue it
has. What others find while a call waits is such a kernel again. -/
theorem queues_of_processes (arises : Arises heap space hooked kernel) :
    (∀ pid, kernel.table.knows pid = true ↔ (kernel.registry.queueOf? pid).isSome = true) ∧
    (∀ pid queue, kernel.registry.queueOf? pid = some queue → queue.owner = pid) ∧
    (∀ pid, Op.Ends (spawnProcess pid) kernel (Spawned kernel pid)) ∧
    (∀ pid, Op.Ends (exitProcess pid) kernel (Exited kernel pid)) ∧
    (∀ {α : Type} (op : Op Kernel α) (pid : Nat), Activity (· ≠ pid) op → ∀ events value after,
      op.run kernel = (events, .ok (value, after)) →
        after.registry.number? pid = kernel.registry.number? pid) ∧
    ∀ {ρ : Type} (refused : Option Allocation) (frame : Frame) (rounds : List (Op Kernel ρ)),
      (∀ round ∈ rounds, round.Leaves fun before after =>
        Arises heap space hooked before → Arises heap space hooked after) →
      ∀ events value after, (dispatch refused rounds frame).run kernel = (events, .ok (value, after)) →
        Arises heap space hooked after := by
  have paired := arises.paired
  refine ⟨?_, ?_, paired.spawned, paired.exited, ?_, ?_⟩
  · intro pid
    rw [paired.leads.queueOf?_isSome]
    exact paired.registered pid
  · exact fun pid queue => paired.leads.owner_queueOf?
  · intro α op pid activity events value after ran
    exact (activity.sustains _ _ _ _ ran).place pid fun different => different rfl
  · intro ρ refused frame rounds during events value after ran
    have lasting : Op.Lasting fun before after =>
        Arises heap space hooked before → Arises heap space hooked after :=
      ⟨fun _ => id, fun first second before => second (first before)⟩
    have nobody : ∀ round ∈ ([] : List (Op Kernel ρ)), Activity (fun _ => True) round := nofun
    refine dispatch_leaves lasting (Activity.call refused frame nobody).arises ?_ _ _ _ _ ran arises
    intro number sender buffer
    exact receive_leaves lasting (Activity.resume number sender buffer nobody).arises during

/-- Process 1 ends with a message unread. -/
def abandoned : Op Kernel Bool := do
  let _ ← inside (spawnProcess 1)
  let _ ← dispatch (σ := Kernel) (ρ := Unit) none [] ⟨0, Selector.send.number, 1, 0x1000, 1, 0, 0⟩
  inside (exitProcess 1)

theorem abandoned_activity : Activity (fun _ => True) abandoned :=
  .bind (.spawn trivial) fun _ => .bind (.call _ _ nofun) fun _ => .exit trivial

/-- Another process 1 finds an empty queue, beside the one with the message. -/
theorem successor_queue_empty : ∃ events kernel,
    abandoned.run (unused Boot.kernel.heap .flat false) = (events, .ok (true, kernel)) ∧
      kernel.registry.queues.toList.map (·.messages.length) = [1] ∧
      Op.Ends (spawnProcess 1) kernel fun spawned after =>
        spawned = true ∧ after.registry.number? 1 = some 1 ∧
          after.registry.queueOf? 1 = some (Queue.ofOwner 1) := by
  have ended : (abandoned.run (unused Boot.kernel.heap .flat false)).2.toOption.map (fun (left, kernel) =>
      (left, kernel.table.knows 1, kernel.registry.queues.toList.map (·.messages.length))) =
      some (true, false, [1]) := by
    decide +kernel
  rcases ran : abandoned.run (unused Boot.kernel.heap .flat false) with ⟨events, fault | ⟨left, kernel⟩⟩
  · rw [ran] at ended
    cases ended
  simp only [ran, Except.toOption, Option.map_some, Option.some.injEq, Prod.mk.injEq] at ended
  obtain ⟨rfl, unknown, unread⟩ := ended
  have arises : Arises Boot.kernel.heap .flat false kernel := ⟨_, abandoned, events, true, abandoned_activity, ran⟩
  obtain ⟨-, -, spawns, -⟩ := queues_of_processes arises
  refine ⟨events, kernel, rfl, unread, (spawns 1).mono fun spawned after fresh => ?_⟩
  have answer : spawned = true := fresh.answer.trans (by rw [unknown]; rfl)
  have one : kernel.registry.queues.size = 1 := by
    have length := congrArg List.length unread
    simpa using length
  obtain ⟨number, queue⟩ := fresh.fresh answer
  rw [one] at number
  exact ⟨answer, number, queue⟩

end Nucleus.Kernel
