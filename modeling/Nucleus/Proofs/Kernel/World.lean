import Nucleus.Proofs.Kernel.Sections

/-! A kernel and the calls in progress. Any call may be the next to run a section. -/
namespace Nucleus.Kernel
open Buddy Messages Processes Syscall

namespace Task

/-- The process whose receive this is. -/
def receiver? : Task → Option Nat
  | find owner _ _ _ => some owner
  | look receive | leave receive | parked receive => some receive.owner
  | _ => none

def receive? : Task → Option Receive
  | look receive | leave receive | parked receive => some receive
  | _ => none

/-- A receive that has found its bytes missing and has not looked since. -/
def waiting? : Task → Option Receive
  | leave receive | parked receive => some receive
  | _ => none

/-- The queue a send has found. -/
def target? : Task → Option Nat
  | sign _ _ number _ | post _ _ number _ _ => some number
  | _ => none

def wake? : Task → Option Wake
  | lookUp wake | unblock wake => some wake
  | _ => none

def startsReceive : Task → Bool
  | enter (.receive _ _ _) => true
  | _ => false

/-- The process to be made known. -/
def spawns? : Task → Option Nat
  | enter (.spawn pid) => some pid
  | _ => none

/-- The process that has gone and whose queue is still to be dropped. -/
def drops? : Task → Option Nat
  | dropQueue pid => some pid
  | _ => none

theorem receiver?_of_receive? {task : Task} {receive : Receive} (shown : task.receive? = some receive) :
    task.receiver? = some receive.owner := by
  cases task <;> cases shown <;> rfl

theorem receive?_of_waiting? {task : Task} {receive : Receive} (shown : task.waiting? = some receive) :
    task.receive? = some receive := by
  cases task <;> cases shown <;> rfl

theorem unowed_of_receive? {task : Task} {receive : Receive} (shown : task.receive? = some receive) :
    task.wake? = none := by
  cases task <;> cases shown <;> rfl

theorem unowed_of_target? {task : Task} {number : Nat} (shown : task.target? = some number) :
    task.wake? = none := by
  cases task <;> cases shown <;> rfl

theorem unwaiting_of_target? {task : Task} {number : Nat} (shown : task.target? = some number) :
    task.waiting? = none := by
  cases task <;> cases shown <;> rfl

end Task

namespace Outcome

def task? : Outcome → Option Task
  | next task => some task
  | returned _ => none

/-- The receive whose owner the section has blocked. -/
def blocked? : Outcome → Option Receive
  | next (.leave receive) => some receive
  | _ => none

end Outcome

structure World where
  kernel : Kernel
  tasks : List Task
  /-- The receive each process was last blocked in. -/
  blockedIn : Nat → Option Receive

instance : HasKernel World := ⟨World.kernel, fun kernel world => { world with kernel }⟩

namespace World

def receivers (world : World) : List Nat := world.tasks.filterMap Task.receiver?

def receives (world : World) : List Receive := world.tasks.filterMap Task.receive?

def waiting (world : World) : List Receive := world.tasks.filterMap Task.waiting?

def targets (world : World) : List Nat := world.tasks.filterMap Task.target?

def wakes (world : World) : List Wake := world.tasks.filterMap Task.wake?

def drops (world : World) : List Nat := world.tasks.filterMap Task.drops?

def queue? (world : World) (number : Nat) : Option Queue := world.kernel.registry.queues[number]?

inductive Action where
  /-- A process makes a call. -/
  | call (call : Call)
  /-- A call in progress runs its next section. -/
  | advance (index : Nat)
  /-- A process writes to its own memory. -/
  | write (addr : Nat) (bytes : List UInt8)

/-- The calls in progress after a section, and who was blocked by it. -/
def settle (world : World) (index : Nat) (outcome : Outcome) : World :=
  { world with
    tasks := world.tasks.take index ++ outcome.task?.toList ++ world.tasks.drop (index + 1)
    blockedIn := fun pid =>
      match outcome.blocked? with
      | some receive => if receive.owner = pid then some receive else world.blockedIn pid
      | none => world.blockedIn pid }

def perform : Action → Op World Unit
  | .call call => modify fun world => { world with tasks := world.tasks ++ [.enter call] }
  | .advance index => do
    match (← get).tasks[index]? with
    | some task =>
      let outcome ← inside task.advance
      modify (·.settle index outcome)
    | none => pure ()
  | .write addr bytes => inside (modify (·.fill addr bytes))

/-- No process has two receives in progress: one that enters its receive has none. -/
def Legal (world : World) : Action → Prop
  | .advance index =>
    (world.tasks[index]?.any Task.startsReceive) = true → world.kernel.table.currentPid ∉ world.receivers
  | .call _ | .write _ _ => True

instance (world : World) (action : Action) : Decidable (world.Legal action) :=
  match action with
  | .advance index =>
    inferInstanceAs (Decidable ((world.tasks[index]?.any Task.startsReceive) = true →
      world.kernel.table.currentPid ∉ world.receivers))
  | .call _ | .write _ _ => inferInstanceAs (Decidable True)

/-- The process that an action makes known. -/
def begins? (world : World) : Action → Option Nat
  | .advance index =>
    (world.tasks[index]?.bind Task.spawns?).filter fun pid => !world.kernel.table.knows pid
  | .call _ | .write _ _ => none

/-- No pid is used again while a receive of an earlier process that had it is in progress. -/
structure Lawful (world : World) (action : Action) : Prop where
  legal : world.Legal action
  returned : ∀ pid ∈ world.begins? action, pid ∉ world.receivers

/-- Nor while the queue of such a process is still to be dropped. -/
structure Orderly (world : World) (action : Action) : Prop extends Lawful world action where
  dropped : ∀ pid ∈ world.begins? action, pid ∉ world.drops

instance (world : World) (action : Action) : Decidable (world.Lawful action) :=
  decidable_of_iff (world.Legal action ∧ ∀ pid ∈ world.begins? action, pid ∉ world.receivers)
    ⟨fun both => ⟨both.1, both.2⟩, fun lawful => ⟨lawful.legal, lawful.returned⟩⟩

instance (world : World) (action : Action) : Decidable (world.Orderly action) :=
  decidable_of_iff (world.Lawful action ∧ ∀ pid ∈ world.begins? action, pid ∉ world.drops)
    ⟨fun both => ⟨both.1, both.2⟩, fun orderly => ⟨orderly.toLawful, orderly.dropped⟩⟩

/-- No process, no queue and no call. -/
def start (heap : Heap) (space : UserSpace) (hooked : Bool) : World :=
  ⟨⟨heap, Registry.empty, { Table.empty with hooked }, space⟩, [], fun _ => none⟩

/-- The worlds that actions lead to which keep a rule. -/
inductive Led (rule : World → Action → Prop) (heap : Heap) (space : UserSpace) (hooked : Bool) : World → Prop
  | start : Led rule heap space hooked (start heap space hooked)
  | act {world after : World} {action : Action} {events : List Event} :
      Led rule heap space hooked world → rule world action →
      (perform action).run world = (events, .ok ((), after)) → Led rule heap space hooked after

/-- The worlds that legal actions lead to. -/
abbrev Reached (heap : Heap) (space : UserSpace) (hooked : Bool) (world : World) : Prop :=
  Led Legal heap space hooked world

/-- The world after a list of actions, when each keeps a rule and returns. -/
def followBy (rule : World → Action → Prop) [∀ world action, Decidable (rule world action)] (world : World) :
    List Action → Option World
  | [] => some world
  | action :: rest =>
    if rule world action then
      match (perform action).run world with
      | (_, .ok (_, after)) => after.followBy rule rest
      | (_, .error _) => none
    else none

/-- The world after a list of actions, when each is legal and returns. -/
abbrev follow (world : World) (actions : List Action) : Option World := world.followBy Legal actions

/-- The queue that a receive has found records that it waits there, whether or not the queue is still registered. -/
structure Recorded (world : World) (receive : Receive) : Prop where
  waiting : receive ∈ world.waiting
  recorded : ∃ queue, world.queue? receive.number = some queue ∧ queue.owner = receive.owner ∧
    queue.waiting = some receive.wait

/-- A receive waits at the queue that is registered for its owner, and that queue records it: a send to the owner
finds the wait. -/
structure Waits (world : World) (receive : Receive) : Prop where
  waiting : receive ∈ world.waiting
  registered : world.kernel.registry.number? receive.owner = some receive.number
  recorded : ∃ queue, world.kernel.registry.queueOf? receive.owner = some queue ∧ queue.waiting = some receive.wait

/-- A send has ended the wait of a receive and has yet to make its owner ready. -/
def Owes (world : World) (receive : Receive) : Prop :=
  ⟨receive.owner, receive.number, some receive.wait⟩ ∈ world.wakes

variable {world after : World} {heap : Heap} {space : UserSpace} {hooked : Bool}

theorem Led.mono {rule other : World → Action → Prop} (weaker : ∀ world action, rule world action → other world action)
    (led : Led rule heap space hooked world) : Led other heap space hooked world := by
  induction led with
  | start => exact .start
  | act _ keeps ran led => exact led.act (weaker _ _ keeps) ran

theorem Led.follow {rule : World → Action → Prop} [∀ world action, Decidable (rule world action)]
    {actions : List Action} (led : Led rule heap space hooked world)
    (ended : world.followBy rule actions = some after) : Led rule heap space hooked after := by
  induction actions generalizing world with
  | nil =>
    cases ended
    exact led
  | cons action rest ih =>
    rw [followBy] at ended
    split at ended
    · rename_i keeps
      split at ended
      · rename_i ran
        exact ih (led.act keeps ran) ended
      · cases ended
    · cases ended

end World

end Nucleus.Kernel
