import Nucleus.Messages.Queue
import Nucleus.Op
import Std.Data.TreeMap

/-! The queues of all processes. A queue is known by a number for as long as anyone holds it, also
after the registry has dropped it; the registry leads from a process to its queue's number. -/
namespace Nucleus.Messages

structure Registry where
  /-- Every queue ever made, by number. -/
  queues : Array Queue
  /-- The number of each registered owner's queue. -/
  numbers : Std.TreeMap Nat Nat

namespace Registry

def empty : Registry := ⟨#[], ∅⟩

def number? (registry : Registry) (owner : Nat) : Option Nat := registry.numbers[owner]?

/-- The queue registered for a process. -/
def queueOf? (registry : Registry) (owner : Nat) : Option Queue :=
  (registry.number? owner).bind (registry.queues[·]?)

def size (registry : Registry) : Nat := registry.numbers.size

/-- Gives a process a queue. One that is there already is kept. -/
def create (registry : Registry) (owner : Nat) : Nat × Registry :=
  match registry.number? owner with
  | some number => (number, registry)
  | none =>
    let number := registry.queues.size
    (number, ⟨registry.queues.push (Queue.ofOwner owner), registry.numbers.insert owner number⟩)

/-- Drops a process's queue, with its messages; the answer is the queue's number. -/
def destroy (registry : Registry) (owner : Nat) : Option Nat × Registry :=
  (registry.number? owner, { registry with numbers := registry.numbers.erase owner })

def openQueue (owner : Nat) : Op Registry Nat :=
  Op.locked .registry do
    let registry ← get
    if (registry.number? owner).isSome then
      Op.log .warn s!"[IPC] queue for pid {owner} already exists"
    modifyGet (·.create owner)

def dropQueue (owner : Nat) : Op Registry (Option Nat) :=
  Op.locked .registry (modifyGet (·.destroy owner))

def findQueue (owner : Nat) : Op Registry (Option Nat) :=
  Op.locked .registry (return (← get).number? owner)

/-- Changes a queue that is there. -/
def put (registry : Registry) (number : Nat) (queue : Queue) : Registry :=
  { registry with queues := registry.queues.setIfInBounds number queue }

/-- Works on one queue, with that queue locked. -/
def withQueue {α : Type} (number : Nat) (act : Queue → α × Queue) : Op Registry α :=
  Op.locked (.queue number) fun registry =>
    match registry.queues[number]? with
    | none => ([], .error .index)
    | some queue =>
      let (value, queue) := act queue
      ([], .ok (value, registry.put number queue))

end Registry

end Nucleus.Messages
