import Nucleus.Kernel.State

/-! Sending and receiving. A send queues its message under the queue's lock and wakes the owner
afterwards. A receive looks at the queue under its lock and either takes all its bytes or records what
it waits for and blocks its owner; it gives up the processor with the lock dropped, and looks again
when it runs again. -/
namespace Nucleus.Kernel
open Buddy Messages Processes Syscall

/-- The locked part of a send; the answer names the owner to wake, if the message ends its wait. -/
def post (number : Nat) (refused : Option Allocation) (sender : Nat) (payload : List UInt8) :
    Op Kernel (Except MessageError (Option Nat)) :=
  onRegistry <| Registry.withQueue number fun queue =>
    match queue.enqueue refused sender payload with
    | (.ok true, queue) => (.ok (some queue.owner), queue)
    | (.ok false, queue) => (.ok none, queue)
    | (.error error, queue) => (.error error, queue)

def reportGone (owner : Nat) : Op Kernel Unit :=
  Op.log .warn s!"[IPC] owner {owner} of woken queue is gone"

/-- Makes the owner of a queue ready again. Its message is queued either way. -/
def wake (owner : Nat) : Op Kernel Unit := do
  if ← onTable (Scheduler.knows owner) then onTable (Scheduler.unblock owner)
  else reportGone owner

def send (number : Nat) (refused : Option Allocation) (sender : Nat) (payload : List UInt8) :
    Op Kernel (Except MessageError Unit) := do
  match ← post number refused sender payload with
  | .error error => return .error error
  | .ok none => return .ok ()
  | .ok (some owner) =>
    wake owner
    return .ok ()

/-- How one look of a receive at its queue ends. -/
inductive Look where
  | delivered
  /-- The owner is blocked until enough is queued. -/
  | blocked
  | ownerGone
deriving DecidableEq, Repr

def queueAt (number : Nat) : Op Kernel Queue := fun kernel =>
  match kernel.registry.queues[number]? with
  | some queue => ([], .ok (queue, kernel))
  | none => ([], .error .index)

def putQueue (number : Nat) (queue : Queue) : Op Kernel Unit :=
  modify fun kernel => { kernel with registry := kernel.registry.put number queue }

/-- One look, with the queue locked throughout. The owner is blocked before the lock is dropped, so a
send that comes next sees the wait and wakes it. -/
def look (number sender : Nat) (buffer : Buffer) : Op Kernel Look :=
  Op.locked (.queue number) do
    let queue ← queueAt number
    if queue.offers sender buffer.len then
      let (bytes, queue) := queue.endWait.take sender buffer.len
      putQueue number queue
      modify (·.fill buffer.addr bytes)
      return .delivered
    putQueue number (queue.await sender buffer.len)
    if ← onTable (Scheduler.knows queue.owner) then
      onTable (Scheduler.block queue.owner)
      return .blocked
    putQueue number queue.endWait
    return .ownerGone

/-- How a receive ends. A parked one never got its owner the processor back. -/
inductive Received where
  | delivered
  | ownerGone
  | parked
deriving DecidableEq, Repr

/-- A receive among other activity: each time its owner has given up the processor, one of `rounds`
runs before the owner does; with none left the receive stays parked. Returns the results of the rounds
that ran and how many were left. -/
def receive {σ ρ : Type} [HasKernel σ] (number sender : Nat) (buffer : Buffer) :
    (rounds : List (Op σ ρ)) → Op σ (Received × List ρ × Nat)
  | [] => do
    match ← inside (look number sender buffer) with
    | .delivered => return (.delivered, [], 0)
    | .ownerGone => return (.ownerGone, [], 0)
    | .blocked =>
      inside (onTable Scheduler.yield)
      return (.parked, [], 0)
  | round :: later => do
    match ← inside (look number sender buffer) with
    | .delivered => return (.delivered, [], later.length + 1)
    | .ownerGone => return (.ownerGone, [], later.length + 1)
    | .blocked =>
      inside (onTable Scheduler.yield)
      let result ← round
      let (outcome, results, left) ← receive number sender buffer later
      return (outcome, result :: results, left)

end Nucleus.Kernel
