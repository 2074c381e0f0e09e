import Nucleus.Kernel.Dispatch

/-! Calls cut at the locks they take. Between two sections of a call the sections of others may run. -/
namespace Nucleus.Kernel
open Messages Processes Syscall

/-- A receive that has found its owner's queue. -/
structure Receive where
  owner : Nat
  number : Nat
  sender : Nat
  buffer : Buffer
deriving DecidableEq

/-- What it leaves with the queue while its bytes are missing. -/
def Receive.wait (receive : Receive) : Wait := ⟨receive.sender, receive.buffer.len⟩

/-- What a send owes once its message has ended a wait: the owner of the queue is to be made ready. -/
structure Wake where
  owner : Nat
  number : Nat
  /-- The wait that ended. -/
  wait : Option Wait
deriving DecidableEq

inductive Call where
  | send (refused : Option Allocation) (target addr len : Nat)
  | receive (sender addr len : Nat)
  | spawn (pid : Nat)
  | exit (pid : Nat)
  | switchTo (pid : Nat)
  | yield

inductive Reply where
  | value (value : Int64)
  | success (success : Bool)
  | nothing

/-- What is left of a call, from its next section on. -/
inductive Task where
  | enter (call : Call)
  | find (owner sender addr len : Nat)
  | look (receive : Receive)
  /-- Blocked, and about to give up the processor. -/
  | leave (receive : Receive)
  /-- Out of the processor; when it runs again it looks again. -/
  | parked (receive : Receive)
  | sign (refused : Option Allocation) (target number : Nat) (buffer : Buffer)
  | post (refused : Option Allocation) (target number sender : Nat) (buffer : Buffer)
  | lookUp (wake : Wake)
  | unblock (wake : Wake)
  | openQueue (pid : Nat)
  | dropQueue (pid : Nat)

inductive Outcome where
  | next (task : Task)
  | returned (reply : Reply)

namespace Task

def enterCall : Call → Op Kernel Outcome
  | .send refused target addr len => do
    match Buffer.ofRange addr len with
    | .error error => return .returned (.value (← refuseBuffer "send" error))
    | .ok buffer =>
      match ← onRegistry (Registry.findQueue target) with
      | none => return .returned (.value (← refuseTarget target))
      | some number => return .next (.sign refused target number buffer)
  | .receive sender addr len => do
    let owner ← onTable Scheduler.currentPid
    return .next (.find owner sender addr len)
  | .spawn pid => do
    if ← onTable (Scheduler.spawn pid) then return .next (.openQueue pid)
    else return .returned (.success false)
  | .exit pid => do
    if ← onTable (Scheduler.exit pid) then return .next (.dropQueue pid)
    else return .returned (.success false)
  | .switchTo pid => return .returned (.success (← onTable (Scheduler.switchTo pid)))
  | .yield => do
    onTable Scheduler.yield
    return .returned .nothing

def findOwn (owner sender addr len : Nat) : Op Kernel Outcome := do
  match ← onRegistry (Registry.findQueue owner) with
  | none => return .returned (.value (← refuseReceiver owner))
  | some number =>
    match Buffer.ofRange addr len with
    | .error error => return .returned (.value (← refuseBuffer "receive" error))
    | .ok buffer => return .next (.look ⟨owner, number, sender, buffer⟩)

def lookOnce (receive : Receive) : Op Kernel Outcome := do
  match ← Kernel.look receive.number receive.sender receive.buffer with
  | .delivered => return .returned (.value 1)
  | .blocked => return .next (.leave receive)
  | .ownerGone => return .returned (.value (← replyToGone receive.owner receive.sender))

def postOnce (refused : Option Allocation) (target number sender : Nat) (buffer : Buffer) :
    Op Kernel Outcome := do
  let kernel ← get
  match ← Kernel.post number refused sender (kernel.load buffer) with
  | .error error => return .returned (.value (← replyToSend sender target (.error error)))
  | .ok none => return .returned (.value 1)
  | .ok (some owner) =>
    return .next (.lookUp ⟨owner, number, kernel.registry.queues[number]?.bind Queue.waiting⟩)

/-- One section of a call; the outcome is what is left of it. -/
def advance : Task → Op Kernel Outcome
  | enter call => enterCall call
  | find owner sender addr len => findOwn owner sender addr len
  | look receive | parked receive => lookOnce receive
  | leave receive => do
    onTable Scheduler.yield
    return .next (.parked receive)
  | sign refused target number buffer => do
    let sender ← onTable Scheduler.currentPid
    return .next (.post refused target number sender buffer)
  | post refused target number sender buffer => postOnce refused target number sender buffer
  | lookUp wake => do
    if ← onTable (Scheduler.knows wake.owner) then return .next (.unblock wake)
    else
      reportGone wake.owner
      return .returned (.value 1)
  | unblock wake => do
    onTable (Scheduler.unblock wake.owner)
    return .returned (.value 1)
  | openQueue pid => do
    let _ ← onRegistry (Registry.openQueue pid)
    return .returned (.success true)
  | dropQueue pid => do
    let _ ← onRegistry (Registry.dropQueue pid)
    return .returned (.success true)

/-- Runs the sections of a call one right after the other, up to its reply or until it is parked. -/
def alone : (sections : Nat) → Task → Op Kernel (Option Reply)
  | 0, _ | _ + 1, parked _ => return none
  | sections + 1, task => do
    match ← task.advance with
    | .next task => alone sections task
    | .returned reply => return some reply

end Task

/-! ### Uncut calls -/

namespace Task

theorem alone_send (refused : Option Allocation) (target addr len : Nat) :
    alone 5 (enter (.send refused target addr len)) =
      (fun reply => some (Reply.value reply)) <$> serveSend refused target addr len := by
  cases valid : Buffer.ofRange addr len with
  | error error => simp [alone, advance, enterCall, serveSend, valid]
  | ok buffer =>
    simp only [alone, advance, enterCall, serveSend, valid, bind_assoc, map_bind]
    apply bind_congr
    intro found
    cases found with
    | none => simp
    | some number =>
      simp only [pure_bind, alone, advance, postOnce, bind_assoc, map_bind]
      apply bind_congr
      intro sender
      apply bind_congr
      intro kernel
      simp only [send, bind_assoc]
      apply bind_congr
      intro posted
      cases posted with
      | error error => simp
      | ok woken =>
        cases woken with
        | none => simp [replyToSend]
        | some owner =>
          simp only [pure_bind, wake, alone, advance, bind_assoc]
          apply bind_congr
          intro known
          cases known <;> simp [replyToSend, alone, advance]

/-- Work on a kernel that is the whole state needs no lifting. -/
theorem inside_kernel {α : Type} (op : Op Kernel α) : inside op = op := by
  funext kernel
  simp only [inside, Op.onPart, HasKernel.kernel, HasKernel.put, id]
  rcases op kernel with ⟨events, fault | ⟨value, after⟩⟩ <;> rfl

theorem alone_receive (sender addr len : Nat) :
    alone 4 (enter (.receive sender addr len)) =
      (fun served : Served Unit => served.reply.map Reply.value) <$>
        serveReceive (σ := Kernel) sender addr len [] := by
  simp only [alone, advance, enterCall, serveReceive, inside_kernel, bind_assoc, map_bind]
  apply bind_congr
  intro owner
  simp only [pure_bind, alone, advance, findOwn, bind_assoc]
  apply bind_congr
  intro found
  cases found with
  | none => simp [Served.at]
  | some number =>
    cases valid : Buffer.ofRange addr len with
    | error error => simp [Served.at]
    | ok buffer =>
      simp only [pure_bind, alone, advance, lookOnce, receive, inside_kernel, bind_assoc, map_bind]
      apply bind_congr
      intro looked
      cases looked <;> simp [alone, advance]

theorem alone_spawn (pid : Nat) :
    alone 2 (enter (.spawn pid)) = (fun spawned => some (Reply.success spawned)) <$> spawnProcess pid := by
  simp only [alone, advance, enterCall, spawnProcess, bind_assoc, map_bind]
  apply bind_congr
  intro spawned
  cases spawned <;> simp [alone, advance]

theorem alone_exit (pid : Nat) :
    alone 2 (enter (.exit pid)) = (fun left => some (Reply.success left)) <$> exitProcess pid := by
  simp only [alone, advance, enterCall, exitProcess, bind_assoc, map_bind]
  apply bind_congr
  intro left
  cases left <;> simp [alone, advance]

end Task

end Nucleus.Kernel
