import Nucleus.Kernel.Transfer
import Nucleus.Syscall.Frame

/-! System calls: the selector in the frame names the service, the reply goes to `rax`. -/
namespace Nucleus.Kernel
open Buddy Messages Processes Syscall

/-- The payload's address, or 0 when the heap has no block for it. -/
def serveAlloc (size : Nat) : Op Kernel Int64 := do
  return Int64.ofNat (← onHeap (Heap.allocateOrZero size))

/-- Always 1: addresses the heap never handed out are dropped there. -/
def serveFree (addr : Nat) : Op Kernel Int64 := do
  onHeap (Heap.releaseLocked addr)
  return 1

section Replies
variable {σ : Type}

def refuseBuffer (call : String) (error : MessageError) : Op σ Int64 := do
  let message := Coded.message error
  Op.log .warn s!"[SYSCALL] {call}: {message}"
  return 0

def refuseTarget (target : Nat) : Op σ Int64 := do
  Op.log .debug s!"[SYSCALL] send: no queue for pid {target}"
  return 0

def replyToSend (sender target : Nat) : Except MessageError Unit → Op σ Int64
  | .ok () => return 1
  | .error error => do
    let message := Coded.message error
    Op.log .warn s!"[SYSCALL] send {sender} -> {target}: {message}"
    return 0

def refuseReceiver (owner : Nat) : Op σ Int64 := do
  Op.log .warn s!"[SYSCALL] receive: pid {owner} has no queue"
  return 0

def replyToGone (owner sender : Nat) : Op σ Int64 := do
  let message := Coded.message MessageError.noSuchProcess
  Op.log .warn s!"[SYSCALL] receive {owner} <- {sender}: {message}"
  return 0

end Replies

/-- Queues a buffer's bytes for `target` in the name of the current process: 1, or 0 for a bad buffer,
an unknown target, or no memory for the copy. -/
def serveSend (refused : Option Allocation) (target addr len : Nat) : Op Kernel Int64 := do
  match Buffer.ofRange addr len with
  | .error error => refuseBuffer "send" error
  | .ok buffer =>
    match ← onRegistry (Registry.findQueue target) with
    | none => refuseTarget target
    | some number =>
      let sender ← onTable Scheduler.currentPid
      let payload := (← get).load buffer
      replyToSend sender target (← send number refused sender payload)

/-- What a call came to: its reply, or nothing when the caller is left parked; then the results of the
rounds that ran while it waited and how many were left. -/
structure Served (ρ : Type) where
  reply : Option Int64
  results : List ρ
  unused : Nat

variable {σ ρ : Type} [HasKernel σ]

def Served.at (reply : Int64) (rounds : List (Op σ ρ)) : Served ρ :=
  ⟨some reply, [], rounds.length⟩

/-- Fills a buffer of the current process with bytes from `sender`, blocking until all are there: 1, or
0 for a caller without a queue, a bad buffer, or a caller that is gone. -/
def serveReceive (sender addr len : Nat) (rounds : List (Op σ ρ)) : Op σ (Served ρ) := do
  let owner ← inside (onTable Scheduler.currentPid)
  match ← inside (onRegistry (Registry.findQueue owner)) with
  | none => return .at (← refuseReceiver owner) rounds
  | some number =>
    match Buffer.ofRange addr len with
    | .error error => return .at (← refuseBuffer "receive" error) rounds
    | .ok buffer =>
      match ← receive number sender buffer rounds with
      | (.delivered, results, unused) => return ⟨some 1, results, unused⟩
      | (.ownerGone, results, unused) =>
        return ⟨some (← replyToGone owner sender), results, unused⟩
      | (.parked, results, unused) => return ⟨none, results, unused⟩

/-- Serves one frame. `refused` is the allocation the system denies a send, if any; `rounds` is what
others do while a receive of this call waits. -/
def serve (refused : Option Allocation) (rounds : List (Op σ ρ)) (frame : Frame) :
    Op σ (Served ρ) := do
  let first := frame.rsi.toNat
  let second := frame.rdx.toNat
  let third := frame.rcx.toNat
  match Selector.ofNumber? frame.selector with
  | some .alloc => return .at (← inside (serveAlloc first)) rounds
  | some .free => return .at (← inside (serveFree first)) rounds
  | some .send => return .at (← inside (serveSend refused first second third)) rounds
  | some .receive => serveReceive first second third rounds
  | none =>
    let selector := frame.selector
    Op.log .warn s!"[SYSCALL] unknown selector {selector}"
    return .at notImplemented rounds

/-- A call as the trap sees it: the frame with the reply in place, or nothing while the caller is
parked; then the results of the rounds that ran and how many were left. -/
def dispatch (refused : Option Allocation) (rounds : List (Op σ ρ)) (frame : Frame) :
    Op σ (Option Frame × List ρ × Nat) := do
  let served ← serve refused rounds frame
  return (served.reply.map frame.withReply, served.results, served.unused)

/-- Whether a receive would wait with nobody to run in the meantime: its bytes are not there, and its
owner does not run or no other process is ready. -/
def wouldStall (kernel : Kernel) (frame : Frame) : Bool :=
  let owner := kernel.table.currentPid
  match Selector.ofNumber? frame.selector, Buffer.ofRange frame.rdx.toNat frame.rcx.toNat,
      kernel.registry.queueOf? owner with
  | some .receive, .ok buffer, some queue =>
    !buffer.isEmpty && !queue.offers frame.rsi.toNat buffer.len && kernel.table.knows owner &&
      !(kernel.table.state? owner = some .running && kernel.table.ready.any (· ≠ owner))
  | _, _, _ => false

end Nucleus.Kernel
