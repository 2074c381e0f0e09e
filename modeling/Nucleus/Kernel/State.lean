import Nucleus.Buddy.FrontEnd
import Nucleus.Messages.Registry
import Nucleus.Processes.Scheduler
import Nucleus.Syscall.Buffer

/-! Everything a system call can reach: the heap, the queues, the processes, and the memory that user
buffers lie in. -/
namespace Nucleus
open Buddy Messages Processes Syscall

/-- Where user buffers lie: in the heap window's own memory, one address space for all, or in a memory
apart from it. -/
inductive UserSpace where
  | flat
  | apart (memory : Memory)

structure Kernel where
  heap : Heap
  registry : Registry
  table : Table
  space : UserSpace

/-- A state that has a kernel as a part: what goes on around a call may know more than the kernel. -/
class HasKernel (σ : Type) where
  kernel : σ → Kernel
  put : Kernel → σ → σ

instance : HasKernel Kernel := ⟨id, fun kernel _ => kernel⟩

namespace Kernel
variable {α : Type}

/-- Runs an operation on the kernel inside a larger state. -/
def inside {σ : Type} [HasKernel σ] (op : Op Kernel α) : Op σ α :=
  Op.onPart HasKernel.kernel HasKernel.put op

def onHeap (op : Op Heap α) : Op Kernel α :=
  Op.onPart heap (fun heap kernel => { kernel with heap }) op

def onRegistry (op : Op Registry α) : Op Kernel α :=
  Op.onPart registry (fun registry kernel => { kernel with registry }) op

def onTable (op : Op Table α) : Op Kernel α :=
  Op.onPart table (fun table kernel => { kernel with table }) op

/-- The bytes of a user buffer. -/
def load (kernel : Kernel) (buffer : Buffer) : List UInt8 :=
  match kernel.space with
  | .flat => kernel.heap.window.memory.read buffer.addr buffer.len
  | .apart memory => memory.read buffer.addr buffer.len

/-- Writes bytes from a user address on. -/
def fill (kernel : Kernel) (addr : Nat) (bytes : List UInt8) : Kernel :=
  match kernel.space with
  | .flat =>
    let window := kernel.heap.window
    { kernel with
      heap := { kernel.heap with window := { window with memory := window.memory.write addr bytes } } }
  | .apart memory => { kernel with space := .apart (memory.write addr bytes) }

/-- Makes a process known and gives it an empty queue. -/
def spawnProcess (pid : Nat) : Op Kernel Bool := do
  if ← onTable (Scheduler.spawn pid) then
    let _ ← onRegistry (Registry.openQueue pid)
    return true
  else return false

/-- Forgets a process and drops its queue with any unread messages. -/
def exitProcess (pid : Nat) : Op Kernel Bool := do
  if ← onTable (Scheduler.exit pid) then
    let _ ← onRegistry (Registry.dropQueue pid)
    return true
  else return false

end Kernel

end Nucleus
