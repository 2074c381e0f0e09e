import Nucleus.Kernel.Dispatch

/-! What goes on in a kernel: processes are made, ended, placed, blocked and made ready, the processor is passed on,
and calls are made, in any order and as the answers suggest. While a receive waits others run, and their receives may
wait in turn. A property that operations have by their parts is followed from the sections of calls to all of this. -/
namespace Nucleus.Kernel
open Buddy Messages Processes Syscall

/-- Only processes that are `named` are made or ended. A receive that was left parked may run again at any time. -/
inductive Activity {σ : Type} [HasKernel σ] (named : Nat → Prop) : {α : Type} → Op σ α → Prop
  | pure {α : Type} (value : α) : Activity named (pure value)
  | bind {α β : Type} {op : Op σ α} {next : α → Op σ β} :
      Activity named op → (∀ value, Activity named (next value)) → Activity named (op >>= next)
  | spawn {pid : Nat} : named pid → Activity named (inside (spawnProcess pid))
  | exit {pid : Nat} : named pid → Activity named (inside (exitProcess pid))
  | switchTo (pid : Nat) : Activity named (inside (onTable (Scheduler.switchTo pid)))
  | block (pid : Nat) : Activity named (inside (onTable (Scheduler.block pid)))
  | unblock (pid : Nat) : Activity named (inside (onTable (Scheduler.unblock pid)))
  | yield : Activity named (inside (onTable Scheduler.yield))
  | call {ρ : Type} (refused : Option Allocation) (frame : Frame) {rounds : List (Op σ ρ)} :
      (∀ round ∈ rounds, Activity named round) → Activity named (dispatch refused rounds frame)
  | resume {ρ : Type} (number sender : Nat) (buffer : Buffer) {rounds : List (Op σ ρ)} :
      (∀ round ∈ rounds, Activity named round) → Activity named (receive number sender buffer rounds)

/-- A property that an operation has if its parts have it. -/
structure Compositional {σ : Type} (has : ∀ α : Type, Op σ α → Prop) : Prop where
  pure : ∀ {α : Type} (value : α), has α (pure value)
  bind : ∀ {α β : Type} {op : Op σ α} {next : α → Op σ β},
    has α op → (∀ value, has β (next value)) → has β (op >>= next)
  log : ∀ level text, has Unit (Op.log level text)

/-- A property of the sections that calls are made of. -/
structure Sectional (has : ∀ α : Type, Op Kernel α → Prop) : Prop extends Compositional has where
  get : has Kernel get
  currentPid : has Nat (onTable Scheduler.currentPid)
  knows : ∀ pid, has Bool (onTable (Scheduler.knows pid))
  unblock : ∀ pid, has Unit (onTable (Scheduler.unblock pid))
  yield : has Unit (onTable Scheduler.yield)
  findQueue : ∀ owner, has (Option Nat) (onRegistry (Registry.findQueue owner))
  post : ∀ number refused sender payload, has _ (post number refused sender payload)
  look : ∀ number sender buffer, has Look (look number sender buffer)
  allocate : ∀ size, has Nat (onHeap (Heap.allocateOrZero size))
  release : ∀ addr, has Unit (onHeap (Heap.releaseLocked addr))

section Calls
variable {σ ρ : Type} {has : ∀ α : Type, Op σ α → Prop}

/-- The reply to a call that failed, with the line it logs. -/
theorem Compositional.reply (whole : Compositional has) (level : Log.Level) (text : String) (reply : Int64) :
    has Int64 (Op.log level text >>= fun _ => Pure.pure reply) :=
  whole.bind (whole.log level text) fun _ => whole.pure reply

variable [HasKernel σ] {rounds : List (Op σ ρ)}

theorem Compositional.serveReceive (whole : Compositional has)
    (currentPid : has Nat (inside (onTable Scheduler.currentPid)))
    (findQueue : ∀ owner, has (Option Nat) (inside (onRegistry (Registry.findQueue owner))))
    (receives : ∀ number sender buffer, has _ (receive number sender buffer rounds)) (sender addr len : Nat) :
    has _ (serveReceive sender addr len rounds) := by
  refine whole.bind currentPid fun owner => whole.bind (findQueue owner) fun found => ?_
  cases found with
  | none => exact whole.bind (whole.reply _ _ _) fun _ => whole.pure _
  | some number =>
    dsimp only
    split
    · exact whole.bind (whole.reply _ _ _) fun _ => whole.pure _
    · refine whole.bind (receives number sender _) fun ended => ?_
      rcases ended with ⟨_ | _ | _, results, unused⟩
      · exact whole.pure _
      · exact whole.bind (whole.reply _ _ _) fun _ => whole.pure _
      · exact whole.pure _

end Calls

namespace Sectional
variable {has : ∀ α : Type, Op Kernel α → Prop} (parts : Sectional has)
include parts

theorem send (number : Nat) (refused : Option Allocation) (sender : Nat) (payload : List UInt8) :
    has _ (send number refused sender payload) := by
  refine parts.bind (parts.post number refused sender payload) fun result => ?_
  rcases result with error | ⟨_ | owner⟩
  · exact parts.pure _
  · exact parts.pure _
  refine parts.bind ?_ fun _ => parts.pure _
  refine parts.bind (parts.knows owner) fun known => ?_
  cases known with
  | true => exact parts.unblock owner
  | false => exact parts.log _ _

theorem serveSend (refused : Option Allocation) (target addr len : Nat) :
    has _ (serveSend refused target addr len) := by
  rw [Kernel.serveSend]
  split
  · exact parts.reply _ _ _
  refine parts.bind (parts.findQueue target) fun found => ?_
  cases found with
  | none => exact parts.reply _ _ _
  | some number =>
    refine parts.bind parts.currentPid fun sender => parts.bind parts.get fun kernel => ?_
    refine parts.bind (parts.send number refused sender _) fun result => ?_
    cases result with
    | ok => exact parts.pure _
    | error error => exact parts.reply _ _ _

theorem serveAlloc (size : Nat) : has _ (serveAlloc size) :=
  parts.bind (parts.allocate size) fun _ => parts.pure _

theorem serveFree (addr : Nat) : has _ (serveFree addr) :=
  parts.bind (parts.release addr) fun _ => parts.pure _

section Around
variable {σ ρ : Type} [HasKernel σ] {above : ∀ α : Type, Op σ α → Prop} (whole : Compositional above)
variable (lift : ∀ {α : Type} {op : Op Kernel α}, has α op → above α (inside op)) {rounds : List (Op σ ρ)}
include whole lift

/-- A receive has the property if what runs while it waits has it. -/
theorem receive (during : ∀ round ∈ rounds, above ρ round) (number sender : Nat) (buffer : Buffer) :
    above _ (receive number sender buffer rounds) := by
  induction rounds with
  | nil =>
    refine whole.bind (lift (parts.look number sender buffer)) fun looked => ?_
    cases looked with
    | delivered => exact whole.pure _
    | ownerGone => exact whole.pure _
    | blocked => exact whole.bind (lift parts.yield) fun _ => whole.pure _
  | cons round later ih =>
    refine whole.bind (lift (parts.look number sender buffer)) fun looked => ?_
    cases looked with
    | delivered => exact whole.pure _
    | ownerGone => exact whole.pure _
    | blocked =>
      refine whole.bind (lift parts.yield) fun _ => ?_
      refine whole.bind (during round List.mem_cons_self) fun _ => ?_
      exact whole.bind (ih fun next member => during next (List.mem_cons_of_mem round member)) fun _ => whole.pure _

theorem dispatch (during : ∀ round ∈ rounds, above ρ round) (refused : Option Allocation) (frame : Frame) :
    above _ (dispatch refused rounds frame) := by
  refine whole.bind ?_ fun served => whole.pure _
  rw [serve]
  split
  · exact whole.bind (lift (parts.serveAlloc _)) fun _ => whole.pure _
  · exact whole.bind (lift (parts.serveFree _)) fun _ => whole.pure _
  · exact whole.bind (lift (parts.serveSend _ _ _ _)) fun _ => whole.pure _
  · exact whole.serveReceive (lift parts.currentPid) (fun owner => lift (parts.findQueue owner))
      (parts.receive whole lift during) _ _ _
  · exact whole.bind (whole.log _ _) fun _ => whole.pure _

theorem activity {α : Type} {op : Op σ α} {named : Nat → Prop}
    (spawn : ∀ pid, named pid → has Bool (spawnProcess pid)) (exit : ∀ pid, named pid → has Bool (exitProcess pid))
    (switchTo : ∀ pid, has Bool (onTable (Scheduler.switchTo pid)))
    (block : ∀ pid, has Unit (onTable (Scheduler.block pid))) (activity : Activity named op) : above α op := by
  induction activity with
  | pure value => exact whole.pure value
  | bind _ _ first rest => exact whole.bind first rest
  | spawn may => exact lift (spawn _ may)
  | exit may => exact lift (exit _ may)
  | switchTo pid => exact lift (switchTo pid)
  | block pid => exact lift (block pid)
  | unblock pid => exact lift (parts.unblock pid)
  | yield => exact lift parts.yield
  | call refused frame _ during => exact parts.dispatch whole lift during refused frame
  | resume number sender buffer _ during => exact parts.receive whole lift during number sender buffer

end Around
end Sectional

end Nucleus.Kernel
