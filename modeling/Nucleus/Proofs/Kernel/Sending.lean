import Mathlib.Algebra.Group.Nat.Defs
import Nucleus.Proofs.Kernel.Receiving
import Nucleus.Proofs.Messages.Waking

/-! A send queues its message as a whole or leaves no trace, and it wakes nobody but the owner whose wait its message
ends. Of the registers a call changes `rax` alone. -/
namespace Nucleus

namespace Syscall.Buffer
variable {addr len : Nat}

/-- An empty buffer, or one that neither starts at 0 nor runs past the end of the address space. -/
def Valid (addr len : Nat) : Prop := len = 0 ∨ addr ≠ 0 ∧ len ≤ 2 ^ 63 - 1 ∧ addr + len < 2 ^ 64

theorem ofRange_valid (valid : Valid addr len) : ofRange addr len = .ok ⟨addr, len⟩ := by
  unfold ofRange
  split
  · rfl
  · rename_i filled
    obtain ⟨start, short, fits⟩ := valid.resolve_left filled
    apply if_neg
    simp only [Bool.or_eq_true, decide_eq_true_iff]
    unfold maxLen Word.bound
    omega

theorem ofRange_invalid (invalid : ¬Valid addr len) : ofRange addr len = .error .badBuffer := by
  unfold Valid at invalid
  unfold ofRange
  rw [if_neg fun empty => invalid (.inl empty)]
  apply if_pos
  simp only [Bool.or_eq_true, decide_eq_true_iff]
  unfold maxLen Word.bound
  omega

end Syscall.Buffer

namespace Processes.Table
variable {table : Table} {pid : Nat}

/-- A process is made ready and goes to the end of the line; nobody else is touched. -/
structure Readied (before : Table) (pid : Nat) (after : Table) : Prop where
  state : ∀ other, after.state? other = if pid = other then some .ready else before.state? other
  ready : after.ready = before.ready ++ [pid]
  current : after.current = before.current
  hooked : after.hooked = before.hooked

theorem unblock_blocked (blocked : table.Blocked pid) : table.Readied pid (table.unblock pid) := by
  have readied : table.unblock pid = (table.withState pid .ready).enqueue pid := if_pos blocked
  rw [readied]
  exact ⟨fun _ => state?_withState, rfl, rfl, rfl⟩

theorem unblock_unblocked (unblocked : ¬table.Blocked pid) : table.unblock pid = table := if_neg unblocked

end Processes.Table

namespace Kernel
open Messages Processes Syscall

variable {kernel before after : Kernel} {number target sender addr len : Nat} {queue : Queue} {payload : List UInt8}
variable {refused : Option Allocation}

/-- A message stands last in its queue. If with it the bytes are there that the owner waits for, the wait is over, and
an owner that is blocked is made ready. -/
structure Posted (before : Kernel) (number : Nat) (queue : Queue) (message : Message) (ends : Bool)
    (after : Kernel) : Prop where
  completes : ends = true ↔ queue.Completes message.sender message.payload
  placed : after.registry.queues[number]? = some
    ⟨queue.owner, queue.messages ++ [message], if ends then none else queue.waiting⟩
  others : ∀ other, other ≠ number → after.registry.queues[other]? = before.registry.queues[other]?
  numbers : after.registry.numbers = before.registry.numbers
  woken : ends = true ∧ before.table.Blocked queue.owner → before.table.Readied queue.owner after.table
  unwoken : ¬(ends = true ∧ before.table.Blocked queue.owner) → after.table = before.table
  heap : after.heap = before.heap
  space : after.space = before.space

/-- An owner that is gone is not blocked, so that there is nobody to make ready. -/
theorem wake_ends (owner : Nat) :
    Op.Ends (wake owner) kernel fun _ after => after = { kernel with table := kernel.table.unblock owner } := by
  apply Op.Ends.bind (knows_returns owner)
  rintro _ _ ⟨rfl, rfl⟩
  rename_i kernel
  cases known : kernel.table.knows owner with
  | true => exact .of_run rfl rfl
  | false =>
    have unblocked : ¬kernel.table.Blocked owner := by
      intro blocked
      rw [blocked.knows] at known
      cases known
    rw [Table.unblock_unblocked unblocked]
    exact .of_run rfl rfl

theorem send_refused_ends (there : kernel.registry.queues[number]? = some queue)
    (denied : Queue.refuses refused payload = true) :
    Op.Ends (send number refused sender payload) kernel fun result after =>
      result = .error .outOfMemory ∧ after = kernel := by
  apply Op.Ends.bind (withQueue_returns there)
  rintro _ _ ⟨rfl, rfl⟩
  simp only [Queue.enqueue_refused denied, Registry.put_same there]
  exact .pure ⟨rfl, rfl⟩

theorem Posted.of_put (message : Message) (ends : Bool) {table : Table}
    (there : kernel.registry.queues[number]? = some queue)
    (completes : ends = true ↔ queue.Completes message.sender message.payload)
    (woken : ends = true ∧ kernel.table.Blocked queue.owner → kernel.table.Readied queue.owner table)
    (unwoken : ¬(ends = true ∧ kernel.table.Blocked queue.owner) → table = kernel.table) :
    kernel.Posted number queue message ends { kernel with
      registry := kernel.registry.put number
        ⟨queue.owner, queue.messages ++ [message], if ends then none else queue.waiting⟩
      table } where
  completes := completes
  placed := Registry.queue_put_self there
  others _ apart := Registry.queue_put_other apart
  numbers := rfl
  woken := woken
  unwoken := unwoken
  heap := rfl
  space := rfl

theorem send_granted_ends (there : kernel.registry.queues[number]? = some queue)
    (granted : ¬Queue.refuses refused payload = true) :
    Op.Ends (send number refused sender payload) kernel fun result after =>
      result = .ok () ∧ ∃ ends, kernel.Posted number queue ⟨sender, payload⟩ ends after := by
  apply Op.Ends.bind (withQueue_returns there)
  rintro _ _ ⟨rfl, rfl⟩
  by_cases completes : queue.Completes sender payload
  · simp only [Queue.enqueue_completes granted completes]
    apply Op.Ends.bind (wake_ends queue.owner)
    rintro _ _ rfl
    have posted := Posted.of_put ⟨sender, payload⟩ true there (iff_of_true rfl completes)
      (fun woken => Table.unblock_blocked woken.2)
      (fun unwoken => Table.unblock_unblocked fun blocked => unwoken ⟨rfl, blocked⟩)
    exact .pure ⟨rfl, true, posted⟩
  · simp only [Queue.enqueue_appends granted completes]
    have posted := Posted.of_put ⟨sender, payload⟩ false there (iff_of_false Bool.false_ne_true completes)
      (fun woken => absurd woken.1 Bool.false_ne_true) (fun _ => rfl)
    exact .pure ⟨rfl, false, posted⟩

/-- The allocation that is refused is one that a message of this length makes. -/
def Denied (refused : Option Allocation) (len : Nat) : Prop :=
  refused = some .node ∨ refused = some .payload ∧ len ≠ 0

theorem refuses_load_iff {buffer : Buffer} :
    Queue.refuses refused (kernel.load buffer) = true ↔ Denied refused buffer.len := by
  rw [Queue.refuses_iff, Denied, ne_eq, ← List.length_eq_zero_iff, length_load]

/-- What a send of the current process comes to. -/
structure Sends (before : Kernel) (refused : Option Allocation) (target addr len : Nat) (rax : UInt64)
    (after : Kernel) : Prop where
  success : rax = 1 ↔
    Buffer.Valid addr len ∧ (before.registry.number? target).isSome = true ∧ ¬Denied refused len
  posted : rax = 1 → ∃ number queue ends, before.registry.number? target = some number ∧
    before.registry.queues[number]? = some queue ∧
    before.Posted number queue ⟨before.table.currentPid, before.load ⟨addr, len⟩⟩ ends after
  failed : rax ≠ 1 → rax = 0 ∧ after = before

theorem Sends.of_failed
    (failed : ¬(Buffer.Valid addr len ∧ (before.registry.number? target).isSome = true ∧ ¬Denied refused len)) :
    Sends before refused target addr len 0 before where
  success := iff_of_false (by decide) failed
  posted := fun succeeded => absurd succeeded (by decide)
  failed := fun _ => ⟨rfl, rfl⟩

theorem Sends.of_posted {ends : Bool} (valid : Buffer.Valid addr len)
    (found : before.registry.number? target = some number)
    (there : before.registry.queues[number]? = some queue) (granted : ¬Denied refused len)
    (posted : before.Posted number queue ⟨before.table.currentPid, before.load ⟨addr, len⟩⟩ ends after) :
    Sends before refused target addr len 1 after where
  success := by
    apply iff_of_true rfl
    rw [found]
    exact ⟨valid, rfl, granted⟩
  posted := fun _ => ⟨number, queue, ends, found, there, posted⟩
  failed := fun failed => absurd rfl failed

theorem serveSend_ends
    (leads : ∀ number, kernel.registry.number? target = some number → number < kernel.registry.queues.size) :
    Op.Ends (serveSend refused target addr len) kernel fun reply after =>
      Sends kernel refused target addr len reply.toUInt64 after := by
  by_cases valid : Buffer.Valid addr len
  case neg =>
    rw [serveSend, Buffer.ofRange_invalid valid]
    exact .of_run rfl (.of_failed fun succeeds => valid succeeds.1)
  rw [serveSend, Buffer.ofRange_valid valid]
  apply Op.Ends.bind (findQueue_returns target)
  rintro _ _ ⟨rfl, rfl⟩
  rename_i kernel
  cases found : kernel.registry.number? target with
  | none =>
    refine .of_run rfl (.of_failed fun succeeds => ?_)
    rw [found] at succeeds
    exact absurd succeeds.2.1 (by decide)
  | some number =>
    have there := Array.getElem?_eq_getElem (leads number found)
    apply Op.Ends.bind currentPid_returns
    rintro _ _ ⟨rfl, rfl⟩
    apply Op.Returns.get_bind
    by_cases denied : Denied refused len
    · apply Op.Ends.bind (send_refused_ends there (refuses_load_iff.mpr denied))
      rintro _ _ ⟨rfl, rfl⟩
      exact .of_run rfl (.of_failed fun succeeds => succeeds.2.2 denied)
    · apply Op.Ends.bind (send_granted_ends there fun refusal => denied (refuses_load_iff.mp refusal))
      rintro _ after ⟨rfl, ends, posted⟩
      exact .of_run rfl (.of_posted valid found there denied posted)

section Dispatch
variable {σ ρ : Type} [HasKernel σ] {state : σ} {rounds : List (Op σ ρ)} {frame : Frame}

theorem dispatch_send_ends (selected : frame.rdi = 11)
    (leads : ∀ number, (HasKernel.kernel state).registry.number? frame.rsi.toNat = some number →
      number < (HasKernel.kernel state).registry.queues.size) :
    Op.Ends (dispatch refused rounds frame) state fun served after => ∃ rax kernel,
      served = (some { frame with rax }, [], rounds.length) ∧ after = HasKernel.put kernel state ∧
        Sends (HasKernel.kernel state) refused frame.rsi.toNat frame.rdx.toNat frame.rcx.toNat rax kernel := by
  have number : Selector.ofNumber? frame.selector = some .send := by
    rw [Frame.selector, selected]
    rfl
  have serves : Op.Ends (serve refused rounds frame) state fun served after => ∃ reply kernel,
      served = .at reply rounds ∧ after = HasKernel.put kernel state ∧
        Sends (HasKernel.kernel state) refused frame.rsi.toNat frame.rdx.toNat frame.rcx.toNat
          reply.toUInt64 kernel := by
    rw [serve, number]
    apply Op.Ends.bind (Op.Ends.onPart (serveSend_ends leads))
    rintro reply _ ⟨kernel, rfl, sends⟩
    exact .pure ⟨reply, kernel, rfl, rfl, sends⟩
  apply Op.Ends.bind serves
  rintro _ _ ⟨reply, kernel, rfl, rfl, sends⟩
  exact .pure ⟨reply.toUInt64, kernel, rfl, rfl, sends⟩

/-- A call that returns has set `rax` and kept the other registers. -/
theorem dispatch_keeps_registers {events : List Event} {left : Option Frame} {results : List ρ} {unused : Nat}
    {after : σ} (ran : (dispatch refused rounds frame).run state = (events, .ok ((left, results, unused), after))) :
    ∀ returned ∈ left, returned = { frame with rax := returned.rax } := by
  obtain ⟨_, served, _, _, -, rest⟩ := Op.bind_ran ran
  cases rest
  intro returned there
  obtain ⟨reply, -, rfl⟩ := Option.map_eq_some_iff.mp there
  rfl

theorem dispatch_unknown (unknown : frame.rdi ∉ [4, 10, 11, 12]) :
    (dispatch refused rounds frame).run state =
      ([.logged ⟨.warn, s!"[SYSCALL] unknown selector {frame.rdi}"⟩],
        .ok ((some { frame with rax := (-38 : Int64).toUInt64 }, [], rounds.length), state)) := by
  have nobody : Selector.ofNumber? frame.selector = none := by
    simp only [List.mem_cons, List.not_mem_nil, or_false, not_or] at unknown
    simp [Selector.ofNumber?, Selector.all, Selector.number, Frame.selector, eq_comm, unknown]
  have served : (serve refused rounds frame).run state =
      ([.logged ⟨.warn, s!"[SYSCALL] unknown selector {frame.rdi}"⟩], .ok (.at notImplemented rounds, state)) := by
    rw [serve, nobody]
    rfl
  rw [dispatch, Op.run_bind_ok state served]
  rfl

/-- Where each registered number is that of a queue, as in every registry that has come about: a send returns 1
exactly if its buffer is valid, its target has a queue and no allocation that it makes is refused. Its message, with
the current process for its sender, then stands last in that queue; all other queues and, but for an owner whose wait
it ends, the processes are as before. Else the send returns 0 and everything is as before. No call changes a register
other than `rax`. One with an unknown selector returns -38 and does nothing but log a line. -/
theorem send_exact (refused : Option Allocation) (rounds : List (Op σ ρ)) (frame : Frame) (state : σ) :
    (frame.rdi = 11 →
      (∀ number, (HasKernel.kernel state).registry.number? frame.rsi.toNat = some number →
        number < (HasKernel.kernel state).registry.queues.size) →
      Op.Ends (dispatch refused rounds frame) state fun served after => ∃ rax kernel,
        served = (some { frame with rax }, [], rounds.length) ∧ after = HasKernel.put kernel state ∧
          Sends (HasKernel.kernel state) refused frame.rsi.toNat frame.rdx.toNat frame.rcx.toNat rax kernel) ∧
    (∀ events left results unused after,
      (dispatch refused rounds frame).run state = (events, .ok ((left, results, unused), after)) →
        ∀ returned ∈ left, returned = { frame with rax := returned.rax }) ∧
    (frame.rdi ∉ [4, 10, 11, 12] →
      (dispatch refused rounds frame).run state =
        ([.logged ⟨.warn, s!"[SYSCALL] unknown selector {frame.rdi}"⟩],
          .ok ((some { frame with rax := (-38 : Int64).toUInt64 }, [], rounds.length), state))) := by
  refine ⟨dispatch_send_ends, ?_, dispatch_unknown⟩
  intro events left results unused after ran
  exact dispatch_keeps_registers ran

end Dispatch

/-- Process 1 is blocked until three bytes of process 2 are queued, and one is. Process 2 runs. -/
def shortOfTwo : Kernel :=
  { Boot.kernel with
    registry := (Registry.empty.create 1).2.put 0 ⟨1, [⟨2, [170]⟩], some ⟨2, 3⟩⟩
    table := Table.empty.changed [.spawn 1, .spawn 2, .switchTo 1, .block 1, .yield] }

/-- Process 2 sends the two bytes that are missing. -/
theorem missing_bytes_wake :
    Op.Ends (dispatch (σ := Kernel) (ρ := Unit) none [] ⟨0, 11, 1, 4096, 2, 0, 0⟩) shortOfTwo fun served after =>
      served = (some ⟨1, 11, 1, 4096, 2, 0, 0⟩, [], 0) ∧
        after.registry.queues[0]? = some ⟨1, [⟨2, [170]⟩, ⟨2, [0, 0]⟩], none⟩ ∧
        after.table.ready = [1] ∧ after.table.state? 1 = some .ready := by
  have number : shortOfTwo.registry.number? 1 = some 0 := by decide +kernel
  have blocked : shortOfTwo.table.Blocked 1 := by
    unfold Table.Blocked
    decide +kernel
  have leads : ∀ number, shortOfTwo.registry.number? 1 = some number →
      number < shortOfTwo.registry.queues.size := by
    intro other found
    cases number.symm.trans found
    decide +kernel
  obtain ⟨send, -, -⟩ := send_exact (ρ := Unit) none [] ⟨0, 11, 1, 4096, 2, 0, 0⟩ shortOfTwo
  refine (send rfl leads).mono ?_
  rintro _ after ⟨rax, _, rfl, rfl, sends⟩
  have served : rax = 1 := by
    refine sends.success.mpr ⟨.inr (by decide), ?_, by simp [Denied]⟩
    change (shortOfTwo.registry.number? 1).isSome = true
    rw [number]
    rfl
  obtain ⟨found, queue, ends, registered, there, posted⟩ := sends.posted served
  cases number.symm.trans registered
  have same : queue = ⟨1, [⟨2, [170]⟩], some ⟨2, 3⟩⟩ := by
    have first : shortOfTwo.registry.queues[0]? = some ⟨1, [⟨2, [170]⟩], some ⟨2, 3⟩⟩ := by decide +kernel
    exact Option.some.inj (there.symm.trans first)
  subst same
  have sender : shortOfTwo.table.currentPid = 2 := by decide +kernel
  have payload : shortOfTwo.load ⟨4096, 2⟩ = [0, 0] := by decide +kernel
  change shortOfTwo.Posted 0 _ ⟨shortOfTwo.table.currentPid, shortOfTwo.load ⟨4096, 2⟩⟩ ends after at posted
  rw [sender, payload] at posted
  have ended : ends = true := posted.completes.mpr ⟨3, rfl, by decide⟩
  subst ended
  have woken := posted.woken ⟨rfl, blocked⟩
  have line : shortOfTwo.table.ready = [] := by decide +kernel
  subst served
  refine ⟨rfl, posted.placed, ?_, ?_⟩
  · exact woken.ready.trans (congrArg (· ++ [1]) line)
  · exact (woken.state 1).trans (if_pos rfl)

end Kernel
end Nucleus
