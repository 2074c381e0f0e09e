import Mathlib.Data.List.Induction
import Nucleus.Kernel.Boot
import Nucleus.Proofs.Buddy.Unlocked
import Nucleus.Proofs.Interrupt.Masking
import Nucleus.Proofs.Kernel.Activities

/-! The locks of the kernel as its operations take and drop them. A watch over the locks lets an event pass that is in
order; every operation of the kernel passes it, whatever runs while a receive waits, if that passes it too. -/
namespace Nucleus
open Interrupt

/-- What an event says of a lock. -/
def Event.handling? : Event → Option (Handling Lock)
  | .took lock => some (.take lock)
  | .dropped lock => some (.drop lock)
  | _ => none

namespace Kernel
open Buddy Messages Processes Syscall

/-- The locks after some events that begin with all locks free, if each could be taken or dropped. -/
def locksAfter (enabled : Bool) (events : List Event) : Option (Locks Lock) :=
  (Locks.allFree enabled).follow (events.filterMap Event.handling?)

/-- Whether a lock may be taken under those held: any lock alone, and the table's under a queue's. -/
def nests : (held : List Lock) → Lock → Bool
  | [], _ => true
  | [.queue _], .table => true
  | _, _ => false

theorem nests_iff {held : List Lock} {lock : Lock} :
    nests held lock = true ↔ held = [] ∨ lock = .table ∧ ∃ number, held = [.queue number] := by
  rcases held with _ | ⟨_ | _ | _ | number, _ | ⟨second, rest⟩⟩ <;> cases lock <;> simp [nests]

variable {σ ρ α β : Type} {enabled : Bool}

/-- Entered with all locks free, an operation takes free locks only, one at a time except for the table's under a
queue's, and drops what it holds. It announces switches, and returns, with all locks free and interrupts as they were
on entry. -/
structure Orderly (enabled : Bool) (op : Op σ α) : Prop where
  took : ∀ state early lock late, (op.run state).1 = early ++ .took lock :: late →
    ∃ locks, locksAfter enabled early = some locks ∧ locks.holds lock = false ∧
      (locks.guards = [] ∨ lock = .table ∧ ∃ number, locks.guards.map Guard.lock = [.queue number])
  dropped : ∀ state early lock late, (op.run state).1 = early ++ .dropped lock :: late →
    ∃ locks, locksAfter enabled early = some locks ∧ locks.holds lock = true
  switched : ∀ state early previous next late, (op.run state).1 = early ++ .switched previous next :: late →
    locksAfter enabled early = some (Locks.allFree enabled)
  returned : ∀ state events value after, op.run state = (events, .ok (value, after)) →
    locksAfter enabled events = some (Locks.allFree enabled)

/-- Lets an event pass that is in order. -/
def lockWatch (enabled : Bool) : Watch (Locks Lock) := fun locks event =>
  match event with
  | .took lock => if nests (locks.guards.map Guard.lock) lock then locks.take lock else none
  | .dropped lock => locks.handle (.drop lock)
  | .switched _ _ => if locks = Locks.allFree enabled then some locks else none
  | .logged _ | .fetched _ | .stored _ _ | .committed _ => some locks

section Watch
variable {locks inner after : Locks Lock} {lock : Lock} {op : Op σ α}

theorem lockWatch_plain (event : Event) (plain : event.Plain) : lockWatch enabled locks event = some locks := by
  cases event <;> first | rfl | exact plain.elim

theorem lockWatch_took : lockWatch enabled locks (.took lock) = some inner ↔
    nests (locks.guards.map Guard.lock) lock = true ∧ locks.take lock = some inner := by
  rw [lockWatch, Option.ite_none_right_eq_some]

theorem follow_of_seen {events : List Event} (passed : (lockWatch enabled).seen locks events = some after) :
    locks.follow (events.filterMap Event.handling?) = some after := by
  induction events generalizing locks with
  | nil => exact passed
  | cons event rest ih =>
    obtain ⟨next, first, later⟩ := Option.bind_eq_some_iff.mp passed
    have followed := ih later
    cases event with
    | took lock =>
      exact Option.bind_eq_some_iff.mpr ⟨next, (lockWatch_took.mp first).2, followed⟩
    | dropped lock => exact Option.bind_eq_some_iff.mpr ⟨next, first, followed⟩
    | switched previous new =>
      rw [lockWatch, Option.ite_none_right_eq_some] at first
      obtain ⟨-, ⟨⟩⟩ := first
      exact followed
    | logged | fetched | stored | committed =>
      cases first
      exact followed

theorem Orderly.of_passes (passes : op.Passes (lockWatch enabled) (Locks.allFree enabled)) : Orderly enabled op where
  took state early lock late split := by
    obtain ⟨left, passed, -⟩ := passes state
    rw [split] at passed
    obtain ⟨locks, next, before, taken⟩ := Watch.seen_split passed
    obtain ⟨nested, taken⟩ := lockWatch_took.mp taken
    refine ⟨locks, follow_of_seen before, (Locks.take_eq_some.mp taken).1, ?_⟩
    rw [nests_iff, List.map_eq_nil_iff] at nested
    exact nested
  dropped state early lock late split := by
    obtain ⟨left, passed, -⟩ := passes state
    rw [split] at passed
    obtain ⟨locks, next, before, dropped⟩ := Watch.seen_split passed
    exact ⟨locks, follow_of_seen before, (Locks.handle_drop dropped).1⟩
  switched state early previous next late split := by
    obtain ⟨left, passed, -⟩ := passes state
    rw [split] at passed
    obtain ⟨locks, _, before, switched⟩ := Watch.seen_split passed
    rw [lockWatch, Option.ite_none_right_eq_some] at switched
    rw [← switched.1]
    exact follow_of_seen before
  returned state events value after ran := by
    obtain ⟨left, passed, back⟩ := passes state
    rw [ran] at passed back
    obtain rfl := back value after rfl
    exact follow_of_seen passed

/-- An operation in order passes, so what is made of such operations does. -/
theorem Orderly.passes (orderly : Orderly enabled op) : op.Passes (lockWatch enabled) (Locks.allFree enabled) := by
  intro state
  have prefixes : ∀ early late, (op.run state).1 = early ++ late → ∃ locks,
      (lockWatch enabled).seen (Locks.allFree enabled) early = some locks ∧
        locksAfter enabled early = some locks := by
    intro early
    induction early using List.reverseRecOn with
    | nil => exact fun _ _ => ⟨_, rfl, rfl⟩
    | append_singleton early event ih =>
      intro late split
      rw [List.append_assoc, List.singleton_append] at split
      obtain ⟨locks, passed, followed⟩ := ih (event :: late) split
      have goes : ∀ {next}, lockWatch enabled locks event = some next →
          (lockWatch enabled).seen (Locks.allFree enabled) (early ++ [event]) = some next := by
        intro next then_event
        rw [Watch.seen_append_of_some passed, Watch.seen_cons, then_event]
        rfl
      have next : ∃ next, lockWatch enabled locks event = some next := by
        cases event with
        | took lock =>
          obtain ⟨same, before, free, nested⟩ := orderly.took state early lock late split
          cases followed.symm.trans before
          refine ⟨_, lockWatch_took.mpr ⟨?_, Locks.take_eq_some.mpr ⟨free, rfl⟩⟩⟩
          rw [nests_iff, List.map_eq_nil_iff]
          exact nested
        | dropped lock =>
          obtain ⟨same, before, held⟩ := orderly.dropped state early lock late split
          cases followed.symm.trans before
          exact ⟨_, if_pos held⟩
        | switched previous new =>
          cases followed.symm.trans (orderly.switched state early previous new late split)
          exact ⟨_, if_pos rfl⟩
        | logged | fetched | stored | committed => exact ⟨locks, rfl⟩
      obtain ⟨next, then_event⟩ := next
      exact ⟨next, goes then_event, follow_of_seen (goes then_event)⟩
  obtain ⟨left, passed, followed⟩ := prefixes (op.run state).1 [] (List.append_nil _).symm
  refine ⟨left, passed, fun value after returned => ?_⟩
  have home := orderly.returned state _ value after (Prod.ext rfl returned)
  exact Option.some.inj (followed.symm.trans home)

/-! ### Sections under locks -/

/-- A lock that may be taken is held for the length of an operation, and all locks are then as they were. -/
theorem locked_passes (free : locks.holds lock = false) (nested : nests (locks.guards.map Guard.lock) lock = true)
    (passes : ∀ inner, locks.take lock = some inner → op.Passes (lockWatch enabled) inner) :
    (Op.locked lock op).Passes (lockWatch enabled) locks := by
  obtain ⟨inner, taken⟩ : ∃ inner, locks.take lock = some inner := ⟨_, Locks.take_eq_some.mpr ⟨free, rfl⟩⟩
  have held : inner.holds lock = true := by
    obtain ⟨-, rfl⟩ := Locks.take_eq_some.mp taken
    exact Locks.holds_iff.mpr ⟨_, List.mem_cons_self, rfl⟩
  have dropped : lockWatch enabled inner (.dropped lock) = some locks := by
    rw [← Locks.drop_take taken]
    exact if_pos held
  exact (passes inner taken).locked (lockWatch_took.mpr ⟨nested, taken⟩) dropped

/-- Where the table's lock may be taken: no lock is held, or a queue's alone. -/
def TableFree (locks : Locks Lock) : Prop :=
  locks.holds .table = false ∧ nests (locks.guards.map Guard.lock) .table = true

theorem TableFree.start : TableFree (Locks.allFree enabled) := ⟨rfl, rfl⟩

theorem TableFree.under_queue {number : Nat} (taken : (Locks.allFree enabled).take (.queue number) = some inner) :
    TableFree inner := by
  obtain ⟨-, rfl⟩ := Locks.take_eq_some.mp taken
  exact ⟨by simp [Locks.holds, Locks.allFree], rfl⟩

theorem table_passes {op : Op Table α} (free : TableFree locks)
    (unlocked : ∀ inner, op.Passes (lockWatch enabled) inner) :
    (onTable (Op.locked .table op)).Passes (lockWatch enabled) locks :=
  .onPart (locked_passes free.1 free.2 fun inner _ => unlocked inner)

theorem knows_passes (free : TableFree locks) (pid : Nat) :
    (onTable (Scheduler.knows pid)).Passes (lockWatch enabled) locks :=
  table_passes free fun _ => Op.Passes.get.map _

theorem block_passes (free : TableFree locks) (pid : Nat) :
    (onTable (Scheduler.block pid)).Passes (lockWatch enabled) locks :=
  table_passes free fun _ => .modifyGet _

end Watch

/-! ### The operations -/

/-- What an operation that is entered with all locks free passes. -/
abbrev Passing (enabled : Bool) (op : Op σ α) : Prop := op.Passes (lockWatch enabled) (Locks.allFree enabled)

/-- The switch is announced after the lock is dropped. -/
theorem yield_passing : Passing enabled (onTable Scheduler.yield) := by
  refine .onPart (Op.Passes.bind (locked_passes rfl rfl fun _ _ => .modifyGet _) ?_)
  rintro (_ | ⟨previous, next⟩)
  · exact .pure _
  · exact .emit (if_pos rfl)

theorem post_passing (number : Nat) (refused : Option Allocation) (sender : Nat) (payload : List UInt8) :
    Passing enabled (post number refused sender payload) := by
  refine .onPart (locked_passes rfl rfl fun inner _ => .silent fun registry => ?_)
  simp only [Op.run]
  split <;> rfl

theorem look_passing (number sender : Nat) (buffer : Buffer) : Passing enabled (look number sender buffer) := by
  refine locked_passes rfl rfl fun inner taken => ?_
  have free : TableFree inner := .under_queue taken
  refine Op.Passes.bind (.silent fun kernel => ?_) fun queue => ?_
  · simp only [queueAt, Op.run]
    split <;> rfl
  dsimp only
  split
  · exact (Op.Passes.modifyGet _).bind fun _ => (Op.Passes.modifyGet _).bind fun _ => .pure _
  refine (Op.Passes.modifyGet _).bind fun _ => (knows_passes free _).bind fun known => ?_
  cases known with
  | true => exact (block_passes free _).bind fun _ => .pure _
  | false => exact (Op.Passes.modifyGet _).bind fun _ => .pure _

theorem allocate_passing (size : Nat) : Passing enabled (onHeap (Heap.allocateOrZero size)) := by
  refine .onPart (Op.Passes.bind ?_ fun result => ?_)
  · exact locked_passes rfl rfl fun _ _ => Heap.allocate_passes lockWatch_plain size
  · cases result with
    | ok addr => exact .pure _
    | error error => exact (log_passes lockWatch_plain _ _).bind fun _ => .pure _

theorem spawnProcess_passing (pid : Nat) : Passing enabled (spawnProcess pid) := by
  refine (table_passes .start fun _ => .modifyGet _).bind fun spawned => ?_
  cases spawned with
  | false => exact .pure _
  | true =>
    refine Op.Passes.bind (.onPart (locked_passes rfl rfl fun inner _ => Op.Passes.get.bind fun registry => ?_))
      fun _ => .pure _
    split
    · exact (log_passes lockWatch_plain _ _).bind fun _ => .modifyGet _
    · exact .modifyGet _

theorem exitProcess_passing (pid : Nat) : Passing enabled (exitProcess pid) := by
  refine (table_passes .start fun _ => .modifyGet _).bind fun left => ?_
  cases left with
  | false => exact .pure _
  | true => exact Op.Passes.bind (.onPart (locked_passes rfl rfl fun _ _ => .modifyGet _)) fun _ => .pure _

theorem passing_whole : Compositional (σ := σ) fun _ op => Passing enabled op where
  pure := .pure
  bind := .bind
  log := log_passes lockWatch_plain

theorem passing_parts : Sectional fun _ op => Passing enabled op where
  toCompositional := passing_whole
  get := .get
  currentPid := table_passes .start fun _ => Op.Passes.get.map _
  knows := knows_passes .start
  unblock _ := table_passes .start fun _ => .modifyGet _
  yield := yield_passing
  findQueue _ := .onPart (locked_passes rfl rfl fun _ _ => Op.Passes.get.map _)
  post := post_passing
  look := look_passing
  allocate := allocate_passing
  release addr := .onPart (locked_passes rfl rfl fun _ _ => Heap.release_passes lockWatch_plain addr)

variable [HasKernel σ]

theorem Activity.passing {named : Nat → Prop} {op : Op σ α} (activity : Activity named op) : Passing enabled op :=
  passing_parts.activity passing_whole .onPart (fun pid _ => spawnProcess_passing pid)
    (fun pid _ => exitProcess_passing pid) (fun _ => table_passes .start fun _ => .modifyGet _)
    (block_passes .start) activity

/-- Whatever goes on in a kernel, from whatever state and up to a fault if it comes to one: a lock that is taken is
free, no lock is taken under another but the table's under a queue's, and switches are announced with all locks free
and interrupts as they were on entry. What is done next, and the rounds that run while a call or a parked receive
waits, are entered in the same way, so they may be anything that keeps to this itself. -/
theorem orderly_activities (enabled : Bool) :
    (∀ {α : Type} (named : Nat → Prop) (op : Op σ α), Activity named op → Orderly enabled op) ∧
    (∀ {α β : Type} (op : Op σ α) (next : α → Op σ β), Orderly enabled op →
      (∀ value, Orderly enabled (next value)) → Orderly enabled (op >>= next)) ∧
    ∀ {ρ : Type} (rounds : List (Op σ ρ)), (∀ round ∈ rounds, Orderly enabled round) →
      (∀ refused frame, Orderly enabled (dispatch refused rounds frame)) ∧
      ∀ number sender buffer, Orderly enabled (receive number sender buffer rounds) := by
  refine ⟨?_, ?_, ?_⟩
  · exact fun named op activity => .of_passes activity.passing
  · exact fun op next first rest => .of_passes (first.passes.bind fun value => (rest value).passes)
  · intro ρ rounds orderly
    have passing : ∀ round ∈ rounds, Passing enabled round := fun round member => (orderly round member).passes
    constructor
    · exact fun refused frame => .of_passes (passing_parts.dispatch passing_whole .onPart passing refused frame)
    · exact fun number sender buffer =>
        .of_passes (passing_parts.receive passing_whole .onPart passing number sender buffer)

/-- Process 2 sends a byte to process 1 and passes the processor on. -/
def answer : Op Kernel Unit := do
  let _ ← dispatch (σ := Kernel) (ρ := Unit) none [] ⟨0, Selector.send.number, 1, 0x1000, 1, 0, 0⟩
  inside (onTable Scheduler.yield)

/-- Process 1 waits for a byte of process 2. -/
def exchange : Op Kernel (Option Frame × List Unit × Nat) := do
  let _ ← inside (spawnProcess 1)
  let _ ← inside (spawnProcess 2)
  let _ ← inside (onTable (Scheduler.switchTo 1))
  dispatch none [answer] ⟨0, Selector.receive.number, 2, 0x2000, 1, 0, 0⟩

theorem exchange_activity : Activity (fun _ => True) exchange := by
  have answers : Activity (fun _ => True) answer := .bind (.call _ _ nofun) fun _ => .yield
  refine .bind (.spawn trivial) fun _ => .bind (.spawn trivial) fun _ => .bind (.switchTo 1) fun _ => ?_
  refine .call _ _ fun round member => ?_
  rw [List.mem_singleton.mp member]
  exact answers

/-- A kernel without processes that announces switches. -/
def announcing : Kernel := { Boot.kernel with table := { Table.empty with hooked := true } }

/-- The processor passes to process 2 and back, and is passed back with all locks free. -/
theorem exchange_switches_unlocked :
    (exchange.run announcing).1.filterMap Event.switch? = [(1, 2), (2, 1)] ∧
      ∃ early late, (exchange.run announcing).1 = early ++ .switched 2 1 :: late ∧
        locksAfter true early = some (Locks.allFree true) := by
  have switches : (exchange.run announcing).1.filterMap Event.switch? = [(1, 2), (2, 1)] := by decide +kernel
  have back : Event.switched 2 1 ∈ (exchange.run announcing).1 := by decide +kernel
  obtain ⟨early, late, split⟩ := List.append_of_mem back
  have orderly : Orderly true exchange := (orderly_activities true).1 _ exchange exchange_activity
  exact ⟨switches, early, late, split, orderly.switched announcing early 2 1 late split⟩

end Kernel
end Nucleus
