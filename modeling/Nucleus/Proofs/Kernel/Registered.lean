import Nucleus.Proofs.Kernel.Lifecycle
import Nucleus.Proofs.Kernel.Reuse

/-! Whose queue is registered while calls are cut at their locks. A process ends in two sections, one that forgets it and
one that drops its queue; another begins in two, one that makes it known and one that gives it a queue unless its pid has
one. While no pid is used again between the two sections that end its process, every receive of a known process is at
the queue registered for it, and no wake-up is lost. Otherwise a new process may wait where no send looks. -/
namespace Nucleus.Kernel
open Buddy Messages Processes Syscall

variable {kernel before after : Kernel} {events : List Event} {task : Task} {outcome : Outcome}

/-! ### Who comes and goes by a section -/

/-- Whatever the operation returns, nobody has come or gone and no queue is left to be dropped. -/
def Settles (op : Op Kernel Outcome) : Prop :=
  ∀ kernel events outcome after, op.run kernel = (events, .ok (outcome, after)) →
    Stays kernel after ∧ outcome.task?.bind Task.drops? = none

namespace Settles
variable {α : Type}

theorem pure {outcome : Outcome} (undropped : outcome.task?.bind Task.drops? = none) :
    Settles (Pure.pure outcome) := by
  intro kernel events value after ran
  cases ran
  exact ⟨Stays.lasting.refl kernel, undropped⟩

theorem bind {op : Op Kernel α} {next : α → Op Kernel Outcome} (first : op.Leaves Stays)
    (rest : ∀ value, Settles (next value)) : Settles (op >>= next) := by
  intro kernel events outcome after ran
  obtain ⟨_, value, middle, _, ran_first, ran_rest⟩ := Op.bind_ran ran
  obtain ⟨stays, undropped⟩ := rest value middle _ outcome after ran_rest
  exact ⟨Stays.lasting.trans (first kernel _ value middle ran_first) stays, undropped⟩

/-- A call that ends with a line in the log. -/
theorem reply {level : Log.Level} {text : String} {reply : Int64} : Settles do
    let value ← (do Op.log level text; return reply : Op Kernel Int64)
    return .returned (.value value) :=
  bind (Stays.parts.reply level text reply) fun _ => pure rfl

theorem findOwn (owner sender addr len : Nat) : Settles (Task.findOwn owner sender addr len) := by
  refine bind (Stays.parts.findQueue owner) fun found => ?_
  cases found with
  | none => exact reply
  | some number =>
    dsimp only
    split
    · exact reply
    · exact pure rfl

theorem lookOnce (receive : Receive) : Settles (Task.lookOnce receive) := by
  refine bind (Stays.parts.look _ _ _) fun looked => ?_
  cases looked with
  | delivered => exact pure rfl
  | blocked => exact pure rfl
  | ownerGone => exact reply

theorem postOnce (refused : Option Allocation) (target number sender : Nat) (buffer : Buffer) :
    Settles (Task.postOnce refused target number sender buffer) := by
  refine bind Stays.parts.get fun kernel => bind (Stays.parts.post _ _ _ _) fun posted => ?_
  rcases posted with error | ⟨_ | owner⟩
  · exact reply
  · exact pure rfl
  · exact pure rfl

theorem enterSend (refused : Option Allocation) (target addr len : Nat) :
    Settles (Task.enterCall (.send refused target addr len)) := by
  rw [Task.enterCall]
  split
  · exact reply
  refine bind (Stays.parts.findQueue target) fun found => ?_
  cases found with
  | none => exact reply
  | some number => exact pure rfl

end Settles

/-- What a section does to who is known and whose queue is registered. -/
inductive Comes (before : Kernel) : Task → Outcome → Kernel → Prop
  | nobody {task : Task} {outcome : Outcome} {after : Kernel} :
      Stays before after → outcome.task?.bind Task.drops? = none → Comes before task outcome after
  | begins {pid : Nat} : before.table.knows pid = false →
      Comes before (.enter (.spawn pid)) (.next (.openQueue pid))
        { before with table := (before.table.spawn pid).2 }
  | leaves {pid : Nat} :
      Comes before (.enter (.exit pid)) (.next (.dropQueue pid))
        { before with table := (before.table.exit pid).2 }
  | opens {pid : Nat} {reply : Reply} :
      Comes before (.openQueue pid) (.returned reply)
        { before with registry := (before.registry.create pid).2 }
  | drops {pid : Nat} {reply : Reply} :
      Comes before (.dropQueue pid) (.returned reply)
        { before with registry := (before.registry.destroy pid).2 }

theorem Settles.comes {op : Op Kernel Outcome} (settles : Settles op)
    (ran : op.run kernel = (events, .ok (outcome, after))) : Comes kernel task outcome after :=
  .nobody (settles kernel events outcome after ran).1 (settles kernel events outcome after ran).2

theorem enterSpawn_comes (pid : Nat) :
    Op.Ends (Task.enterCall (.spawn pid)) kernel (Comes kernel (.enter (.spawn pid))) := by
  apply Op.Ends.bind (table_returns (·.spawn pid))
  rintro _ _ ⟨rfl, rfl⟩
  rw [Table.spawn_fst]
  cases known : kernel.table.knows pid with
  | true =>
    rw [Table.spawn_snd_of_knows known]
    exact .pure (.nobody (Stays.lasting.refl kernel) rfl)
  | false => exact .pure (.begins known)

theorem enterExit_comes (pid : Nat) :
    Op.Ends (Task.enterCall (.exit pid)) kernel (Comes kernel (.enter (.exit pid))) := by
  apply Op.Ends.bind (table_returns (·.exit pid))
  rintro _ _ ⟨rfl, rfl⟩
  rw [Table.exit_fst]
  cases known : kernel.table.knows pid with
  | true => exact .pure .leaves
  | false =>
    rw [Table.exit_snd_of_unknown (by simp [known])]
    exact .pure (.nobody (Stays.lasting.refl kernel) rfl)

theorem advance_comes (ran : task.advance.run kernel = (events, .ok (outcome, after))) :
    Comes kernel task outcome after := by
  cases task with
  | enter call =>
    cases call with
    | send refused target addr len => exact (Settles.enterSend refused target addr len).comes ran
    | receive sender addr len =>
      have settles : Settles (Task.enterCall (.receive sender addr len)) :=
        .bind Stays.parts.currentPid fun _ => .pure rfl
      exact settles.comes ran
    | spawn pid => exact (enterSpawn_comes pid).ran ran
    | exit pid => exact (enterExit_comes pid).ran ran
    | switchTo pid =>
      have settles : Settles (Task.enterCall (.switchTo pid)) :=
        .bind (table_stays fun _ => .switchTo) fun _ => .pure rfl
      exact settles.comes ran
    | yield =>
      have settles : Settles (Task.enterCall .yield) := .bind Stays.parts.yield fun _ => .pure rfl
      exact settles.comes ran
  | find owner sender addr len => exact (Settles.findOwn owner sender addr len).comes ran
  | look receive => exact (Settles.lookOnce receive).comes ran
  | leave receive =>
    have settles : Settles (Task.leave receive).advance := .bind Stays.parts.yield fun _ => .pure rfl
    exact settles.comes ran
  | parked receive => exact (Settles.lookOnce receive).comes ran
  | sign refused target number buffer =>
    have settles : Settles (Task.sign refused target number buffer).advance :=
      .bind Stays.parts.currentPid fun _ => .pure rfl
    exact settles.comes ran
  | post refused target number sender buffer =>
    exact (Settles.postOnce refused target number sender buffer).comes ran
  | lookUp wake =>
    have settles : Settles (Task.lookUp wake).advance := by
      refine .bind (Stays.parts.knows wake.owner) fun known => ?_
      cases known with
      | true => exact .pure rfl
      | false => exact .bind (Stays.parts.log _ _) fun _ => .pure rfl
    exact settles.comes ran
  | unblock wake =>
    have settles : Settles (Task.unblock wake).advance :=
      .bind (Stays.parts.unblock wake.owner) fun _ => .pure rfl
    exact settles.comes ran
  | openQueue pid =>
    have opens : Op.Ends (Task.openQueue pid).advance kernel (Comes kernel (.openQueue pid)) := by
      apply Op.Ends.bind (openQueue_returns pid)
      rintro _ _ rfl
      exact .pure .opens
    exact opens.ran ran
  | dropQueue pid =>
    cases ran
    exact .drops

/-! ### Whose receives are at their queue -/

namespace World
variable {world now : World} {others : List Task} {action : Action} {receive : Receive} {pid : Nat}
variable {heap : Heap} {space : UserSpace} {hooked : Bool}

/-- A process is unknown while its queue is still to be dropped, and the receives of a known one are at its queue. -/
structure Registered (world : World) : Prop where
  ordered : world.kernel.table.InOrder
  unknown : ∀ pid ∈ world.drops, world.kernel.table.knows pid = false
  registered : ∀ receive ∈ world.receives, world.kernel.table.knows receive.owner = true →
    world.kernel.registry.number? receive.owner = some receive.number

/-- What is to be shown of the kernel after a section. -/
theorem Ran.registered_of (ran : Ran world task outcome others now) (ordered : now.kernel.table.InOrder)
    (dropped : ∀ pid ∈ world.drops, now.kernel.table.knows pid = false)
    (drops : ∀ pid, outcome.task?.bind Task.drops? = some pid → now.kernel.table.knows pid = false)
    (received : ∀ receive ∈ world.receives, now.kernel.table.knows receive.owner = true →
      now.kernel.registry.number? receive.owner = some receive.number)
    (receives : ∀ receive, outcome.task?.bind Task.receive? = some receive →
      now.kernel.table.knows receive.owner = true →
      now.kernel.registry.number? receive.owner = some receive.number) : now.Registered where
  ordered := ordered
  unknown pid member := by
    rcases ran.shown_after.mp member with mine | other
    · exact drops pid mine
    · exact dropped pid (ran.shown_before.mpr (.inr other))
  registered receive member known := by
    rcases ran.shown_after.mp member with mine | other
    · exact receives receive mine known
    · exact received receive (ran.shown_before.mpr (.inr other)) known

theorem Ran.registered (ran : Ran world task outcome others now) (registered : world.Registered)
    (comes : Comes world.kernel task outcome now.kernel)
    (begins : ∀ pid, task.spawns? = some pid → world.kernel.table.knows pid = false →
      pid ∉ world.receivers ∧ pid ∉ world.drops) : now.Registered := by
  generalize there : now.kernel = kernel at comes
  cases comes with
  | nobody stays undropped =>
    obtain ⟨ordered, known⟩ := stays.table registered.ordered
    have received : ∀ receive ∈ world.receives, kernel.table.knows receive.owner = true →
        kernel.registry.number? receive.owner = some receive.number := by
      intro receive member knows
      rw [stays.number?]
      exact registered.registered receive member ((known _).mp knows)
    apply ran.registered_of <;> rw [there]
    case ordered => exact ordered
    case dropped =>
      intro pid member
      rw [Bool.eq_iff_iff, known, registered.unknown pid member]
    case drops =>
      rw [undropped]
      exact unshown
    case received => exact received
    case receives =>
      intro receive shown knows
      rcases ran.turn.receive shown with same | found
      · exact received receive (ran.shown_before.mpr (.inl same)) knows
      · rw [stays.number?, found]
  | @begins pid unknown =>
    obtain ⟨unreceived, undropped⟩ := begins pid rfl unknown
    apply ran.registered_of <;> rw [there]
    case ordered => exact registered.ordered.spawn
    case dropped =>
      intro other member
      rw [← Bool.not_eq_true, Table.knows_spawn]
      rintro (rfl | known)
      · exact undropped member
      · rw [registered.unknown other member] at known
        cases known
    case drops => exact unshown
    case received =>
      intro receive member knows
      rcases Table.knows_spawn.mp knows with same | known
      · -- A receive of this pid would be one of an earlier process.
        obtain ⟨running, within, shown⟩ := List.mem_filterMap.mp member
        refine absurd (List.mem_filterMap.mpr ⟨running, within, ?_⟩) unreceived
        rw [same]
        exact Task.receiver?_of_receive? shown
      · exact registered.registered receive member known
    case receives => exact unshown
  | @leaves pid =>
    apply ran.registered_of <;> rw [there]
    case ordered => exact registered.ordered.exit
    case dropped =>
      intro other member
      rw [← Bool.not_eq_true, Table.knows_exit, registered.unknown other member]
      simp
    case drops =>
      rintro _ ⟨rfl⟩
      rw [← Bool.not_eq_true, Table.knows_exit]
      simp
    case received =>
      intro receive member knows
      exact registered.registered receive member (Table.knows_exit.mp knows).2
    case receives => exact unshown
  | @opens pid reply =>
    apply ran.registered_of <;> rw [there]
    case ordered => exact registered.ordered
    case dropped => exact registered.unknown
    case drops => exact unshown
    case received =>
      intro receive member knows
      exact Registry.number?_create_of_some (registered.registered receive member knows)
    case receives => exact unshown
  | @drops pid reply =>
    -- Only receives of known processes are spoken of, and this process has gone.
    have gone := registered.unknown pid (ran.shown_before.mpr (.inl rfl))
    apply ran.registered_of <;> rw [there]
    case ordered => exact registered.ordered
    case dropped => exact registered.unknown
    case drops => exact unshown
    case received =>
      intro receive member knows
      have apart : pid ≠ receive.owner := by
        rintro rfl
        cases gone.symm.trans knows
      exact Registry.number?_destroy.trans ((if_neg apart).trans (registered.registered receive member knows))
    case receives => exact unshown

theorem Alike.registered (alike : Alike world now) (registered : world.Registered) : now.Registered := by
  have drops : now.drops = world.drops := alike.shown _ fun _ => rfl
  have receives : now.receives = world.receives := alike.shown _ fun _ => rfl
  constructor
  · rw [alike.table]
    exact registered.ordered
  · rw [drops, alike.table]
    exact registered.unknown
  · rw [receives, alike.table, alike.registry]
    exact registered.registered

theorem Orderly.begins {index : Nat} (orderly : world.Orderly (.advance index))
    (there : world.tasks[index]? = some task) (spawns : task.spawns? = some pid)
    (unknown : world.kernel.table.knows pid = false) : pid ∉ world.receivers ∧ pid ∉ world.drops := by
  have begun : pid ∈ world.begins? (.advance index) := by simp [begins?, there, spawns, unknown]
  exact ⟨orderly.returned pid begun, orderly.dropped pid begun⟩

theorem Registered.act (registered : world.Registered) (linked : world.Linked) (orderly : world.Orderly action)
    (ran : (perform action).run world = (events, .ok ((), now))) : now.Registered := by
  cases action with
  | call call =>
    cases ran
    exact (Alike.call world call).registered registered
  | write addr bytes =>
    cases ran
    exact (Alike.write world addr bytes).registered registered
  | advance index =>
    cases there : world.tasks[index]? with
    | none =>
      rw [perform, Op.run_bind_ok world (Op.run_get world), there] at ran
      cases ran
      exact registered
    | some task =>
      obtain ⟨_, outcome, changed, advanced, -, turn⟩ := linked.housed.advances there
      cases ran.symm.trans (perform_advance there advanced)
      have settled := settle_ran there orderly.legal turn
      exact settled.registered registered (advance_comes advanced) fun _ => orderly.begins there

theorem registered_start (heap : Heap) (space : UserSpace) (hooked : Bool) :
    (World.start heap space hooked).Registered where
  ordered := (@Paired.unused heap space hooked).ordered
  unknown := nofun
  registered := nofun

theorem Orderly.reached (led : Led Orderly heap space hooked world) : Reached heap space hooked world :=
  led.mono fun _ _ orderly => orderly.legal

theorem Orderly.registered (led : Led Orderly heap space hooked world) : world.Registered := by
  induction led with
  | start => exact registered_start _ _ _
  | act led orderly ran registered =>
    exact registered.act (Orderly.reached led).awake.1 orderly ran

/-! ### Wake-ups -/

/-- A recorded wait is found if the queue is still registered. -/
theorem Recorded.waits (recorded : world.Recorded receive)
    (registered : world.kernel.registry.number? receive.owner = some receive.number) : world.Waits receive := by
  obtain ⟨queue, there, -, wait⟩ := recorded.recorded
  exact ⟨recorded.waiting, registered, queue, by rw [Registry.queueOf?, registered]; exact there, wait⟩

/-- A blocked process can be woken unless its receive is at a queue it no longer has and nobody is about to wake it. -/
theorem Awake.wakeable_iff (awake : world.Awake) (blocked : world.kernel.table.Blocked pid) :
    ∃ receive, world.blockedIn pid = some receive ∧ receive.owner = pid ∧
      (world.Waits receive ∨ world.Owes receive ↔ ¬(world.Dead receive ∧ ¬world.Owes receive)) := by
  obtain ⟨receive, last, owner, recorded | owed⟩ := awake.blocked pid blocked
  · refine ⟨receive, last, owner, ?_, fun alive => ?_⟩
    · rintro (waits | owed) ⟨dead, unowed⟩
      · exact dead waits.registered
      · exact unowed owed
    · by_cases owed : world.Owes receive
      · exact .inr owed
      · exact .inl (recorded.waits (Decidable.not_not.mp fun dead => alive ⟨dead, owed⟩))
  · exact ⟨receive, last, owner, fun _ alive => alive.2 owed, fun _ => .inr owed⟩

/-- A wait that is recorded at the queue of the receive, or a send that has queued the bytes it waited for and owes the
wake-up. -/
theorem Awake.recorded_or_owed (awake : world.Awake) (linked : world.Linked)
    (blocked : world.kernel.table.Blocked pid) : ∃ receive, world.blockedIn pid = some receive ∧ receive.owner = pid ∧
      (world.Recorded receive ∨ world.Owes receive ∧ (receive ∈ world.waiting →
        ∃ queue, world.queue? receive.number = some queue ∧ queue.Completed receive.wait)) := by
  obtain ⟨receive, last, owner, recorded | owed⟩ := awake.blocked pid blocked
  · exact ⟨receive, last, owner, .inl recorded⟩
  · refine ⟨receive, last, owner, ?_⟩
    by_cases member : receive ∈ world.waiting
    · obtain ⟨-, queue, there, recorded | completed⟩ := awake.waiting receive member
      · exact .inl ⟨member, queue, there, linked.owned member there, recorded⟩
      · exact .inr ⟨owed, fun _ => ⟨queue, there, completed⟩⟩
    · exact .inr ⟨owed, fun waits => absurd waits member⟩

theorem Registered.number? (registered : world.Registered) (member : receive ∈ world.waiting)
    (blocked : world.kernel.table.Blocked receive.owner) :
    world.kernel.registry.number? receive.owner = some receive.number := by
  obtain ⟨running, within, shown⟩ := List.mem_filterMap.mp member
  refine registered.registered receive ?_ blocked.knows
  exact List.mem_filterMap.mpr ⟨running, within, Task.receive?_of_waiting? shown⟩

/-- The wait of a blocked process is recorded at the queue registered for it, or a send has queued its bytes there. -/
theorem Registered.waits_or_owed (registered : world.Registered) (linked : world.Linked) (awake : world.Awake)
    (blocked : world.kernel.table.Blocked pid) : ∃ receive, world.blockedIn pid = some receive ∧ receive.owner = pid ∧
      (world.Waits receive ∨ world.Owes receive ∧ (receive ∈ world.waiting →
        ∃ queue, world.kernel.registry.queueOf? pid = some queue ∧ queue.Completed receive.wait)) := by
  obtain ⟨receive, last, rfl, recorded | ⟨owed, completed⟩⟩ := awake.recorded_or_owed linked blocked
  · exact ⟨receive, last, rfl, .inl (recorded.waits (registered.number? recorded.waiting blocked))⟩
  · refine ⟨receive, last, rfl, .inr ⟨owed, fun member => ?_⟩⟩
    obtain ⟨queue, there, completes⟩ := completed member
    refine ⟨queue, ?_, completes⟩
    rw [Registry.queueOf?, registered.number? member blocked]
    exact there

theorem Registered.owes_of_enough {queue : Queue} (registered : world.Registered) (linked : world.Linked)
    (awake : world.Awake) (blocked : world.kernel.table.Blocked pid) (last : world.blockedIn pid = some receive)
    (there : world.kernel.registry.queueOf? pid = some queue)
    (enough : receive.wait.required ≤ (stream receive.wait.sender queue.messages).length) : world.Owes receive := by
  obtain ⟨other, same, rfl, waits | ⟨owed, -⟩⟩ := registered.waits_or_owed linked awake blocked
  all_goals cases last.symm.trans same
  · obtain ⟨known, registered_there, recorded⟩ := waits.recorded
    cases there.symm.trans registered_there
    rw [Registry.queueOf?, waits.registered] at there
    exact absurd enough (Nat.not_le.mpr (awake.short _ _ there _ recorded))
  · exact owed

/-- Calls run their sections in any order, and no process makes a second receive. Every queue holds less than what is
waited for there. A blocked process has its wait recorded at the queue that its receive has found, or a send has queued
the bytes of that receive and owes the wake-up, which needs nobody else. Its wait is recorded at the queue registered
for it, where a send to it looks, or a wake-up is owed, exactly unless the queue that its receive has found has been
dropped and no wake-up is owed. That does not come about while no pid is used again before the receives of the earlier
process have returned and its queue is dropped: then the bytes of a wake-up that is owed are in the queue registered for
the process, and none is left blocked with its bytes there and nobody to wake it. Every next section returns. -/
theorem no_lost_wakeup (reached : Reached heap space hooked world) :
    (∀ number queue wait, world.queue? number = some queue → queue.waiting = some wait →
      (stream wait.sender queue.messages).length < wait.required) ∧
    (∀ pid, world.kernel.table.Blocked pid → ∃ receive, world.blockedIn pid = some receive ∧ receive.owner = pid ∧
      (world.Recorded receive ∨ world.Owes receive ∧ (receive ∈ world.waiting →
        ∃ queue, world.queue? receive.number = some queue ∧ queue.Completed receive.wait))) ∧
    (∀ receive, world.Owes receive → ∃ index after, (world.follow [.advance index] = some after ∨
      world.follow [.advance index, .advance index] = some after) ∧ ¬after.kernel.table.Blocked receive.owner) ∧
    (∀ pid, world.kernel.table.Blocked pid → ∃ receive, world.blockedIn pid = some receive ∧ receive.owner = pid ∧
      (world.Waits receive ∨ world.Owes receive ↔ ¬(world.Dead receive ∧ ¬world.Owes receive))) ∧
    (Led Orderly heap space hooked world →
      (∀ pid, world.kernel.table.Blocked pid → ∃ receive, world.blockedIn pid = some receive ∧
        receive.owner = pid ∧ (world.Waits receive ∨ world.Owes receive ∧ (receive ∈ world.waiting →
          ∃ queue, world.kernel.registry.queueOf? pid = some queue ∧ queue.Completed receive.wait))) ∧
      ∀ pid receive queue, world.kernel.table.Blocked pid → world.blockedIn pid = some receive →
        world.kernel.registry.queueOf? pid = some queue →
        receive.wait.required ≤ (stream receive.wait.sender queue.messages).length → world.Owes receive) ∧
    ∀ action, world.Legal action →
      ∃ events after, (perform action).run world = (events, .ok ((), after)) := by
  obtain ⟨linked, awake⟩ := reached.awake
  refine ⟨?_, fun pid => awake.recorded_or_owed linked, fun receive owed => owed.wakes,
    fun pid => awake.wakeable_iff, ?_, ?_⟩
  · intro number queue wait there waits
    exact awake.short number queue there wait waits
  · intro orderly
    have registered := Orderly.registered orderly
    exact ⟨fun pid => registered.waits_or_owed linked awake,
      fun pid receive queue => registered.owes_of_enough linked awake⟩
  · intro action legal
    obtain ⟨events, value, after, ran, -, -⟩ := perform_returns linked awake legal
    exact ⟨events, after, ran⟩

/-- Process 1 waits for a byte of process 2, which has queued it and not yet looked for process 1. -/
def exchange : List Action :=
  [.call (.spawn 1), .advance 0, .advance 0, .call (.spawn 2), .advance 0, .advance 0,
    .call .yield, .advance 0, .call (.receive 2 4096 1), .advance 0, .advance 0, .advance 0, .advance 0,
    .call (.send none 1 8192 1), .advance 1, .advance 1, .advance 1]

theorem exchange_owes : ∃ world, (start Boot.kernel.heap .flat false).followBy Orderly exchange = some world ∧
    world.kernel.table.Blocked 1 ∧ ∃ receive, receive.owner = 1 ∧ world.Owes receive := by
  have ended : ((start Boot.kernel.heap .flat false).followBy Orderly exchange).map (fun world =>
      (world.kernel.table.state? 1, (world.kernel.registry.queueOf? 1).map Queue.waiting)) =
      some (some .blocked, some none) := by
    decide +kernel
  obtain ⟨world, ran, same⟩ := Option.map_eq_some_iff.mp ended
  obtain ⟨blocked, idle⟩ : _ ∧ _ := by simpa only [Prod.mk.injEq] using same
  have orderly : Led Orderly Boot.kernel.heap .flat false world := Led.start.follow ran
  obtain ⟨-, -, -, -, wakes, -⟩ := no_lost_wakeup (Orderly.reached orderly)
  obtain ⟨receive, -, owner, waits | ⟨owed, -⟩⟩ := (wakes orderly).1 1 blocked
  · obtain ⟨queue, there, recorded⟩ := waits.recorded
    rw [owner] at there
    rw [there, Option.map_some, recorded] at idle
    cases idle
  · exact ⟨world, ran, blocked, receive, owner, owed⟩

/-- Process 1 is ended and another process 1 is made before the queue of the first is dropped. The second finds that
queue and waits there for a byte of process 2; the queue is dropped and a new one made, where 2 puts the byte. -/
def reused : List Action :=
  [.call (.spawn 1), .advance 0, .advance 0, .call (.spawn 2), .advance 0, .advance 0,
    .call (.exit 1), .advance 0, .call (.spawn 1), .advance 1, .call .yield, .advance 2, .call .yield, .advance 2,
    .call (.receive 2 4096 1), .advance 2, .advance 2, .advance 2, .advance 2, .advance 0, .advance 0,
    .call (.send none 1 8192 1), .advance 1, .advance 1, .advance 1]

/-- It is left blocked with its byte there, no wait recorded and nobody about to wake it. -/
theorem reused_left_blocked : ∃ world,
    (start Boot.kernel.heap .flat false).followBy Lawful reused = some world ∧ world.kernel.table.Blocked 1 ∧
      ∃ receive queue, world.blockedIn 1 = some receive ∧ receive ∈ world.waiting ∧
        world.kernel.registry.queueOf? 1 = some queue ∧ queue.waiting = none ∧
        receive.wait.required ≤ (stream receive.wait.sender queue.messages).length ∧ world.wakes = [] := by
  have processes : ((start Boot.kernel.heap .flat false).followBy Lawful reused).map (fun world =>
      (world.kernel.table.state? 1, world.blockedIn 1, world.waiting)) =
      some (some .blocked, some ⟨1, 0, 2, ⟨4096, 1⟩⟩, [⟨1, 0, 2, ⟨4096, 1⟩⟩]) := by
    decide +kernel
  have queues : ((start Boot.kernel.heap .flat false).followBy Lawful reused).map (fun world =>
      ((world.kernel.registry.queueOf? 1).map fun queue => (queue.waiting, (stream 2 queue.messages).length),
        world.wakes)) = some (some (none, 1), []) := by
    decide +kernel
  obtain ⟨world, ran, same⟩ := Option.map_eq_some_iff.mp processes
  rw [ran, Option.map_some] at queues
  simp only [Option.some.injEq, Prod.mk.injEq] at same queues
  obtain ⟨blocked, last, waiting⟩ := same
  obtain ⟨registered, unowed⟩ := queues
  obtain ⟨queue, there, state⟩ := Option.map_eq_some_iff.mp registered
  obtain ⟨unrecorded, enough⟩ : _ ∧ _ := by simpa only [Prod.mk.injEq] using state
  exact ⟨world, ran, blocked, _, queue, last, by simp [waiting], there, unrecorded, Nat.le_of_eq enough.symm, unowed⟩

end World

end Nucleus.Kernel
