import Nucleus.Proofs.Kernel.Receiving
import Nucleus.Proofs.Processes.Switches

/-! Who is current when a receive of the kernel that had to wait returns: its owner, if each time it gave up the
processor somebody was there to take it. If nobody was, the owner runs on with nobody current. That the kernel's
receives are `Receives` with the process table as their host is `receive_receives`. -/
namespace Nucleus.Kernel
open Messages Processes Syscall

/-- What becomes of a parked receive. Its owner gives up the processor at a table that is `leaving`, and comes back
from there; interrupts before and after make processes ready, and change the queue and the buffer. -/
def Resumes (switch : Switch) (leaving : Table → Prop) (blocked resumed : Site Table) : Prop :=
  resumed.queue.owner = blocked.queue.owner ∧ ∃ (early late : List Nat) (left : Table),
    leaving (blocked.host.woken early) ∧
      (blocked.host.woken early).Yields switch left ∧
      resumed.host = left.woken late

/-- A send that reads its sender off this table is sent by that process. -/
def Signs (table : Table) (pid : Nat) : Prop :=
  ∀ (kernel : Kernel) (refused : Option Allocation) (target number : Nat) (buffer : Buffer), kernel.table = table →
    ∃ events, (Task.sign refused target number buffer).advance.run kernel =
      (events, .ok (.next (.post refused target number pid buffer), kernel))

theorem signs_currentPid (table : Table) : Signs table table.currentPid := by
  rintro kernel refused target number buffer rfl
  exact ⟨_, rfl⟩

section Owner
variable {switch : Switch} {sender owner : Nat} {site blocked resumed : Site Table}

structure OwnerCurrent (owner : Nat) (site : Site Table) : Prop where
  owned : site.queue.owner = owner
  hooked : site.host.hooked = true
  current : site.host.current = some owner

theorem OwnerCurrent.back (ours : OwnerCurrent owner site) (returns : switch.Returns)
    (looked : site.look Host.table sender = (.blocked, blocked))
    (resumes : Resumes switch (fun table => table.ready ≠ []) blocked resumed) :
    OwnerCurrent owner resumed ∧ resumed.host.state? owner = some .running := by
  obtain ⟨same, early, late, left, busy, yields, host⟩ := resumes
  obtain ⟨kept, left_blocked, -⟩ := blocked_of_look looked
  have hooked : (blocked.host.woken early).hooked = true := by
    apply Table.hooked_changed
    rw [left_blocked]
    exact Table.hooked_change ours.hooked (.block site.queue.owner)
  have now : (blocked.host.woken early).current = some owner := by
    rw [Table.current_woken, left_blocked, Table.current_block]
    exact ours.current
  have line : (blocked.host.woken early).retireCurrent.ready ≠ [] := by
    rw [Table.ready_retireCurrent]
    exact List.append_ne_nil_of_left_ne_nil busy _
  obtain ⟨current, runs⟩ := yields.caller returns hooked now line
  rw [host]
  refine ⟨⟨?_, ?_, ?_⟩, ?_⟩
  · rw [same, kept]
    exact ours.owned
  · rw [host]
    exact Table.hooked_changed (yields.hooked returns hooked) _
  · rw [host, Table.current_woken]
    exact current
  · exact (Table.running_woken late).mpr runs

structure OwnerAdrift (owner : Nat) (site : Site Table) : Prop where
  owned : site.queue.owner = owner
  current : ∀ pid, site.host.current = some pid → pid = owner

theorem OwnerAdrift.back (adrift : OwnerAdrift owner site)
    (looked : site.look Host.table sender = (.blocked, blocked))
    (resumes : Resumes switch (fun table => table.ready = []) blocked resumed) :
    resumed.queue.owner = owner ∧ resumed.host.current = none := by
  obtain ⟨same, early, late, left, nobody, yields, host⟩ := resumes
  obtain ⟨kept, left_blocked, known⟩ := blocked_of_look looked
  -- Whoever is current is the blocked owner, so the line stays empty.
  have idle : (blocked.host.woken early).retireCurrent.ready = [] := by
    rw [Table.ready_retireCurrent, nobody, List.nil_append]
    have still : ∀ pid, (blocked.host.woken early).current = some pid →
        (blocked.host.woken early).state? pid ≠ some .running := by
      intro pid now runs
      rw [Table.current_woken, left_blocked, Table.current_block] at now
      rw [Table.running_woken, left_blocked, adrift.current pid now, ← adrift.owned, Table.block, if_pos known,
        Table.state?_dequeue, Table.state?_withState, if_pos rfl] at runs
      cases runs
    cases now : (blocked.host.woken early).current with
    | none => rfl
    | some pid => simp [Option.filter_some, still pid now]
  constructor
  · rw [same, kept]
    exact adrift.owned
  · rw [host, Table.current_woken, yields.idle idle]

end Owner

/-- With a hook that returns to whom it left: a call that passes the processor on returns to a caller that is current
and runs, exactly if the caller was not blocked with nobody in line. So a receive that had to wait ends with its owner
running, and the owner's next send in its own name, if somebody was ready each time it gave up the processor. If
nobody ever was, the receive ends with nobody current, and its owner's next send is the idle process's. -/
theorem caller_runs_again {switch : Switch} (returns : switch.Returns) :
    (∀ (changes : List Change) (pid : Nat) (after : Table),
      (Table.empty.changed changes).hooked = true → (Table.empty.changed changes).current = some pid →
        (Table.empty.changed changes).Yields switch after →
        ((after.current = some pid ∧ after.state? pid = some .running) ↔
          ¬((Table.empty.changed changes).Blocked pid ∧ (Table.empty.changed changes).ready = []))) ∧
    (∀ (sender : Nat) (start last after : Site Table) (earlier : List (Site Table × Site Table)),
      start.host.hooked = true → start.host.current = some start.queue.owner →
        Receives Host.table sender (Resumes switch fun table => table.ready ≠ []) start earlier last
          .delivered after → earlier ≠ [] →
        after.host.current = some start.queue.owner ∧
          after.host.state? start.queue.owner = some .running ∧ Signs after.host start.queue.owner) ∧
    ∀ (sender : Nat) (start last after : Site Table) (earlier : List (Site Table × Site Table)),
      start.host.current = some start.queue.owner →
        Receives Host.table sender (Resumes switch fun table => table.ready = []) start earlier last
          .delivered after → earlier ≠ [] →
        after.host.current = none ∧ Signs after.host idlePid := by
  have ends : ∀ {sender : Nat} {leaving : Table → Prop} {start last after : Site Table}
      {earlier : List (Site Table × Site Table)},
      Receives Host.table sender (Resumes switch leaving) start earlier last .delivered after →
        after.host = last.host := fun receives => receives.ending.1.host
  refine ⟨?_, ?_, ?_⟩
  · intro changes pid after hooked now yields
    exact (Table.InOrder.empty.changed changes).caller_iff yields returns hooked now
  · intro sender start last after earlier hooked now receives parked
    have ours : OwnerCurrent start.queue.owner start := ⟨rfl, hooked, now⟩
    obtain ⟨still, runs⟩ := receives.keeps_parked parked ours (fun _ => And.left)
      fun _ _ _ ours looked resumes => ours.back returns looked resumes
    rw [ends receives]
    refine ⟨still.current, runs, ?_⟩
    have signs := signs_currentPid last.host
    rw [Table.currentPid, still.current] at signs
    exact signs
  · intro sender start last after earlier now receives parked
    have adrift : OwnerAdrift start.queue.owner start :=
      ⟨rfl, fun pid current => Option.some.inj (current.symm.trans now)⟩
    obtain ⟨-, nobody⟩ := receives.keeps_parked parked adrift
      (fun site lost => (⟨lost.1, by simp [lost.2]⟩ : OwnerAdrift start.queue.owner site))
      fun _ _ _ adrift looked resumes => adrift.back looked resumes
    rw [ends receives]
    refine ⟨nobody, ?_⟩
    have signs := signs_currentPid last.host
    rw [Table.currentPid, nobody] at signs
    exact signs

def wakingSwitch : Switch := fun previous _ before after =>
  -- Whoever is switched to wakes the process that gave the processor up, and passes it back.
  after = before.changed [.unblock previous, .yield] ∧
    after.current = some previous ∧ after.state? previous = some .running

def twoProcesses : Table := Table.empty.changed [.announceSwitches, .spawn 1, .spawn 2, .switchTo 1]

/-- Process 1 waits for a byte of process 2, which queues it before it passes the processor back. -/
theorem waking_switch_returns : ∃ last after : Site Table,
    Receives Host.table 2 (Resumes wakingSwitch fun table => table.ready ≠ []) ⟨.ofOwner 1, [0], twoProcesses⟩
        [(⟨.ofOwner 1, [0], twoProcesses⟩, ⟨⟨1, [], some ⟨2, 1⟩⟩, [0], twoProcesses.block 1⟩)] last .delivered after ∧
      after.host.current = some 1 ∧ Signs after.host 1 := by
  have returns : wakingSwitch.Returns := ⟨fun switched => switched.2, fun switched => ⟨_, switched.1⟩⟩
  let left := (twoProcesses.block 1).yield.2.changed [.unblock 1, .yield]
  have announced : Event.switched 1 2 ∈ [.took .table, .dropped .table] ++
      ((twoProcesses.block 1).yield.1.map fun pair => Event.switched pair.1 pair.2).toList := by
    decide +kernel
  have yields : (twoProcesses.block 1).Yields wakingSwitch left := by
    refine .switches (Table.yield_run _) announced ⟨rfl, ?_, ?_⟩ <;> decide +kernel
  have blocks : Site.look Host.table 2 ⟨.ofOwner 1, [0], twoProcesses⟩ =
      (.blocked, ⟨⟨1, [], some ⟨2, 1⟩⟩, [0], twoProcesses.block 1⟩) := by
    have known : twoProcesses.knows 1 = true := by decide +kernel
    simp [Site.look, Host.table, Queue.ofOwner, Queue.offers, Queue.bytesFrom, Queue.countFrom, Queue.await, known]
  have resumes : Resumes wakingSwitch (fun table => table.ready ≠ [])
      ⟨⟨1, [], some ⟨2, 1⟩⟩, [0], twoProcesses.block 1⟩ ⟨⟨1, [⟨2, [170]⟩], none⟩, [0], left⟩ := by
    refine ⟨rfl, [], [], left, ?_, yields, rfl⟩
    decide +kernel
  have delivers : Site.look Host.table 2 ⟨⟨1, [⟨2, [170]⟩], none⟩, [0], left⟩ =
      (.delivered, ⟨⟨1, [], none⟩, [170], left⟩) := rfl
  have receives := Receives.parks blocks resumes (.ends delivers (by decide))
  obtain ⟨-, resumed, -⟩ := caller_runs_again returns
  have hooked : twoProcesses.hooked = true := by decide +kernel
  have now : twoProcesses.current = some 1 := by decide +kernel
  obtain ⟨current, -, signs⟩ := resumed 2 _ _ _ _ hooked now receives (List.cons_ne_nil _ _)
  exact ⟨_, _, receives, current, signs⟩

/-- Process 1 waits for a byte of process 7 with nobody to run meanwhile, and an interrupt queues it. The receive
returns without a switch and leaves nobody current, so what process 1 sends next is process 0's. -/
theorem lone_receiver_not_current :
    let (events, result) := (do
      let (received, _) ← receive 0 7 ⟨4096, 1⟩ [send 0 none 7 [170]]
      let _ ← serveSend none 1 4096 1
      return received : Op Kernel Received).run { loneReceiver with table := loneReceiver.table.change .announceSwitches }
    loneReceiver.table.current = some 1 ∧ loneReceiver.table.state? 1 = some .running ∧
      events.filterMap Event.switch? = [] ∧
      result.toOption.map (fun (received, after) =>
        (received, after.table.current, (after.registry.queueOf? 1).map Queue.messages)) =
          some (.delivered, none, some [⟨0, [170]⟩]) := by
  decide +kernel

end Nucleus.Kernel
