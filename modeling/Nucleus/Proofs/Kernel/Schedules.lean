import Nucleus.Proofs.Kernel.Wakeups

/-! Whole schedules. Calls begin and run their sections in any order; every section returns, and in no order is the wait
of a blocked process forgotten. -/
namespace Nucleus.Kernel.World
open Buddy Messages Processes Syscall

variable {before after world : World} {task : Task} {outcome : Outcome} {receive : Receive}

/-- Two worlds that differ in memory and in calls that have not begun. -/
structure Alike (before after : World) : Prop where
  registry : after.kernel.registry = before.kernel.registry
  table : after.kernel.table = before.kernel.table
  blockedIn : after.blockedIn = before.blockedIn
  shown : ∀ {β : Type} (shows : Task → Option β), (∀ call, shows (.enter call) = none) →
    after.tasks.filterMap shows = before.tasks.filterMap shows

namespace Alike

theorem queue?_eq (alike : Alike before after) (number : Nat) : after.queue? number = before.queue? number := by
  rw [queue?, queue?, alike.registry]

theorem housed (alike : Alike before after) (housed : before.Housed) : after.Housed where
  leads := by
    rw [alike.registry]
    exact housed.leads
  receives task member receive shown := by
    have known : receive ∈ after.receives := List.mem_filterMap.mpr ⟨task, member, shown⟩
    have same : after.receives = before.receives := alike.shown _ fun _ => rfl
    rw [same] at known
    obtain ⟨running, was, same_shown⟩ := List.mem_filterMap.mp known
    rw [alike.queue?_eq]
    exact housed.receives running was receive same_shown
  targets task member number shown := by
    have known : number ∈ after.targets := List.mem_filterMap.mpr ⟨task, member, shown⟩
    have same : after.targets = before.targets := alike.shown _ fun _ => rfl
    rw [same] at known
    obtain ⟨running, was, same_shown⟩ := List.mem_filterMap.mp known
    rw [alike.queue?_eq]
    exact housed.targets running was number same_shown

theorem linked (alike : Alike before after) (linked : before.Linked) : after.Linked := by
  apply Linked.of_housed (alike.housed linked.housed)
  have receivers : after.receivers = before.receivers := alike.shown _ fun _ => rfl
  rw [receivers]
  exact linked.single

theorem awake (alike : Alike before after) (awake : before.Awake) : after.Awake := by
  have waiting : after.waiting = before.waiting := alike.shown _ fun _ => rfl
  have wakes : after.wakes = before.wakes := alike.shown _ fun _ => rfl
  constructor
  · simp only [alike.queue?_eq]
    exact awake.short
  · simp only [waiting, alike.queue?_eq]
    exact awake.recorded
  · simp only [waiting, alike.queue?_eq, alike.blockedIn]
    exact awake.waiting
  · intro pid blocked
    rw [alike.table] at blocked
    obtain ⟨receive, last, owner, waits | owed⟩ := awake.blocked pid blocked
    · refine ⟨receive, ?_, owner, .inl ⟨?_, ?_⟩⟩
      · rw [alike.blockedIn]
        exact last
      · rw [waiting]
        exact waits.waiting
      · rw [alike.queue?_eq]
        exact waits.recorded
    · refine ⟨receive, ?_, owner, .inr ?_⟩
      · rw [alike.blockedIn]
        exact last
      · rw [Owes, wakes]
        exact owed

theorem call (world : World) (call : Call) : Alike world { world with tasks := world.tasks ++ [.enter call] } where
  registry := rfl
  table := rfl
  blockedIn := rfl
  shown shows idle := by
    rw [List.filterMap_append, List.filterMap_cons_none (idle call), List.filterMap_nil, List.append_nil]

theorem write (world : World) (addr : Nat) (bytes : List UInt8) :
    Alike world { world with kernel := world.kernel.fill addr bytes } :=
  ⟨fill_registry _ _ _, fill_table _ _ _, rfl, fun _ _ => rfl⟩

end Alike

/-- A call in progress that runs its next section. -/
theorem Housed.advances {index : Nat} (housed : world.Housed) (there : world.tasks[index]? = some task) :
    Op.Ends task.advance world.kernel (Turn world.kernel task) := by
  have running := List.mem_of_getElem? there
  apply Task.advance_turn
  · intro receive shown
    obtain ⟨queue, found, -⟩ := housed.receives task running receive shown
    exact ⟨queue, found⟩
  · exact housed.targets task running

variable {action : Action} {heap : Heap} {space : UserSpace} {hooked : Bool}

theorem settle_ran {index : Nat} {changed : Kernel} (there : world.tasks[index]? = some task)
    (legal : world.Legal (.advance index)) (turn : Turn world.kernel task outcome changed) :
    Ran world task outcome (world.tasks.take index ++ world.tasks.drop (index + 1))
      ({ world with kernel := changed }.settle index outcome) where
  tasks_before := by
    obtain ⟨below, rfl⟩ := List.getElem?_eq_some_iff.mp there
    conv => lhs; rw [← List.take_append_drop index world.tasks, List.drop_eq_getElem_cons below]
    exact List.perm_middle
  tasks_after := by
    change ((world.tasks.take index ++ outcome.task?.toList) ++ world.tasks.drop (index + 1)).Perm _
    rw [← List.append_assoc]
    exact List.perm_append_comm.append_right _
  turn := turn
  blockedIn _ := rfl
  entered enters := by
    apply legal
    rw [there]
    exact enters

theorem perform_advance {index : Nat} {events : List Event} {changed : Kernel}
    (there : world.tasks[index]? = some task)
    (ran : task.advance.run world.kernel = (events, .ok (outcome, changed))) :
    (perform (.advance index)).run world =
      (events, .ok ((), { world with kernel := changed }.settle index outcome)) := by
  have stepped : (inside task.advance : Op World Outcome).run world =
      (events, .ok (outcome, { world with kernel := changed })) := by
    simp only [Op.run] at ran
    simp only [inside, Op.onPart, Op.run, HasKernel.kernel, HasKernel.put, ran]
  rw [perform, Op.run_bind_ok world (Op.run_get world), there]
  simp only [Op.run_bind_ok world stepped, Op.run_modify, List.append_nil, List.nil_append]

/-- Every legal action returns, and wakes whom it must. -/
theorem perform_returns (linked : world.Linked) (awake : world.Awake) (legal : world.Legal action) :
    Op.Ends (perform action) world fun _ after => after.Linked ∧ after.Awake := by
  cases action with
  | call call =>
    have alike := Alike.call world call
    exact .of_run rfl ⟨alike.linked linked, alike.awake awake⟩
  | write addr bytes =>
    have alike := Alike.write world addr bytes
    exact .of_run rfl ⟨alike.linked linked, alike.awake awake⟩
  | advance index =>
    apply Op.Returns.get_bind
    cases there : world.tasks[index]? with
    | none => exact Op.Ends.pure ⟨linked, awake⟩
    | some task =>
      apply Op.Ends.bind (linked.housed.advances there).onPart
      rintro outcome _ ⟨changed, rfl, turn⟩
      have ran := settle_ran there legal turn
      exact .of_run rfl ⟨linked.run ran, ran.awake linked awake⟩

theorem linked_start (heap : Heap) (space : UserSpace) (hooked : Bool) : (start heap space hooked).Linked where
  leads := by
    intro owner number found
    cases found
  receives := nofun
  targets := nofun
  single := List.nodup_nil

theorem awake_start (heap : Heap) (space : UserSpace) (hooked : Bool) : (start heap space hooked).Awake where
  short := nofun
  recorded := nofun
  waiting := nofun
  blocked := nofun

theorem Reached.awake (reached : Reached heap space hooked world) : world.Linked ∧ world.Awake := by
  induction reached with
  | start => exact ⟨linked_start _ _ _, awake_start _ _ _⟩
  | act _ legal ran kept =>
    obtain ⟨linked, awake⟩ := kept
    obtain ⟨events, value, after, other_ran, -, good⟩ := perform_returns linked awake legal
    rw [ran] at other_ran
    cases other_ran
    exact good

theorem follow_cons {events : List Event} {actions : List Action} (legal : world.Legal action)
    (ran : (perform action).run world = (events, .ok ((), after))) :
    world.follow (action :: actions) = after.follow actions := by
  rw [follow, followBy, if_pos legal, ran]

/-- Only entering a receive asks for anything. -/
theorem legal_advance {index : Nat} (there : world.tasks[index]? = some task)
    (underway : task.startsReceive = false) : world.Legal (.advance index) := by
  intro enters
  rw [there, Option.any_some, underway] at enters
  cases enters

theorem task_settle {index : Nat} {next : Task} (there : world.tasks[index]? = some task) :
    (world.settle index (.next next)).tasks[index]? = some next := by
  obtain ⟨below, -⟩ := List.getElem?_eq_some_iff.mp there
  have front : (world.tasks.take index).length = index := List.length_take_of_le (Nat.le_of_lt below)
  simp [settle, Outcome.task?, front]

theorem unblock_follows {index : Nat} {wake : Wake} (there : world.tasks[index]? = some (.unblock wake)) :
    ∃ after, world.follow [.advance index] = some after ∧ ¬after.kernel.table.Blocked wake.owner := by
  have unblocked : (Task.unblock wake).advance.run world.kernel =
      ([.took .table, .dropped .table],
        .ok (.returned (.value 1), { world.kernel with table := world.kernel.table.unblock wake.owner })) := rfl
  refine ⟨_, follow_cons (legal_advance there rfl) (perform_advance there unblocked), ?_⟩
  exact Table.not_blocked_unblock

/-- A call that owes a wake-up needs nobody else to bring it about. -/
theorem Owes.wakes (owed : world.Owes receive) :
    ∃ index after, (world.follow [.advance index] = some after ∨
      world.follow [.advance index, .advance index] = some after) ∧
      ¬after.kernel.table.Blocked receive.owner := by
  obtain ⟨task, member, shown⟩ := List.mem_filterMap.mp owed
  obtain ⟨index, there⟩ := List.mem_iff_getElem?.mp member
  cases task <;> cases shown
  case unblock =>
    obtain ⟨after, followed, ready⟩ := unblock_follows there
    exact ⟨index, after, .inl followed, ready⟩
  case lookUp =>
    have legal := legal_advance there rfl
    have asked : (onTable (Scheduler.knows receive.owner)).run world.kernel =
        ([.took .table, .dropped .table], .ok (world.kernel.table.knows receive.owner, world.kernel)) := rfl
    have looked : ∃ events, (Task.lookUp ⟨receive.owner, receive.number, some receive.wait⟩).advance.run
        world.kernel = (events, .ok (if world.kernel.table.knows receive.owner
          then .next (.unblock ⟨receive.owner, receive.number, some receive.wait⟩)
          else .returned (.value 1), world.kernel)) := by
      rw [Task.advance, Op.run_bind_ok _ asked]
      cases world.kernel.table.knows receive.owner with
      | true => exact ⟨_, rfl⟩
      | false => exact ⟨_, rfl⟩
    obtain ⟨events, ran⟩ := looked
    have followed (rest : List Action) : world.follow (.advance index :: rest) = World.follow _ rest :=
      follow_cons legal (perform_advance there ran)
    cases known : world.kernel.table.knows receive.owner with
    | true =>
      simp only [known, if_true] at followed
      obtain ⟨after, unblocked, ready⟩ := unblock_follows (task_settle there)
      exact ⟨index, after, .inr ((followed _).trans unblocked), ready⟩
    | false =>
      refine ⟨index, _, .inl (followed []), ?_⟩
      intro blocked
      cases known.symm.trans blocked.knows

end Nucleus.Kernel.World
