import Nucleus.Kernel.Boot
import Nucleus.Proofs.Kernel.Site
import Nucleus.Proofs.Kernel.Turns
import Nucleus.Proofs.Processes.Line

/-! The receives of the kernel are receives with the process table as their host. So they take all their bytes or
none, whatever runs while their owner is parked. -/
namespace Nucleus.Kernel
open Messages Processes Syscall

def Host.table : Host Table := ⟨fun pid table => (table.knows pid, table), fun pid table => table.block pid⟩

/-- What a receive works on in a kernel. -/
def site? (kernel : Kernel) (number : Nat) (buffer : Buffer) : Option (Site Table) :=
  kernel.registry.queues[number]?.map fun queue => ⟨queue, kernel.load buffer, kernel.table⟩

variable {kernel : Kernel} {number sender : Nat} {buffer : Buffer} {site : Site Table}

theorem length_load (kernel : Kernel) (buffer : Buffer) : (kernel.load buffer).length = buffer.len := by
  unfold load
  split <;> exact Memory.length_read _ _ _

theorem load_fill (kernel : Kernel) {bytes : List UInt8} (length : bytes.length = buffer.len) :
    (kernel.fill buffer.addr bytes).load buffer = bytes := by
  unfold fill
  cases kernel.space with
  | flat =>
    simp only [load, ← length]
    exact Memory.read_write _ _ _
  | apart memory =>
    simp only [load, ← length]
    exact Memory.read_write _ _ _

theorem site?_eq_some : kernel.site? number buffer = some site ↔
    kernel.registry.queues[number]? = some site.queue ∧ kernel.load buffer = site.buffer ∧
      kernel.table = site.host := by
  constructor
  · intro there
    obtain ⟨queue, found, rfl⟩ := Option.map_eq_some_iff.mp there
    exact ⟨found, rfl, rfl⟩
  · rintro ⟨found, loaded, table⟩
    rw [site?, found, loaded, table]
    rfl

theorem site?_afterLook {queue : Queue} (sender : Nat) (found : kernel.registry.queues[number]? = some queue) :
    ∃ left, Site.look Host.table sender ⟨queue, kernel.load buffer, kernel.table⟩ =
      ((kernel.afterLook queue number sender buffer).1, left) ∧
      (kernel.afterLook queue number sender buffer).2.site? number buffer = some left := by
  have stays : ∀ {after : Kernel} {left : Queue}, after.registry = kernel.registry.put number left →
      after.registry.queues[number]? = some left := by
    intro after left registry
    rw [registry]
    exact Registry.queue_put_self found
  unfold Site.look afterLook
  simp only [length_load]
  by_cases offered : queue.offers sender buffer.len = true
  · rw [if_pos offered, if_pos offered]
    have enough : (queue.endWait.take sender buffer.len).1.length = buffer.len := by
      change (Queue.takeFromLine sender queue.messages buffer.len).1.length = _
      rw [Queue.takeFromLine_fst]
      exact List.length_take_of_le (Queue.offers_iff.mp offered)
    refine ⟨_, rfl, site?_eq_some.mpr ⟨stays (fill_registry _ _ _), ?_, fill_table _ _ _⟩⟩
    have whole : (kernel.load buffer).drop (queue.endWait.take sender buffer.len).1.length = [] := by
      rw [enough, ← length_load kernel buffer, List.drop_length]
    simp only [load_fill _ enough, Queue.overlay, whole, List.append_nil]
  · rw [if_neg offered, if_neg offered]
    simp only [Host.table]
    cases kernel.table.knows queue.owner with
    | true => exact ⟨_, rfl, site?_eq_some.mpr ⟨stays rfl, rfl, rfl⟩⟩
    | false => exact ⟨_, rfl, site?_eq_some.mpr ⟨stays rfl, rfl, rfl⟩⟩

theorem look_ran {events : List Event} {outcome : Look} {after : Kernel}
    (ran : (look number sender buffer).run kernel = (events, .ok (outcome, after))) :
    ∃ before left, kernel.site? number buffer = some before ∧
      before.look Host.table sender = (outcome, left) ∧ after.site? number buffer = some left := by
  obtain ⟨queue, found, ended⟩ := look_found ran
  obtain ⟨left, seen, there⟩ := site?_afterLook sender found
  rw [ended] at seen there
  exact ⟨_, left, site?_eq_some.mpr ⟨found, rfl, rfl⟩, seen, there⟩

/-- A look that blocks its owner leaves everybody else alone. -/
theorem blocked_of_look {blocked : Site Table}
    (looked : site.look Host.table sender = (.blocked, blocked)) :
    blocked.queue.owner = site.queue.owner ∧ blocked.host = site.host.block site.queue.owner ∧
      site.host.knows site.queue.owner = true := by
  unfold Site.look at looked
  split at looked
  · cases looked
  · simp only [Host.table] at looked
    cases known : site.host.knows site.queue.owner with
    | true =>
      rw [known] at looked
      cases looked
      exact ⟨rfl, rfl, rfl⟩
    | false =>
      rw [known] at looked
      cases looked

/-- A look that delivers takes no lock but the queue's. -/
theorem look_delivers {queue : Queue} (found : kernel.registry.queues[number]? = some queue)
    (offered : queue.offers sender buffer.len = true) :
    (look number sender buffer).run kernel =
      ([.took (.queue number), .dropped (.queue number)],
        .ok (.delivered, (kernel.afterLook queue number sender buffer).2)) := by
  have read : (queueAt number).run kernel = ([], .ok (queue, kernel)) := by
    simp only [queueAt, Op.run, found]
  refine Op.run_locked kernel (.queue number) (?_ : Op.run _ kernel = ([], .ok (_, _)))
  rw [Op.run_bind_ok kernel read, if_pos offered, afterLook, if_pos offered]
  rfl

theorem afterLook_empty (kernel : Kernel) (queue : Queue) (number sender addr : Nat) :
    (kernel.afterLook queue number sender ⟨addr, 0⟩).2.table = kernel.table ∧
      (kernel.afterLook queue number sender ⟨addr, 0⟩).2.registry =
        kernel.registry.put number queue.endWait := by
  have offered : queue.offers sender 0 = true := Queue.offers_iff.mpr (Nat.zero_le _)
  have none_taken : queue.endWait.take sender 0 = ([], queue.endWait) := by
    rcases queue with ⟨owner, _ | ⟨message, rest⟩, waiting⟩ <;> rfl
  rw [afterLook, if_pos offered, none_taken]
  exact ⟨fill_table _ _ _, fill_registry _ _ _⟩

/-! ### Whole receives -/

def Received.look? : Received → Option Look
  | .delivered => some .delivered
  | .ownerGone => some .ownerGone
  | .parked => none

section Rounds
variable {σ ρ : Type} [HasKernel σ] {state after : σ}

/-- What becomes of the site of a parked receive: its owner passes the processor on, and one of the rounds runs. -/
def Passes (number : Nat) (buffer : Buffer) (rounds : List (Op σ ρ)) (blocked resumed : Site Table) : Prop :=
  ∃ round ∈ rounds, ∃ (before after : σ) (events : List Event) (result : ρ),
    (HasKernel.kernel before).site? number buffer = some blocked ∧
      (inside (onTable Scheduler.yield) >>= fun _ => round).run before = (events, .ok (result, after)) ∧
      (HasKernel.kernel after).site? number buffer = some resumed

theorem Passes.of_later {round : Op σ ρ} {later : List (Op σ ρ)} {blocked resumed : Site Table}
    (passes : Passes number buffer later blocked resumed) :
    Passes number buffer (round :: later) blocked resumed := by
  obtain ⟨one, member, ran⟩ := passes
  exact ⟨one, List.mem_cons_of_mem round member, ran⟩

/-- A kernel that was put into a state is found there. -/
def Finds (σ : Type) [HasKernel σ] : Prop :=
  ∀ (kernel : Kernel) (state : σ), HasKernel.kernel (HasKernel.put kernel state) = kernel

theorem inside_look_ran (finds : Finds σ) {events : List Event} {outcome : Look}
    (ran : (inside (look number sender buffer)).run state = (events, .ok (outcome, after))) :
    ∃ before left, (HasKernel.kernel state).site? number buffer = some before ∧
      before.look Host.table sender = (outcome, left) ∧
      (HasKernel.kernel after).site? number buffer = some left := by
  obtain ⟨kernel, looked, rfl⟩ := Op.onPart_ran ran
  rw [finds]
  exact look_ran looked

/-- A receive of the kernel that returns is a receive at its site. -/
theorem receive_receives (finds : Finds σ) {rounds : List (Op σ ρ)} {events : List Event}
    {received : Received} {results : List ρ} {unused : Nat} {outcome : Look}
    (ran : (receive number sender buffer rounds).run state =
      (events, .ok ((received, results, unused), after)))
    (returned : received.look? = some outcome) :
    ∃ start earlier last final, (HasKernel.kernel state).site? number buffer = some start ∧
      (HasKernel.kernel after).site? number buffer = some final ∧
      Receives Host.table sender (Passes number buffer rounds) start earlier last outcome final ∧
      earlier.length + unused = rounds.length := by
  induction rounds generalizing state events received results unused outcome after with
  | nil =>
    obtain ⟨_, looked, middle, _, first, rest⟩ := Op.bind_ran ran
    obtain ⟨before, left, seen, there, stays⟩ := inside_look_ran finds first
    cases looked with
    | delivered =>
      cases rest
      cases returned
      exact ⟨before, [], before, left, seen, stays, .ends there nofun, rfl⟩
    | ownerGone =>
      cases rest
      cases returned
      exact ⟨before, [], before, left, seen, stays, .ends there nofun, rfl⟩
    | blocked =>
      obtain ⟨_, _, _, _, -, rest⟩ := Op.bind_ran rest
      cases rest
      cases returned
  | cons round later ih =>
    obtain ⟨_, looked, middle, _, first, rest⟩ := Op.bind_ran ran
    obtain ⟨before, left, seen, there, stays⟩ := inside_look_ran finds first
    cases looked with
    | delivered =>
      cases rest
      cases returned
      exact ⟨before, [], before, left, seen, stays, .ends there nofun, Nat.zero_add _⟩
    | ownerGone =>
      cases rest
      cases returned
      exact ⟨before, [], before, left, seen, stays, .ends there nofun, Nat.zero_add _⟩
    | blocked =>
      obtain ⟨passed, _, yielded, _, gave, rest⟩ := Op.bind_ran rest
      obtain ⟨others, result, resumed, _, round_ran, rest⟩ := Op.bind_ran rest
      obtain ⟨_, ⟨received, results, unused⟩, _, _, again, rest⟩ := Op.bind_ran rest
      cases rest
      obtain ⟨start, earlier, last, final, found, kept, receives, count⟩ := ih again returned
      have passes : Passes number buffer (round :: later) left start := by
        refine ⟨round, List.mem_cons_self, middle, resumed, passed ++ others, result, stays, ?_, found⟩
        rw [Op.run_bind_ok middle gave, round_ran]
      refine ⟨before, (before, left) :: earlier, last, final, seen, kept, .parks there passes ?_, ?_⟩
      · exact receives.mono fun _ _ => Passes.of_later
      · simp only [List.length_cons]
        omega

/-- A receive of no bytes takes the queue's lock once, for a look that leaves the processes alone. -/
theorem receive_empty {queue : Queue} {addr : Nat} (rounds : List (Op σ ρ))
    (found : (HasKernel.kernel state).registry.queues[number]? = some queue) :
    ∃ after : Kernel, (receive number sender ⟨addr, 0⟩ rounds).run state =
        ([.took (.queue number), .dropped (.queue number)],
          .ok ((.delivered, [], rounds.length), HasKernel.put after state)) ∧
      after.table = (HasKernel.kernel state).table ∧
      after.registry = (HasKernel.kernel state).registry.put number queue.endWait := by
  have offered : queue.offers sender (Buffer.mk addr 0).len = true := Queue.offers_iff.mpr (Nat.zero_le _)
  have looked := look_delivers found offered
  have inner : (inside (look number sender ⟨addr, 0⟩)).run state =
      ([.took (.queue number), .dropped (.queue number)], .ok (.delivered,
        HasKernel.put ((HasKernel.kernel state).afterLook queue number sender ⟨addr, 0⟩).2 state)) := by
    simp only [Op.run] at looked
    simp only [inside, Op.onPart, Op.run, looked]
  refine ⟨_, ?_, afterLook_empty _ queue number sender addr⟩
  cases rounds with
  | nil =>
    rw [receive, Op.run_bind_ok state inner]
    rfl
  | cons round later =>
    rw [receive, Op.run_bind_ok state inner]
    rfl

end Rounds

/-- A receive takes all its bytes or none, whoever runs the processes and whatever happens at the site each time its
owner gives up the processor. The look it returns with either fills the whole buffer with the first of the sender's
bytes, takes these off the queue and nobody else's, or finds the owner unknown and too little queued and changes
neither; both end the wait. The looks before it change neither. So it is with every receive of the kernel that
returns, among any activity; one of no bytes returns at its first look without asking after anybody. -/
theorem receive_all_or_nothing :
    (∀ {τ : Type} (host : Host τ) (sender : Nat) (yields : Site τ → Site τ → Prop) (start : Site τ)
      (earlier : List (Site τ × Site τ)) (last : Site τ) (outcome : Look) (after : Site τ),
      Receives host sender yields start earlier last outcome after →
        last.AllOrNothing host sender after outcome ∧ outcome ≠ .blocked ∧
        (∀ look ∈ earlier, look.1.AllOrNothing host sender look.2 .blocked) ∧
        ((∀ blocked resumed, yields blocked resumed → resumed.buffer = blocked.buffer) →
          last.buffer = start.buffer) ∧
        (start.buffer = [] → earlier = [] ∧ outcome = .delivered ∧ after.host = start.host)) ∧
    (∀ {σ ρ : Type} [HasKernel σ], Finds σ → ∀ (number sender : Nat) (buffer : Buffer)
      (rounds : List (Op σ ρ)) (state after : σ) (events : List Event) (received : Received)
      (results : List ρ) (unused : Nat) (outcome : Look),
      (receive number sender buffer rounds).run state =
          (events, .ok ((received, results, unused), after)) →
        received.look? = some outcome →
        ∃ start earlier last final, (HasKernel.kernel state).site? number buffer = some start ∧
          (HasKernel.kernel after).site? number buffer = some final ∧
          Receives Host.table sender (Passes number buffer rounds) start earlier last outcome final ∧
          last.AllOrNothing Host.table sender final outcome ∧
          (∀ look ∈ earlier, look.1.AllOrNothing Host.table sender look.2 .blocked) ∧
          earlier.length + unused = rounds.length) ∧
    ∀ {σ ρ : Type} [HasKernel σ] (number sender addr : Nat) (rounds : List (Op σ ρ)) (state : σ)
      (queue : Queue), (HasKernel.kernel state).registry.queues[number]? = some queue →
        ∃ after : Kernel, (receive number sender ⟨addr, 0⟩ rounds).run state =
            ([.took (.queue number), .dropped (.queue number)],
              .ok ((.delivered, [], rounds.length), HasKernel.put after state)) ∧
          after.table = (HasKernel.kernel state).table ∧
          after.registry = (HasKernel.kernel state).registry.put number queue.endWait := by
  refine ⟨?_, ?_, ?_⟩
  · intro τ host sender yields start earlier last outcome after receives
    exact ⟨receives.ending.1, receives.ending.2, receives.waiting, receives.buffer_last, receives.of_empty⟩
  · intro σ ρ _ finds number sender buffer rounds state after events received results unused outcome ran returned
    obtain ⟨start, earlier, last, final, found, kept, receives, count⟩ := receive_receives finds ran returned
    exact ⟨start, earlier, last, final, found, kept, receives, receives.ending.1, receives.waiting, count⟩
  · intro σ ρ _ number sender addr rounds state queue found
    exact receive_empty rounds found

def loneReceiver : Kernel :=
  { Boot.kernel with
    registry := (Registry.empty.create 1).2
    table := Table.empty.changed [.spawn 1, .switchTo 1] }

/-- Process 1 is made ready by nobody's bytes, by a byte of process 8, by one of the two bytes of process 7 that it
waits for, and by the rest of them. -/
def earlyWakes : List (Op Kernel Unit) :=
  [wake 1, (do let _ ← send 0 none 8 [1]; wake 1), (do let _ ← send 0 none 7 [170]; wake 1),
    (do let _ ← send 0 none 7 [187, 204])]

theorem lone_receiver_served : ∃ start earlier last final,
    loneReceiver.site? 0 ⟨4096, 2⟩ = some start ∧
      Receives Host.table 7 (Passes 0 ⟨4096, 2⟩ earlyWakes) start earlier last .delivered final ∧
      last.Delivers 7 final ∧ earlier.length = 4 := by
  have answer : ((receive 0 7 ⟨4096, 2⟩ earlyWakes).run loneReceiver).2.toOption.map Prod.fst =
      some (.delivered, [(), (), (), ()], 0) := by
    decide +kernel
  rcases ran : (receive 0 7 ⟨4096, 2⟩ earlyWakes).run loneReceiver with ⟨events, fault | ⟨⟨_, _, _⟩, after⟩⟩
  · rw [ran] at answer
    cases answer
  · rw [ran] at answer
    cases answer
    obtain ⟨start, earlier, last, final, found, -, receives, whole, -, count⟩ :=
      receive_all_or_nothing.2.1 (fun _ _ => rfl) 0 7 ⟨4096, 2⟩ earlyWakes loneReceiver after events .delivered
        [(), (), (), ()] 0 .delivered ran rfl
    exact ⟨start, earlier, last, final, found, receives, whole, count⟩

end Nucleus.Kernel
