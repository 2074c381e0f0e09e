import Nucleus.Proofs.Buddy.Partition

/-! Payloads keep their bytes. From the time a payload is handed out until it is taken back, its header stays as
it is, and its bytes change by the writes of its owner only. What the heap writes are the links of blocks that
are free before or after, and the header of the block it hands out. -/
namespace Nucleus.Buddy.Session

/-- What becomes of a byte under a payload when nothing but its owner's writes inside the payload counts. -/
def Action.byOwner (loan : Loan) (addr : Nat) (byte : UInt8) : Action → UInt8
  | .write start bytes =>
    if loan.addr ≤ start ∧ start + bytes.length ≤ loan.addr + loan.request ∧ start ≤ addr then
      bytes[addr - start]?.getD byte
    else byte
  | .allocate _ | .release _ => byte

variable {geometry : Geometry} {window : Window} {split : BitArray} {session after : Session} {action : Action}
variable {loan other : Loan} {addr : Nat} {actions : List Action}

theorem Reached.holds (fits : window.base + window.capacity < Word.bound)
    (reached : Reached geometry window split session) (member : loan ∈ session.live)
    (above : loan.addr ≤ addr + headerSize) (below : addr < loan.addr + loan.request) :
    (loan.extent geometry).Holds addr := by
  obtain ⟨site, book, rfl, rfl, serving⟩ := reached.serving_of_live fits member
  have start := (serving.kept loan member).addr
  have room := site.geometry.le_roomFor loan.request
  unfold Extent.Holds Loan.extent
  simp only
  omega

theorem Reached.apart (fits : window.base + window.capacity < Word.bound)
    (reached : Reached geometry window split session) (member : loan ∈ session.live)
    (other_member : other ∈ session.live) (distinct : loan ≠ other) :
    (loan.extent geometry).Apart (other.extent geometry) := by
  obtain ⟨site, book, rfl, rfl, serving⟩ := reached.serving_of_live fits member
  have apart := (List.pairwise_append.mp serving.divides.apart).2.1
  rw [List.pairwise_map] at apart
  have symm : Std.Symm fun first second : Loan =>
      (first.extent site.geometry).Apart (second.extent site.geometry) :=
    ⟨fun _ _ apart addr both => apart addr both.symm⟩
  exact apart.forall member other_member distinct

/-- A legal write that reaches a live payload or its header is a write of its owner. -/
theorem Reached.onByte_eq (fits : window.base + window.capacity < Word.bound)
    (reached : Reached geometry window split session) (legal : session.Legal action)
    (member : loan ∈ session.live) (above : loan.addr ≤ addr + headerSize)
    (below : addr < loan.addr + loan.request) (byte : UInt8) :
    action.onByte addr byte = action.byOwner loan addr byte := by
  cases action with
  | allocate request => rfl
  | release addr => rfl
  | write start bytes =>
    obtain ⟨writer, writer_member, first, last⟩ := legal
    simp only [Action.onByte, Action.byOwner]
    by_cases own : writer = loan
    · subst own
      simp [first, last]
    · by_cases reaches : start ≤ addr ∧ addr < start + bytes.length
      · have held : (writer.extent geometry).Holds addr :=
          reached.holds fits writer_member (by omega) (by omega)
        exact absurd ⟨held, reached.holds fits member above below⟩
          (reached.apart fits writer_member member own addr)
      · split
        · rw [List.getElem?_eq_none (by omega), Option.getD_none, ite_self]
        · rw [if_neg fun both => absurd both.2.2 (by assumption)]

theorem Reached.headers (fits : window.base + window.capacity < Word.bound)
    (reached : Reached geometry window split session) (member : loan ∈ session.live) :
    headerSize ≤ loan.addr ∧
      session.heap.window.memory.readWord (loan.addr - headerSize) = loan.request := by
  obtain ⟨site, book, -, -, serving⟩ := reached.serving_of_live fits member
  exact serving.divides.headers loan member

/-- One action, unless it takes the payload back, leaves it live, and does to its bytes what the owner does. -/
theorem Reached.keeps (fits : window.base + window.capacity < Word.bound)
    (reached : Reached geometry window split session) (member : loan ∈ session.live)
    (legal : session.Legal action) {events : List Event}
    (ran : (perform action).run session = (events, .ok ((), after)))
    (kept : action ≠ .release loan.addr) :
    loan ∈ after.live ∧ ∀ addr, loan.addr ≤ addr + headerSize → addr < loan.addr + loan.request →
      after.byte addr = action.byOwner loan addr (session.byte addr) := by
  obtain ⟨_, _, other_ran, -, traced⟩ := perform_traced fits (reached.good fits) legal
  rw [ran] at other_ran
  cases other_ran
  have stays := traced.stays loan member kept
  refine ⟨stays, fun addr above below => ?_⟩
  rw [traced.bytes loan member stays addr above below]
  exact reached.onByte_eq fits legal member above below _

theorem Reached.keeps_follow (fits : window.base + window.capacity < Word.bound)
    (reached : Reached geometry window split session) (member : loan ∈ session.live)
    (ended : session.follow actions = some after) (kept : ∀ action ∈ actions, action ≠ .release loan.addr) :
    loan ∈ after.live ∧ ∀ addr, loan.addr ≤ addr + headerSize → addr < loan.addr + loan.request →
      after.byte addr =
        actions.foldl (fun byte action => action.byOwner loan addr byte) (session.byte addr) := by
  induction actions generalizing session with
  | nil =>
    cases ended
    exact ⟨member, fun _ _ _ => rfl⟩
  | cons action rest ih =>
    obtain ⟨legal, events, middle, ran, ended⟩ := follow_cons.mp ended
    obtain ⟨stays, bytes⟩ := reached.keeps fits member legal ran (kept action List.mem_cons_self)
    obtain ⟨last, later⟩ := ih (reached.act legal ran) stays ended
      fun action member => kept action (List.mem_cons_of_mem _ member)
    refine ⟨last, fun addr above below => ?_⟩
    rw [later addr above below, bytes addr above below, List.foldl_cons]

/-- As long as a payload is not taken back, it stays live with its header unchanged, and its bytes are what its
owner's writes have made of them, whatever else is done. All that allocations and releases write are links of
blocks that are free before or after the write, and the header of what is handed out. -/
theorem payload_intact (fits : window.base + window.capacity < Word.bound)
    (reached : Reached geometry window split session) :
    (∀ loan ∈ session.live, ∀ actions after, session.follow actions = some after →
      (∀ action ∈ actions, action ≠ .release loan.addr) →
      loan ∈ after.live ∧ headerSize ≤ loan.addr ∧
        after.heap.window.memory.readWord (loan.addr - headerSize) = loan.request ∧
        ∀ addr, loan.addr ≤ addr + headerSize → addr < loan.addr + loan.request →
          after.byte addr =
            actions.foldl (fun byte action => action.byOwner loan addr byte) (session.byte addr)) ∧
    (∀ action, session.Legal action → action.OfHeap → ∃ events after,
      (perform action).run session = (events, .ok ((), after)) ∧
        Heap.Writes (fun addr value => after.live = ⟨addr + headerSize, value⟩ :: session.live)
          session.heap events after.heap) := by
  constructor
  · intro loan member actions after ended kept
    obtain ⟨stays, bytes⟩ := reached.keeps_follow fits member ended kept
    obtain ⟨positive, header⟩ := (reached.follow ended).headers fits stays
    exact ⟨stays, positive, header, bytes⟩
  · intro action legal ofHeap
    obtain ⟨events, after, ran, -, traced⟩ := perform_traced fits (reached.good fits) legal
    exact ⟨events, after, ran, traced.writes ofHeap⟩

theorem payload_of_small : ∃ session after, small.follow [.allocate 8] = some session ∧
    session.live = [⟨4104, 8⟩] ∧
    session.follow [.write 4104 [7, 8, 9], .allocate 20, .write 4136 [1], .release 4136] = some after ∧
    ⟨4104, 8⟩ ∈ after.live ∧ after.heap.window.memory.readWord 4096 = 8 ∧ after.byte 4105 = 8 := by
  have ended : (small.follow [.allocate 8]).map Session.live = some [⟨4104, 8⟩] ∧
      (((small.follow [.allocate 8]).bind fun session =>
        session.follow [.write 4104 [7, 8, 9], .allocate 20, .write 4136 [1], .release 4136]).map
          Session.live).isSome = true := by decide +kernel
  obtain ⟨started, ended⟩ := ended
  obtain ⟨session, ran, live⟩ := Option.map_eq_some_iff.mp started
  rw [ran, Option.isSome_map, Option.bind_some] at ended
  obtain ⟨after, ended⟩ := Option.isSome_iff_exists.mp ended
  have member : ⟨4104, 8⟩ ∈ session.live := live ▸ List.mem_cons_self
  obtain ⟨stays, -, header, bytes⟩ := (payload_intact (by decide) (Reached.start.follow ran)).1 _ member _ _
    ended (by simp)
  exact ⟨session, after, ran, live, ended, stays, header, bytes 4105 (by decide) (by decide)⟩

end Nucleus.Buddy.Session
