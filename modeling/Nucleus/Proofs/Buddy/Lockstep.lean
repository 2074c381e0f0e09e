import Nucleus.Proofs.Buddy.Abreast
import Nucleus.Proofs.Buddy.Payloads

/-! The same run in another window: whatever kind the windows are and wherever they lie, as long as they grant
the same sizes, the two sessions stay in lockstep. What is handed out is not wiped, though: a payload starts with
the bytes that its block held before, among them links of earlier free blocks, which are addresses. -/
namespace Nucleus

theorem Window.grants_iff {window : Window} (fits : window.base + window.capacity < Word.bound) {size : Nat} :
    (∃ after, window.reserve (window.base + size) = .ok (true, after)) ↔ size ≤ window.ceiling := by
  constructor
  · exact Window.le_ceiling_of_grants fits
  · intro below
    rw [Window.reserve_eq fits (Nat.le_add_right _ _), if_pos (Nat.add_le_add_left below _)]
    exact ⟨_, rfl⟩

namespace Buddy

/-- Two sessions in two windows of which everything that can be seen is the same, except that addresses lie at the
same places of different windows. -/
structure Lockstep (window other : Window) (session twin : Session) : Prop where
  ready : twin.heap.ready = session.heap.ready
  rootBucket : twin.heap.rootBucket = session.heap.rootBucket
  split : twin.heap.split.bytes = session.heap.split.bytes
  highWater : session.heap.ready = true → window.base ≤ session.heap.highWater ∧
    twin.heap.highWater = window.shift other session.heap.highWater
  lengths : ∀ bucket (valid : bucket < maxBuckets),
    twin.heap.lists[bucket].length = session.heap.lists[bucket].length
  free : ∀ bucket < maxBuckets, ∃ events more found,
    (Heap.freeBlocks bucket).run session.heap = (events, .ok (found, session.heap)) ∧
    (Heap.freeBlocks bucket).run twin.heap = (more, .ok (found.map (window.shift other), twin.heap)) ∧
    ∀ addr ∈ found, window.base ≤ addr
  live : twin.live = session.live.map (Loan.shift window other)
  above : ∀ loan ∈ session.live, window.base + headerSize ≤ loan.addr
  headers : ∀ loan ∈ session.live, ∀ i < headerSize,
    twin.byte (window.shift other loan.addr - headerSize + i) = session.byte (loan.addr - headerSize + i)

namespace Twins
variable {twins : Twins} {session twin : Session} {heap twinHeap : Heap}

theorem Abreast.lockstep (abreast : twins.Abreast session twin)
    (same : twins.otherSplit.bytes = twins.split.bytes) :
    Lockstep twins.window twins.other session twin := by
  constructor
  case ready => exact abreast.ready_eq
  case rootBucket => exact abreast.root_eq
  case live => exact abreast.live_eq
  case above => exact fun loan member => abreast.base_le member
  case free => exact fun bucket valid => abreast.frees valid
  case split =>
    cases abreast with
    | idle idle =>
      cases idle with
      | fresh => exact same
      | cleared => exact BitArray.bytes_clear twins.size
    | serving _ _ serving twin_serving => exact serving.shows.split_eq twin_serving.shows rfl
  case highWater =>
    intro ready
    cases abreast with
    | idle idle =>
      rw [idle.first.ready] at ready
      cases ready
    | @serving heap twinHeap live book large enough serving twin_serving =>
      have granted : heap.highWater = twins.window.base + book.granted := serving.shows.granted
      have twin_granted : twinHeap.highWater = twins.other.base + book.granted := twin_serving.shows.granted
      simp only [granted, twin_granted, Window.shift]
      omega
  case lengths =>
    intro bucket valid
    cases abreast with
    | idle idle => rw [idle.first.lists bucket valid, idle.second.lists bucket valid]
    | serving _ _ serving twin_serving =>
      rw [(serving.shows.lists bucket valid).length, (twin_serving.shows.lists bucket valid).length]
      simp only [Heap.listed, List.length_map]
  case headers =>
    intro loan member i inside
    cases abreast with
    | idle _ => cases member
    | serving large enough serving twin_serving =>
      have kept := serving.kept loan member
      have twin_kept := twin_serving.kept _ (List.mem_map_of_mem member)
      have start : loan.addr - headerSize =
          (twins.site large enough).addressOf (loan.block (twins.site large enough)) := by
        rw [kept.addr, Nat.add_sub_cancel]
      have twin_start : twins.window.shift twins.other loan.addr - headerSize =
          (twins.otherSite large enough).addressOf
            ((loan.shift twins.window twins.other).block (twins.otherSite large enough)) :=
        Nat.sub_eq_of_eq_add twin_kept.addr
      rw [start, twin_start]
      exact Memory.get_congr (twin_kept.header.trans kept.header.symm) inside

end Twins

namespace Session
variable {window other : Window} {session twin later : Session} {loan : Loan} {addr : Nat}

def Action.Overwrites (loan : Loan) (addr : Nat) : Action → Prop
  | .write start bytes => loan.addr ≤ start ∧ start + bytes.length ≤ loan.addr + loan.request ∧
      start ≤ addr ∧ addr < start + bytes.length
  | .allocate _ | .release _ => False

instance (loan : Loan) (addr : Nat) (action : Action) : Decidable (action.Overwrites loan addr) :=
  match action with
  | .write start bytes => inferInstanceAs (Decidable (loan.addr ≤ start ∧
      start + bytes.length ≤ loan.addr + loan.request ∧ start ≤ addr ∧ addr < start + bytes.length))
  | .allocate _ | .release _ => inferInstanceAs (Decidable False)

/-- What the owner writes does not depend on what was there. -/
theorem Action.Overwrites.byOwner_eq {action : Action} (overwrites : action.Overwrites loan addr)
    (byte another : UInt8) : action.byOwner loan addr byte = action.byOwner loan addr another := by
  cases action with
  | allocate request => cases overwrites
  | release other => cases overwrites
  | write start bytes =>
    obtain ⟨first, last, above, below⟩ := overwrites
    have inside : addr - start < bytes.length := by omega
    simp only [Action.byOwner, if_pos (And.intro first (And.intro last above)),
      List.getElem?_eq_getElem inside, Option.getD_some]

/-- A byte is the same after a run if it was the same before, or if its owner has written it since. -/
theorem foldl_byOwner_congr {actions : List Action} {byte another : UInt8}
    (known : byte = another ∨ ∃ action ∈ actions, action.Overwrites loan addr) :
    actions.foldl (fun byte action => action.byOwner loan addr byte) byte =
      actions.foldl (fun byte action => action.byOwner loan addr byte) another := by
  induction actions generalizing byte another with
  | nil =>
    rcases known with same | ⟨_, none, -⟩
    · exact same
    · cases none
  | cons action rest ih =>
    rw [List.foldl_cons, List.foldl_cons]
    apply ih
    rcases known with rfl | ⟨writer, member, overwrites⟩
    · exact .inl rfl
    · rcases List.mem_cons.mp member with rfl | later
      · exact .inl (overwrites.byOwner_eq _ _)
      · exact .inr ⟨writer, later, overwrites⟩

/-- In another window the owner does the same to the byte at the same place. -/
theorem Action.byOwner_shift (above : window.base + headerSize ≤ loan.addr) (within : loan.addr ≤ addr)
    (action : Action) (byte : UInt8) :
    (action.shift window other).byOwner (loan.shift window other) (window.shift other addr) byte =
      action.byOwner loan addr byte := by
  cases action with
  | allocate request => rfl
  | release start => rfl
  | write start bytes =>
    have word : headerSize = 8 := rfl
    have order : (loan.shift window other).addr ≤ window.shift other start ∧
        window.shift other start + bytes.length ≤
          (loan.shift window other).addr + (loan.shift window other).request ∧
        window.shift other start ≤ window.shift other addr ↔
        loan.addr ≤ start ∧ start + bytes.length ≤ loan.addr + loan.request ∧ start ≤ addr := by
      simp only [Loan.shift, Window.shift]
      omega
    simp only [Action.shift, Action.byOwner, order]
    split
    · rename_i own
      have place : window.shift other addr - window.shift other start = addr - start := by
        simp only [Window.shift]
        omega
      rw [place]
    · rfl

theorem Action.shift_release (above : window.base + headerSize ≤ loan.addr) {action : Action}
    (released : action.shift window other = .release (loan.shift window other).addr) :
    action = .release loan.addr := by
  cases action with
  | allocate request => cases released
  | write start bytes => cases released
  | release start =>
    have same := Action.release.inj released
    have word : headerSize = 8 := rfl
    simp only [Loan.shift, Window.shift] at same
    split at same
    · omega
    · congr 1
      omega

/-- The same run in another window. -/
theorem lockstep_in_any_window (other : Window) {geometry : Geometry} {split : BitArray} {actions : List Action}
    (fits : window.base + window.capacity < Word.bound) (other_fits : other.base + other.capacity < Word.bound)
    (large : geometry.maxBlock ≤ window.capacity) (other_large : geometry.maxBlock ≤ other.capacity)
    (grants : ∀ size ≤ geometry.maxBlock,
      (∃ after, window.reserve (window.base + size) = .ok (true, after)) ↔
        ∃ after, other.reserve (other.base + size) = .ok (true, after))
    (ended : (⟨Heap.fresh geometry window split, []⟩ : Session).follow actions = some session) :
    ∃ twin, (⟨Heap.fresh geometry other split, []⟩ : Session).follow
        (actions.map (Action.shift window other)) = some twin ∧
      Lockstep window other session twin ∧
      (∀ request, ∃ events result heap more twinHeap,
        (Heap.allocate request).run session.heap = (events, .ok (result, heap)) ∧
        (Heap.allocate request).run twin.heap = (more, .ok (result.map (window.shift other), twinHeap)) ∧
        ∀ addr, result = .ok addr → window.base ≤ addr) ∧
      ∀ next later, session.follow next = some later → ∃ twinLater,
        twin.follow (next.map (Action.shift window other)) = some twinLater ∧
        ∀ loan ∈ session.live, (∀ action ∈ next, action ≠ .release loan.addr) →
          ∀ addr, loan.addr ≤ addr → addr < loan.addr + loan.request →
          (twin.byte (window.shift other addr) = session.byte addr ∨
            ∃ action ∈ next, action.Overwrites loan addr) →
          twinLater.byte (window.shift other addr) = later.byte addr := by
  let twins : Twins := ⟨geometry, window, other, split, split, fits, other_fits,
    iff_of_true large other_large, fun size inside => by
      rw [← Window.grants_iff fits, ← Window.grants_iff other_fits]
      exact grants size inside, rfl⟩
  have start : twins.Abreast ⟨Heap.fresh geometry window split, []⟩ ⟨Heap.fresh geometry other split, []⟩ :=
    .idle .fresh
  obtain ⟨twin, twin_ended, abreast⟩ := start.follow ended
  have lockstep := abreast.lockstep rfl
  refine ⟨twin, twin_ended, lockstep, ?_, ?_⟩
  · intro request
    obtain ⟨events, result, heap, more, twinHeap, ran, twin_ran, after⟩ := abreast.allocates request
    refine ⟨events, result, heap, more, twinHeap, ran, twin_ran, ?_⟩
    rintro addr rfl
    exact (Nat.le_add_right _ _).trans (after.base_le List.mem_cons_self)
  · intro next later later_ended
    obtain ⟨twinLater, later_follows, -⟩ := abreast.follow later_ended
    have twin_later_ended : twin.follow (next.map (Action.shift window other)) = some twinLater := later_follows
    refine ⟨twinLater, later_follows, fun loan member kept addr within below known => ?_⟩
    have above : window.base + headerSize ≤ loan.addr := lockstep.above loan member
    have reached : Reached geometry window split session := Reached.start.follow ended
    have twin_reached : Reached geometry other split twin := Reached.start.follow twin_ended
    have bytes := (reached.keeps_follow fits member later_ended kept).2 addr (by omega) below
    have twin_member : loan.shift window other ∈ twin.live := lockstep.live ▸ List.mem_map_of_mem member
    have twin_kept : ∀ action ∈ next.map (Action.shift window other),
        action ≠ .release (loan.shift window other).addr := by
      intro action mapped released
      obtain ⟨original, here, rfl⟩ := List.mem_map.mp mapped
      exact kept original here (Action.shift_release above released)
    have twin_bytes := (twin_reached.keeps_follow other_fits twin_member twin_later_ended twin_kept).2
      (window.shift other addr) (by simp only [Loan.shift, Window.shift]; omega)
      (by simp only [Loan.shift, Window.shift]; omega)
    rw [bytes, twin_bytes, List.foldl_map]
    simp only [Action.byOwner_shift above within]
    exact foldl_byOwner_congr known

def hosted : Session := ⟨Heap.fresh Geometry.small (Window.buffer 8192 64) (BitArray.filled 1 0), []⟩

theorem hosted_grants : ∀ size ≤ Geometry.small.maxBlock,
    (∃ after, (Window.raw 4096 64).reserve (4096 + size) = .ok (true, after)) ↔
      ∃ after, (Window.buffer 8192 64).reserve (8192 + size) = .ok (true, after) := by
  intro size inside
  have first := @Window.grants_iff (Window.raw 4096 64) (by decide) size
  have second := @Window.grants_iff (Window.buffer 8192 64) (by decide) size
  exact first.trans second.symm

theorem hosted_lockstep : ∃ session twin later twinLater,
    small.follow [.allocate 8, .allocate 20] = some session ∧
    hosted.follow [.allocate 8, .allocate 20] = some twin ∧
    Lockstep (Window.raw 4096 64) (Window.buffer 8192 64) session twin ∧
    session.follow [.write 4136 [1, 2], .release 4104] = some later ∧
    twin.follow [.write 8232 [1, 2], .release 8200] = some twinLater ∧
    twinLater.byte 8233 = later.byte 4137 := by
  have ended : (small.follow [.allocate 8, .allocate 20]).map Session.live =
        some [⟨4136, 20⟩, ⟨4104, 8⟩] ∧
      ((small.follow [.allocate 8, .allocate 20]).bind fun session =>
        session.follow [.write 4136 [1, 2], .release 4104]).isSome = true := by decide +kernel
  obtain ⟨started, ended⟩ := ended
  obtain ⟨session, ran, live⟩ := Option.map_eq_some_iff.mp started
  rw [ran, Option.bind_some] at ended
  obtain ⟨later, ended⟩ := Option.isSome_iff_exists.mp ended
  obtain ⟨twin, twin_ran, lockstep, -, goes_on⟩ := lockstep_in_any_window (Window.buffer 8192 64)
    (by decide) (by decide) (by decide) (by decide) hosted_grants ran
  obtain ⟨twinLater, twin_ended, bytes⟩ := goes_on _ _ ended
  have member : ⟨4136, 20⟩ ∈ session.live := live ▸ List.mem_cons_self
  have same := bytes _ member (by simp) 4137 (by decide) (by decide)
    (.inr ⟨_, List.mem_cons_self, by decide⟩)
  exact ⟨session, twin, later, twinLater, ran, twin_ran, lockstep, ended, twin_ended, same⟩

/-- A payload that is handed out again still holds a link, which is an address: its bytes tell the two windows
apart, although both grant the same sizes. -/
theorem stale_links_tell_windows_apart :
    (∀ size ≤ Geometry.small.maxBlock,
      (∃ after, (Window.raw 4096 64).reserve (4096 + size) = .ok (true, after)) ↔
        ∃ after, (Window.buffer 8192 64).reserve (8192 + size) = .ok (true, after)) ∧
    ∃ session twin,
      small.follow [.allocate 8, .allocate 8, .allocate 8, .allocate 8, .release 4136, .release 4120,
        .release 4104, .allocate 20] = some session ∧
      hosted.follow [.allocate 8, .allocate 8, .allocate 8, .allocate 8, .release 8232, .release 8216,
        .release 8200, .allocate 20] = some twin ∧
      session.live = [⟨4104, 20⟩, ⟨4152, 8⟩] ∧ twin.live = [⟨8200, 20⟩, ⟨8248, 8⟩] ∧
      session.byte 4113 = 16 ∧ twin.byte 8209 = 32 := by
  refine ⟨hosted_grants, ?_⟩
  have ended : (small.follow [.allocate 8, .allocate 8, .allocate 8, .allocate 8, .release 4136,
        .release 4120, .release 4104, .allocate 20]).map (fun session => (session.live, session.byte 4113)) =
        some ([⟨4104, 20⟩, ⟨4152, 8⟩], 16) := by decide +kernel
  have twin_ended : (hosted.follow [.allocate 8, .allocate 8, .allocate 8, .allocate 8, .release 8232,
        .release 8216, .release 8200, .allocate 20]).map (fun session => (session.live, session.byte 8209)) =
        some ([⟨8200, 20⟩, ⟨8248, 8⟩], 32) := by decide +kernel
  obtain ⟨session, ran, same⟩ := Option.map_eq_some_iff.mp ended
  obtain ⟨twin, twin_ran, twin_same⟩ := Option.map_eq_some_iff.mp twin_ended
  obtain ⟨live, byte⟩ := Prod.mk.inj same
  obtain ⟨twin_live, twin_byte⟩ := Prod.mk.inj twin_same
  exact ⟨session, twin, ran, twin_ran, live, twin_live, byte, twin_byte⟩

end Session

end Buddy

end Nucleus
