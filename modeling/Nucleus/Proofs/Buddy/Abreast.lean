import Nucleus.Proofs.Buddy.Ceilings
import Nucleus.Proofs.Buddy.Session

/-! Two heaps abreast: the same allocations and releases in two windows that grant the same sizes. Both heaps
keep the same book, so what is handed out lies at the same place in both windows. -/
namespace Nucleus

/-- The address at the same place in another window. -/
def Window.shift (window other : Window) (addr : Nat) : Nat := other.base + (addr - window.base)

namespace Buddy

def Loan.shift (window other : Window) (loan : Loan) : Loan := ⟨window.shift other loan.addr, loan.request⟩

/-- The same action in another window. Address 0 is nobody's payload in any window. -/
def Session.Action.shift (window other : Window) : Session.Action → Session.Action
  | .allocate request => .allocate request
  | .release addr => .release (if addr = 0 then 0 else window.shift other addr)
  | .write addr bytes => .write (window.shift other addr) bytes

/-- Two windows for the same tree, with storage of the same size for its split bits. -/
structure Twins where
  geometry : Geometry
  window : Window
  other : Window
  split : BitArray
  otherSplit : BitArray
  fits : window.base + window.capacity < Word.bound
  other_fits : other.base + other.capacity < Word.bound
  large : geometry.maxBlock ≤ window.capacity ↔ geometry.maxBlock ≤ other.capacity
  alike : geometry.GrantsAlike window.ceiling other.ceiling
  size : otherSplit.size = split.size

namespace Twins

/-- The same windows with their sides exchanged. -/
def swap (twins : Twins) : Twins where
  geometry := twins.geometry
  window := twins.other
  other := twins.window
  split := twins.otherSplit
  otherSplit := twins.split
  fits := twins.other_fits
  other_fits := twins.fits
  large := twins.large.symm
  alike size inside := (twins.alike size inside).symm
  size := twins.size.symm

section Sites
variable (twins : Twins) (large : twins.geometry.maxBlock ≤ twins.window.capacity)
  (enough : twins.geometry.splitBytes ≤ twins.split.size)

def site : Site := ⟨twins.geometry, twins.window, twins.split.size, twins.fits, large, enough⟩

def otherSite : Site :=
  ⟨twins.geometry, twins.other, twins.split.size, twins.other_fits, twins.large.mp large, enough⟩

theorem swap_site : twins.swap.site (twins.large.mp large) (twins.size.symm ▸ enough) =
    twins.otherSite large enough := by
  simp only [site, otherSite, swap, twins.size]

theorem swap_otherSite : twins.swap.otherSite (twins.large.mp large) (twins.size.symm ▸ enough) =
    twins.site large enough := by
  simp only [site, otherSite, swap, twins.size]

theorem shift_addressOf (block : Block) :
    twins.window.shift twins.other ((twins.site large enough).addressOf block + headerSize) =
      (twins.otherSite large enough).addressOf block + headerSize := by
  simp only [Window.shift, Site.addressOf, site, otherSite]
  omega

theorem shift_listed (book : Book) (bucket : Nat) :
    Heap.listed (twins.otherSite large enough) book bucket =
      (Heap.listed (twins.site large enough) book bucket).map (twins.window.shift twins.other) := by
  rw [Heap.listed, Heap.listed, List.map_map]
  apply List.map_congr_left
  intro block _
  simp only [Function.comp, Window.shift, Site.addressOf, site, otherSite, Nat.add_sub_cancel_left]

theorem base_le_of_listed {book : Book} {bucket addr : Nat}
    (member : addr ∈ Heap.listed (twins.site large enough) book bucket) : twins.window.base ≤ addr := by
  obtain ⟨block, -, rfl⟩ := List.mem_map.mp member
  exact Nat.le_add_right _ _

end Sites

variable {twins : Twins} {session twin after : Session} {heap twinHeap : Heap} {live : List Loan} {book : Book}
variable {action : Session.Action} {request : Nat} {events : List Event}
variable {large : twins.geometry.maxBlock ≤ twins.window.capacity}
variable {enough : twins.geometry.splitBytes ≤ twins.split.size}

theorem base_le_of_kept {loan : Loan} (kept : loan.Kept (twins.site large enough) heap) :
    twins.window.base + headerSize ≤ loan.addr := by
  rw [kept.addr]
  exact Nat.add_le_add_right (Nat.le_add_right _ _) _

/-- The same block lies under a payload in both windows. -/
theorem block_shift {loan : Loan} (kept : loan.Kept (twins.site large enough) heap) :
    (loan.shift twins.window twins.other).block (twins.otherSite large enough) =
      loan.block (twins.site large enough) := by
  have above := base_le_of_kept kept
  have place : twins.window.shift twins.other loan.addr - headerSize - twins.other.base =
      loan.addr - headerSize - twins.window.base := by
    unfold Window.shift
    omega
  simp only [Loan.block, Loan.shift, site, otherSite, place]

theorem shift_back {window : Window} (other : Window) {loan : Loan} (start : window.base ≤ loan.addr) :
    (loan.shift window other).shift other window = loan := by
  simp only [Loan.shift, Window.shift, Nat.add_sub_cancel_left, Nat.add_sub_of_le start]

/-- Two heaps before the first block is freed in them. -/
inductive Idle (twins : Twins) : Heap → Heap → Prop
  | fresh : Idle twins (Heap.fresh twins.geometry twins.window twins.split)
      (Heap.fresh twins.geometry twins.other twins.otherSplit)
  | cleared : Idle twins (Heap.fresh twins.geometry twins.window twins.split).cleared
      (Heap.fresh twins.geometry twins.other twins.otherSplit).cleared

namespace Idle

theorem first (idle : twins.Idle heap twinHeap) :
    heap.Idle twins.geometry twins.window twins.split.size := by
  cases idle with
  | fresh => exact Heap.idle_fresh _ _ _
  | cleared => exact (Heap.idle_fresh _ _ _).cleared

theorem swap (idle : twins.Idle heap twinHeap) : twins.swap.Idle twinHeap heap := by
  cases idle with
  | fresh => exact .fresh
  | cleared => exact .cleared

theorem second (idle : twins.Idle heap twinHeap) :
    twinHeap.Idle twins.geometry twins.other twins.split.size := twins.size ▸ idle.swap.first

theorem clear (idle : twins.Idle heap twinHeap) : twins.Idle heap.cleared twinHeap.cleared := by
  cases idle with
  | fresh => exact .cleared
  | cleared => exact .cleared

end Idle

/-- Neither heap is prepared, or both are in service with the same book. -/
inductive Abreast (twins : Twins) : Session → Session → Prop
  | idle {heap twinHeap : Heap} : twins.Idle heap twinHeap → Abreast twins ⟨heap, []⟩ ⟨twinHeap, []⟩
  | serving {heap twinHeap : Heap} {live : List Loan} {book : Book}
      (large : twins.geometry.maxBlock ≤ twins.window.capacity)
      (enough : twins.geometry.splitBytes ≤ twins.split.size) :
      heap.Serving (twins.site large enough) live book →
      twinHeap.Serving (twins.otherSite large enough)
        (live.map (Loan.shift twins.window twins.other)) book →
      Abreast twins ⟨heap, live⟩ ⟨twinHeap, live.map (Loan.shift twins.window twins.other)⟩

theorem Abreast.swap (abreast : twins.Abreast session twin) : twins.swap.Abreast twin session := by
  cases abreast with
  | idle idle => exact .idle idle.swap
  | @serving heap twinHeap live book large enough serving twin_serving =>
    have back : (live.map (Loan.shift twins.window twins.other)).map (Loan.shift twins.other twins.window) = live := by
      rw [List.map_map]
      refine (List.map_congr_left fun loan member => ?_).trans (List.map_id _)
      exact shift_back twins.other ((Nat.le_add_right _ _).trans (base_le_of_kept (serving.kept loan member)))
    have abreast := Abreast.serving (twins.large.mp large) (twins.size.symm ▸ enough)
      (swap_site twins large enough ▸ twin_serving)
      (swap_otherSite twins large enough ▸ back.symm ▸ serving)
    rwa [swap, back] at abreast

/-- An allocation in both sessions ends with the same error or with addresses at the same place, and leaves the
sessions abreast. -/
def AllocatesAlike (twins : Twins) (request : Nat) (session twin : Session) : Prop :=
  ∃ events result heap more twinHeap,
    (Heap.allocate request).run session.heap = (events, .ok (result, heap)) ∧
    (Heap.allocate request).run twin.heap =
      (more, .ok (result.map (twins.window.shift twins.other), twinHeap)) ∧
    twins.Abreast (session.recorded request heap result)
      (twin.recorded request twinHeap (result.map (twins.window.shift twins.other)))

theorem AllocatesAlike.of_error {error : AllocError} {more : List Event} {last twinLast : Heap}
    (ran : (Heap.allocate request).run session.heap = (events, .ok (.error error, last)))
    (twin_ran : (Heap.allocate request).run twin.heap = (more, .ok (.error error, twinLast)))
    (abreast : twins.Abreast ⟨last, session.live⟩ ⟨twinLast, twin.live⟩) :
    twins.AllocatesAlike request session twin :=
  ⟨events, .error error, last, more, twinLast, ran, twin_ran, abreast⟩

/-- Heaps that serve the same plan hand out the same block. -/
theorem AllocatesAlike.of_served {plan : Except AllocError Block × Book} {more : List Event}
    {result twinResult : Except AllocError Nat} {last twinLast : Heap}
    (same : twin.live = session.live.map (Loan.shift twins.window twins.other))
    (ran : (Heap.allocate request).run session.heap = (events, .ok (result, last)))
    (twin_ran : (Heap.allocate request).run twin.heap = (more, .ok (twinResult, twinLast)))
    (served : Heap.Served (twins.site large enough) session.live request plan result last)
    (twin_served : Heap.Served (twins.otherSite large enough) twin.live request plan twinResult twinLast) :
    twins.AllocatesAlike request session twin := by
  rw [same] at twin_served
  rcases plan with ⟨error | block, book⟩
  · obtain ⟨rfl, serving⟩ := served
    obtain ⟨rfl, twin_serving⟩ := twin_served
    apply AllocatesAlike.of_error ran twin_ran
    rw [same]
    exact .serving large enough serving twin_serving
  · obtain ⟨rfl, serving⟩ := served
    obtain ⟨rfl, twin_serving⟩ := twin_served
    have place := twins.shift_addressOf large enough block
    have mapped : (⟨(twins.otherSite large enough).addressOf block + headerSize, request⟩ : Loan) =
        Loan.shift twins.window twins.other
          ⟨(twins.site large enough).addressOf block + headerSize, request⟩ := by
      rw [Loan.shift, place]
    rw [← place] at twin_ran
    refine ⟨events, _, last, more, twinLast, ran, twin_ran, ?_⟩
    rw [mapped, ← List.map_cons] at twin_serving
    simp only [Session.recorded, Except.map, same, place, mapped, ← List.map_cons]
    exact .serving large enough serving twin_serving

/-- Both windows have room for the first free block, or neither has. -/
theorem Idle.allocates_prepared (idle : twins.Idle heap twinHeap)
    (large : twins.geometry.maxBlock ≤ twins.window.capacity)
    (enough : twins.geometry.splitBytes ≤ twins.split.size)
    (small : request + headerSize ≤ twins.geometry.maxBlock) :
    twins.AllocatesAlike request ⟨heap, []⟩ ⟨twinHeap, []⟩ := by
  have first : heap.Idle (twins.site large enough).geometry (twins.site large enough).window
      (twins.site large enough).splitSize := idle.first
  have second : twinHeap.Idle (twins.otherSite large enough).geometry (twins.otherSite large enough).window
      (twins.otherSite large enough).splitSize := idle.second
  have inside : linkSize ≤ twins.geometry.maxBlock :=
    (Geometry.linkSize_le_blockSize le_rfl).trans (twins.geometry.blockSize_le_maxBlock _)
  have both := twins.alike _ inside
  by_cases granted : linkSize ≤ twins.window.ceiling
  · obtain ⟨events, result, last, ran, -, served⟩ := first.serves small granted
    obtain ⟨more, twinResult, twinLast, twin_ran, -, twin_served⟩ := second.serves small (both.mp granted)
    have plan : Plan.allocate twins.geometry twins.window.ceiling request _ = _ :=
      Plan.allocate_congr twins.alike (Sound.start twins.geometry) request
    exact .of_served rfl ran twin_ran served (plan ▸ twin_served)
  · obtain ⟨events, ran, -⟩ := first.refuses (fun _ _ => False) small granted
    obtain ⟨more, twin_ran, -⟩ := second.refuses (fun _ _ => False) small (mt both.mpr granted)
    exact .of_error ran twin_ran (.idle idle.clear)

theorem Idle.allocates (idle : twins.Idle heap twinHeap) (request : Nat) :
    twins.AllocatesAlike request ⟨heap, []⟩ ⟨twinHeap, []⟩ := by
  have first := idle.first
  have second := idle.second
  by_cases small : twins.geometry.maxBlock < request + headerSize
  · have ran := Heap.allocate_tooLarge (first.geometry ▸ small)
    exact .of_error ran (Heap.allocate_tooLarge (second.geometry ▸ small)) (.idle idle)
  have unprepared : ∀ {error : AllocError}, Heap.prepare.run heap = ([], .ok (.error error, heap)) →
      Heap.prepare.run twinHeap = ([], .ok (.error error, twinHeap)) →
      twins.AllocatesAlike request ⟨heap, []⟩ ⟨twinHeap, []⟩ := fun failed twin_failed =>
    .of_error (Heap.allocate_unprepared (first.geometry ▸ small) failed)
      (Heap.allocate_unprepared (second.geometry ▸ small) twin_failed) (.idle idle)
  by_cases enough : twins.geometry.splitBytes ≤ twins.split.size
  · by_cases large : twins.geometry.maxBlock ≤ twins.window.capacity
    · exact idle.allocates_prepared large enough (Nat.not_lt.mp small)
    · apply unprepared
      · apply Heap.prepare_windowTooSmall first.ready
        · rwa [first.geometry, first.splitSize]
        · rw [first.geometry, first.window]
          exact Nat.not_le.mp large
      · apply Heap.prepare_windowTooSmall second.ready
        · rwa [second.geometry, second.splitSize]
        · rw [second.geometry, second.window]
          exact Nat.not_le.mp (mt twins.large.mpr large)
  · apply unprepared
    · apply Heap.prepare_splitTooSmall first.ready
      rw [first.geometry, first.splitSize]
      exact Nat.not_le.mp enough
    · apply Heap.prepare_splitTooSmall second.ready
      rw [second.geometry, second.splitSize]
      exact Nat.not_le.mp enough

/-- Sizes that are too large are refused in both windows; any other request follows the same plan. -/
theorem Abreast.allocates (abreast : twins.Abreast session twin) (request : Nat) :
    twins.AllocatesAlike request session twin := by
  cases abreast with
  | idle idle => exact idle.allocates request
  | @serving heap twinHeap live book large enough serving twin_serving =>
    have geometry : heap.geometry = twins.geometry := serving.shows.geometry
    have twin_geometry : twinHeap.geometry = twins.geometry := twin_serving.shows.geometry
    by_cases small : request + headerSize ≤ twins.geometry.maxBlock
    · obtain ⟨events, result, last, ran, -, served⟩ := serving.serves small
      obtain ⟨more, twinResult, twinLast, twin_ran, -, twin_served⟩ := twin_serving.serves small
      have plan : Plan.allocate twins.geometry twins.window.ceiling request book = _ :=
        Plan.allocate_congr twins.alike serving.sound request
      exact .of_served rfl ran twin_ran served (plan ▸ twin_served)
    · have ran := @Heap.allocate_tooLarge heap request (geometry ▸ Nat.not_le.mp small)
      have twin_ran := @Heap.allocate_tooLarge twinHeap request (twin_geometry ▸ Nat.not_le.mp small)
      exact .of_error ran twin_ran (.serving large enough serving twin_serving)

theorem Abreast.first (abreast : twins.Abreast session twin) :
    Session.Good twins.geometry twins.window twins.split.size session := by
  cases abreast with
  | idle idle => exact .idle idle.first
  | serving _ _ serving _ => exact .serving rfl rfl rfl serving

theorem Abreast.second (abreast : twins.Abreast session twin) :
    Session.Good twins.geometry twins.other twins.split.size twin := twins.size ▸ abreast.swap.first

theorem Abreast.live_eq (abreast : twins.Abreast session twin) :
    twin.live = session.live.map (Loan.shift twins.window twins.other) := by
  cases abreast with
  | idle _ => rfl
  | serving _ _ _ _ => rfl

theorem Abreast.base_le (abreast : twins.Abreast session twin) {loan : Loan} (member : loan ∈ session.live) :
    twins.window.base + headerSize ≤ loan.addr := by
  cases abreast with
  | idle _ => cases member
  | serving _ _ serving _ => exact base_le_of_kept (serving.kept loan member)

theorem Abreast.geometry_eq (abreast : twins.Abreast session twin) :
    twin.heap.geometry = session.heap.geometry := by
  cases abreast with
  | idle idle => exact idle.second.geometry.trans idle.first.geometry.symm
  | serving _ _ serving twin_serving => exact twin_serving.shows.geometry.trans serving.shows.geometry.symm

theorem Abreast.ready_eq (abreast : twins.Abreast session twin) : twin.heap.ready = session.heap.ready := by
  cases abreast with
  | idle idle => exact idle.second.ready.trans idle.first.ready.symm
  | serving _ _ serving twin_serving => exact twin_serving.ready.trans serving.ready.symm

theorem Abreast.root_eq (abreast : twins.Abreast session twin) :
    twin.heap.rootBucket = session.heap.rootBucket := by
  cases abreast with
  | idle idle => cases idle <;> rfl
  | serving _ _ serving twin_serving => exact twin_serving.shows.root.trans serving.shows.root.symm

/-- The free blocks of a bucket lie at the same places, in the same order. -/
theorem Abreast.frees (abreast : twins.Abreast session twin) {bucket : Nat} (valid : bucket < maxBuckets) :
    ∃ events more found,
      (Heap.freeBlocks bucket).run session.heap = (events, .ok (found, session.heap)) ∧
      (Heap.freeBlocks bucket).run twin.heap =
        (more, .ok (found.map (twins.window.shift twins.other), twin.heap)) ∧
      ∀ addr ∈ found, twins.window.base ≤ addr := by
  cases abreast with
  | idle idle =>
    exact ⟨[], [], [], idle.first.walks valid, idle.second.walks valid, fun _ member => nomatch member⟩
  | serving large enough serving twin_serving =>
    obtain ⟨events, ran⟩ := serving.freeBlocks valid
    obtain ⟨more, twin_ran⟩ := twin_serving.freeBlocks valid
    rw [shift_listed] at twin_ran
    exact ⟨events, more, _, ran, twin_ran, fun addr member => twins.base_le_of_listed large enough member⟩

/-- What is taken off the live payloads at an address is at the same place in both windows. -/
theorem eraseP_shift {window : Window} (other : Window) {addr : Nat} (start : window.base ≤ addr)
    (above : ∀ loan ∈ live, window.base ≤ loan.addr) :
    (live.map (Loan.shift window other)).eraseP (fun loan => loan.addr = window.shift other addr) =
      (live.eraseP fun loan => loan.addr = addr).map (Loan.shift window other) := by
  induction live with
  | nil => rfl
  | cons loan rest ih =>
    have first := above loan List.mem_cons_self
    have same : (loan.shift window other).addr = window.shift other addr ↔ loan.addr = addr := by
      simp only [Loan.shift, Window.shift]
      omega
    rw [List.map_cons, List.eraseP_cons, List.eraseP_cons]
    by_cases here : loan.addr = addr
    · simp [same, here]
    · simp only [same, here, decide_false, cond_false, List.map_cons]
      rw [ih fun other member => above other (List.mem_cons_of_mem _ member)]

theorem Abreast.releases {loan : Loan} (abreast : twins.Abreast session twin) (member : loan ∈ session.live) :
    ∃ events after more twinAfter,
      (Session.perform (.release loan.addr)).run session = (events, .ok ((), after)) ∧
      (Session.perform (.release (twins.window.shift twins.other loan.addr))).run twin =
        (more, .ok ((), twinAfter)) ∧ twins.Abreast after twinAfter := by
  have above : ∀ other ∈ session.live, twins.window.base ≤ other.addr := fun other member =>
    (Nat.le_add_right _ _).trans (abreast.base_le member)
  cases abreast with
  | idle _ => cases member
  | @serving heap twinHeap live book large enough serving twin_serving =>
    obtain ⟨events, after, rest, ran, -, rfl, -, served⟩ := Session.release_serves serving member
    obtain ⟨more, twinAfter, twinRest, twin_ran, -, rfl, -, twin_served⟩ :=
      Session.release_serves twin_serving (List.mem_map_of_mem member)
    have erased := eraseP_shift twins.other (above loan member) above
    rw [block_shift (serving.kept loan member)] at twin_served
    rw [Loan.shift, erased] at twin_ran twin_served
    exact ⟨events, _, more, _, ran, twin_ran, .serving large enough served twin_served⟩

/-- A write of the owner on one side does not disturb the other. -/
theorem Abreast.write_first {addr : Nat} {bytes : List UInt8} (abreast : twins.Abreast session twin)
    (legal : session.Legal (.write addr bytes))
    (ran : (Session.perform (.write addr bytes)).run session = (events, .ok ((), after))) :
    twins.Abreast after twin := by
  cases abreast with
  | idle _ =>
    obtain ⟨loan, member, -⟩ := legal
    cases member
  | serving large enough serving twin_serving =>
    obtain ⟨last, same, -, served⟩ := Session.write_serves serving legal
    cases ran.symm.trans same
    exact .serving large enough served twin_serving

theorem Abreast.write_second {addr : Nat} {bytes : List UInt8} (abreast : twins.Abreast session twin)
    (legal : twin.Legal (.write addr bytes))
    (ran : (Session.perform (.write addr bytes)).run twin = (events, .ok ((), after))) :
    twins.Abreast session after := (abreast.swap.write_first legal ran).swap

theorem Abreast.legal_shift (abreast : twins.Abreast session twin) (legal : session.Legal action) :
    twin.Legal (action.shift twins.window twins.other) := by
  have live := abreast.live_eq
  cases action with
  | allocate request => trivial
  | release addr =>
    rcases legal with rfl | ⟨loan, member, rfl⟩
    · exact .inl rfl
    · have above := abreast.base_le member
      have positive : loan.addr ≠ 0 := by
        unfold headerSize at above
        omega
      right
      refine ⟨loan.shift twins.window twins.other, live ▸ List.mem_map_of_mem member, ?_⟩
      rw [if_neg positive]
      rfl
  | write addr bytes =>
    obtain ⟨loan, member, above, below⟩ := legal
    have start := abreast.base_le member
    refine ⟨loan.shift twins.window twins.other, live ▸ List.mem_map_of_mem member, ?_, ?_⟩
    · simp only [Loan.shift, Window.shift]
      omega
    · simp only [Loan.shift, Window.shift]
      omega

/-- Each legal action on one side returns on the other side, too, and leaves the sessions abreast. -/
theorem Abreast.acts (abreast : twins.Abreast session twin) (legal : session.Legal action)
    (ran : (Session.perform action).run session = (events, .ok ((), after))) :
    ∃ more twinAfter, (Session.perform (action.shift twins.window twins.other)).run twin =
      (more, .ok ((), twinAfter)) ∧ twins.Abreast after twinAfter := by
  cases action with
  | allocate request =>
    obtain ⟨events, result, last, more, twinLast, here, there, abreast⟩ := abreast.allocates request
    cases ran.symm.trans (Session.run_allocate here)
    exact ⟨more, _, Session.run_allocate there, abreast⟩
  | release addr =>
    rcases legal with rfl | ⟨loan, member, rfl⟩
    · cases ran.symm.trans (Session.release_nothing session abreast.first.positive)
      exact ⟨[], twin, Session.release_nothing twin abreast.second.positive, abreast⟩
    · have positive := abreast.first.positive loan member
      obtain ⟨events, last, more, twinLast, here, there, abreast⟩ := abreast.releases member
      cases ran.symm.trans here
      rw [Session.Action.shift, if_neg positive]
      exact ⟨more, twinLast, there, abreast⟩
  | write addr bytes =>
    have twin_legal := abreast.legal_shift legal
    obtain ⟨more, twinAfter, there, -⟩ := Session.write_returns abreast.second twin_legal
    exact ⟨more, twinAfter, there, (abreast.write_first legal ran).write_second twin_legal there⟩

/-- The same run on both sides. -/
theorem Abreast.follow {actions : List Session.Action} (abreast : twins.Abreast session twin)
    (ended : session.follow actions = some after) :
    ∃ twinAfter, twin.follow (actions.map (Session.Action.shift twins.window twins.other)) = some twinAfter ∧
      twins.Abreast after twinAfter := by
  induction actions generalizing session twin with
  | nil =>
    cases ended
    exact ⟨twin, rfl, abreast⟩
  | cons action rest ih =>
    obtain ⟨legal, events, middle, ran, ended⟩ := Session.follow_cons.mp ended
    obtain ⟨more, twinMiddle, twin_ran, abreast'⟩ := abreast.acts legal ran
    obtain ⟨twinAfter, twin_ended, last⟩ := ih abreast' ended
    exact ⟨twinAfter,
      Session.follow_cons.mpr ⟨abreast.legal_shift legal, more, twinMiddle, twin_ran, twin_ended⟩, last⟩

end Twins

end Buddy

end Nucleus
