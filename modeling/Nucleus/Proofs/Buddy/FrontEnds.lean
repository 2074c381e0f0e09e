import Nucleus.Buddy.FrontEnd
import Nucleus.Proofs.Buddy.Partition
import Nucleus.Proofs.Buddy.Standing
import Nucleus.Proofs.Outcomes

/-! The ways into a locked heap lead to one allocator: whatever mix of them is used, the session is one that plain
allocations and releases lead to, and each way in answers as these do. -/
namespace Nucleus

namespace Window
variable {window : Window} {addr : Nat}

/-- Where places are counted from: those behind a raw region are addresses, those behind a buffer start with it. -/
def origin (window : Window) : Nat :=
  match window.grant with
  | .all => 0
  | .upTo .. => window.base

theorem origin_le (window : Window) : window.origin ≤ window.base := by
  unfold origin
  split <;> omega

/-- The storage of a buffer is made of words; a raw region is as well aligned as its base. -/
theorem dvd_base_sub_origin (aligned : window.grant = .all → 8 ∣ window.base) : 8 ∣ window.base - window.origin := by
  unfold origin
  cases granted : window.grant with
  | all => exact aligned granted
  | upTo limit reserved => simp

theorem place_eq (above : window.base ≤ addr) (below : addr < Word.bound) :
    window.place addr = addr - window.origin := by
  unfold place origin
  cases window.grant with
  | all => exact Nat.mod_eq_of_lt below
  | upTo limit reserved =>
    rw [Nat.mod_eq_of_lt below, Nat.sub_add_comm above, Nat.add_mod_right, Nat.mod_eq_of_lt (by omega)]

theorem addressOf_eq (window : Window) (place : Nat) :
    window.addressOf place = (place + window.origin) % Word.bound := by
  unfold addressOf origin
  cases window.grant <;> rfl

/-- Consecutive places hold consecutive addresses. -/
theorem addressOf_place_add {distance : Nat} (above : window.base ≤ addr) (below : addr + distance < Word.bound) :
    window.addressOf (window.place addr + distance) = addr + distance := by
  have first := window.origin_le
  rw [place_eq above (by omega), addressOf_eq, show addr - window.origin + distance + window.origin =
    addr + distance by omega, Nat.mod_eq_of_lt below]

/-- What is reserved and what is stored in a window does not move its places. -/
theorem place_reserving (window : Window) (last : Nat) (memory : Memory) :
    ({ window.reserving last with memory } : Window).place = window.place := by
  funext addr
  unfold reserving place
  cases granted : window.grant <;> simp [granted]

theorem addressOf_reserving (window : Window) (last : Nat) (memory : Memory) :
    ({ window.reserving last with memory } : Window).addressOf = window.addressOf := by
  funext place
  unfold reserving addressOf
  cases granted : window.grant <;> simp [granted]

end Window

namespace Buddy

/-- A payload as its owner sees it through a pointer: the pointer is aligned to a word, its bytes are those of the
payload, and all of them lie in the window and in the block under the payload. -/
structure Loan.Placed (g : Geometry) (window : Window) (loan : Loan) : Prop where
  addr : loan.addr ≠ 0
  aligned : 8 ∣ window.place loan.addr
  back : window.addressOf (window.place loan.addr) = loan.addr
  bytes : ∀ i < loan.request, window.addressOf (window.place loan.addr + i) = loan.addr + i ∧
    window.base ≤ loan.addr + i ∧ loan.addr + i < window.base + window.capacity ∧
      (loan.extent g).Holds (loan.addr + i)

/-- Blocks are made of words. -/
theorem Block.dvd_offset {g : Geometry} {block : Block} (fits : block.Fits g) : 8 ∣ block.offset g := by
  have deep := fits.bucket_le
  have small := g.four_le_minLog
  have order := g.minLog_le_maxLog
  unfold Geometry.lastBucket at deep
  have words : 2 ^ 3 ∣ g.blockSize block.bucket := by
    rw [Geometry.blockSize_eq]
    exact pow_dvd_pow 2 (by omega)
  exact words.mul_left _

namespace Heap

section Outcomes
variable {heap : Heap} {request : Nat} {layout : Layout}

theorem allocateLocked_outcome (request : Nat) (heap : Heap) :
    (allocateLocked request).outcome heap = (allocate request).run.outcome heap :=
  Op.outcome_locked _ _

theorem allocateOrZero_outcome (request : Nat) (heap : Heap) : (allocateOrZero request).outcome heap =
    ((allocate request).run.outcome heap).map fun ended => (ended.1.toOption.getD 0, ended.2) := by
  rw [allocateOrZero, Op.outcome_bind, allocateLocked_outcome]
  rcases (allocate request).run.outcome heap with fault | ⟨error | addr, after⟩ <;> rfl

/-- A large alignment is refused without a look at the heap. -/
theorem allocatePlace_refused (heap : Heap) (large : headerSize < layout.align) :
    ∃ line, (allocatePlace layout).run heap = ([.logged line], .ok (none, heap)) := by
  rw [allocatePlace, if_pos large]
  exact ⟨_, rfl⟩

theorem allocatePlace_outcome (heap : Heap) (small : layout.align ≤ headerSize) :
    (allocatePlace layout).outcome heap = ((allocate layout.size).run.outcome heap).map fun ended =>
      (ended.1.toOption.map ended.2.window.place, ended.2) := by
  rw [allocatePlace, if_neg (Nat.not_lt.mpr small), Op.outcome_locked, Op.outcome_bind]
  rcases (allocate layout.size).run.outcome heap with fault | ⟨error | addr, after⟩ <;> rfl

theorem releaseLocked_outcome (addr : Nat) (heap : Heap) :
    (releaseLocked addr).outcome heap = (release addr).outcome heap := Op.outcome_locked _ _

theorem releasePlace_outcome (place : Nat) (heap : Heap) :
    (releasePlace place).outcome heap = (release (heap.window.addressOf place)).outcome heap := by
  rw [releasePlace, Op.outcome_locked, Op.outcome_bind]
  rfl

end Outcomes

/-- What the ways in answer, told by what `allocate` answers. -/
structure Agree (g : Geometry) (window : Window) (heap : Heap) : Prop where
  locked : ∀ request, (allocateLocked request).outcome heap = (allocate request).run.outcome heap
  zero : ∀ request after, (allocateOrZero request).outcome heap = .ok (0, after) ↔
    ∃ error, (allocate request).run.outcome heap = .ok (.error error, after)
  addr : ∀ request addr after, addr ≠ 0 → ((allocateOrZero request).outcome heap = .ok (addr, after) ↔
    (allocate request).run.outcome heap = .ok (.ok addr, after))
  refused : ∀ layout : Layout, headerSize < layout.align →
    ∃ line, (allocatePlace layout).run heap = ([.logged line], .ok (none, heap))
  null : ∀ layout after, (allocatePlace layout).outcome heap = .ok (none, after) ↔
    headerSize < layout.align ∧ after = heap ∨ layout.align ≤ headerSize ∧
      ∃ error, (allocate layout.size).run.outcome heap = .ok (.error error, after)
  place : ∀ layout place after, (allocatePlace layout).outcome heap = .ok (some place, after) ↔
    layout.align ≤ headerSize ∧ ∃ addr, (allocate layout.size).run.outcome heap = .ok (.ok addr, after) ∧
      place = window.place addr ∧ (⟨addr, layout.size⟩ : Loan).Placed g window

/-- Where all that is handed out lies at an address and a place of its own, no answer is mistaken for another. -/
theorem agree_of_placed {g : Geometry} {window : Window} {heap : Heap}
    (placed : ∀ {request addr after}, (allocate request).run.outcome heap = .ok (.ok addr, after) →
      after.window.place = window.place ∧ (⟨addr, request⟩ : Loan).Placed g window) : heap.Agree g window where
  locked request := allocateLocked_outcome request heap
  zero request after := by
    rw [allocateOrZero_outcome]
    rcases ended : (allocate request).run.outcome heap with fault | ⟨error | addr, middle⟩
    · simp [Except.map]
    · simp [Except.map, Except.toOption]
    · have some := (placed ended).2.addr
      simp [Except.map, Except.toOption, some]
  addr request addr after some := by
    rw [allocateOrZero_outcome]
    rcases (allocate request).run.outcome heap with fault | ⟨error | found, middle⟩
    · simp [Except.map]
    · simp [Except.map, Except.toOption, some.symm]
    · simp [Except.map, Except.toOption]
  refused layout large := allocatePlace_refused heap large
  null layout after := by
    by_cases large : headerSize < layout.align
    · obtain ⟨line, ran⟩ := allocatePlace_refused heap large
      simp [Op.outcome_of_run ran, large, Nat.not_le.mpr large, eq_comm]
    · rw [allocatePlace_outcome heap (Nat.not_lt.mp large)]
      rcases (allocate layout.size).run.outcome heap with fault | ⟨error | addr, middle⟩ <;>
        simp [Except.map, Except.toOption, large, Nat.not_lt.mp large]
  place layout place after := by
    by_cases large : headerSize < layout.align
    · obtain ⟨line, ran⟩ := allocatePlace_refused heap large
      simp [Op.outcome_of_run ran, Nat.not_le.mpr large]
    · rw [allocatePlace_outcome heap (Nat.not_lt.mp large)]
      rcases ended : (allocate layout.size).run.outcome heap with fault | ⟨error | addr, middle⟩
      · simp [Except.map]
      · simp [Except.map, Except.toOption]
      · obtain ⟨same, own⟩ := placed ended
        constructor
        · rintro ⟨⟩
          exact ⟨Nat.not_lt.mp large, addr, rfl, by rw [same], own⟩
        · rintro ⟨-, _, ⟨⟩, rfl, -⟩
          simp [Except.map, Except.toOption, same]

namespace Serving
variable {site : Site} {heap : Heap} {live : List Loan} {book : Book} {loan : Loan}

theorem place_eq (serving : heap.Serving site live book) : heap.window.place = site.window.place := by
  rw [serving.shows.window, Window.place_reserving]

theorem addressOf_eq (serving : heap.Serving site live book) :
    heap.window.addressOf = site.window.addressOf := by
  rw [serving.shows.window, Window.addressOf_reserving]

theorem placed (serving : heap.Serving site live book) (member : loan ∈ live)
    (aligned : site.window.grant = .all → 8 ∣ site.window.base) : loan.Placed site.geometry site.window := by
  have kept := serving.kept loan member
  have start := kept.addr
  have payload := kept.payload
  have size := kept.size
  have fits := serving.sound.taken_fits (List.mem_map_of_mem member)
  have last := fits.offset_add_size_le
  have words := Block.dvd_offset fits
  have base := Window.dvd_base_sub_origin aligned
  have room := site.large
  have window := site.fits
  have first := site.window.origin_le
  have word : headerSize = 8 := rfl
  have link := loan.linkSize_le site
  rw [Site.addressOf] at start payload
  refine ⟨by omega, ?_, ?_, ?_⟩
  · rw [Window.place_eq (by omega) (by omega)]
    omega
  · exact @Window.addressOf_place_add site.window loan.addr 0 (by omega) (by omega)
  · intro i inside
    refine ⟨Window.addressOf_place_add (by omega) (by omega), by omega, by omega, ?_⟩
    unfold Extent.Holds Loan.extent
    simp only
    omega

end Serving

end Heap

namespace Session
variable {geometry : Geometry} {window : Window} {split : BitArray} {session after : Session} {loan : Loan}

/-- What is asked at one of the ways in, or a write to a payload. -/
inductive Call where
  | allocate (request : Nat)
  | allocateOrZero (request : Nat)
  | allocatePlace (layout : Layout)
  | release (addr : Nat)
  | releasePlace (place : Nat)
  | write (addr : Nat) (bytes : List UInt8)

def lend (addr request : Nat) : Op Session Unit :=
  modify fun session => { session with live := ⟨addr, request⟩ :: session.live }

def giveBack (addr : Nat) : Op Session Unit :=
  modify fun session => { session with live := session.live.eraseP fun loan => loan.addr = addr }

/-- Carries out a call. What it hands out is noted by its address, whatever form it was handed out in. -/
def serve : Call → Op Session Unit
  | .allocate request => do
    match ← onHeap (Heap.allocateLocked request) with
    | .ok addr => lend addr request
    | .error _ => pure ()
  | .allocateOrZero request => do
    let addr ← onHeap (Heap.allocateOrZero request)
    if addr ≠ 0 then lend addr request
  | .allocatePlace layout => do
    match ← onHeap (Heap.allocatePlace layout) with
    | some place =>
      let session ← get
      lend (session.heap.window.addressOf place) layout.size
    | none => pure ()
  | .release addr => do
    onHeap (Heap.releaseLocked addr)
    giveBack addr
  | .releasePlace place => do
    let session ← get
    onHeap (Heap.releasePlace place)
    giveBack (session.heap.window.addressOf place)
  | .write addr bytes => perform (.write addr bytes)

/-- Only what is live may be given back, by its address or by its place. -/
def Permits (session : Session) : Call → Prop
  | .allocate _ | .allocateOrZero _ | .allocatePlace _ => True
  | .release addr => session.Legal (.release addr)
  | .releasePlace place => ∃ loan ∈ session.live, session.heap.window.place loan.addr = place
  | .write addr bytes => session.Legal (.write addr bytes)

instance (session : Session) (call : Call) : Decidable (session.Permits call) :=
  match call with
  | .allocate _ | .allocateOrZero _ | .allocatePlace _ => inferInstanceAs (Decidable True)
  | .release addr => inferInstanceAs (Decidable (session.Legal (.release addr)))
  | .releasePlace place =>
    inferInstanceAs (Decidable (∃ loan ∈ session.live, session.heap.window.place loan.addr = place))
  | .write addr bytes => inferInstanceAs (Decidable (session.Legal (.write addr bytes)))

/-- The session after a list of calls, when each is permitted and returns. -/
def callAll (session : Session) : List Call → Option Session
  | [] => some session
  | call :: rest =>
    if session.Permits call then
      match (serve call).outcome session with
      | .ok (_, after) => after.callAll rest
      | .error _ => none
    else none

/-- What a call does to a session with some window, if it does anything. -/
def Call.action? (window : Window) : Call → Option Action
  | .allocate request | .allocateOrZero request => some (.allocate request)
  | .allocatePlace layout => if headerSize < layout.align then none else some (.allocate layout.size)
  | .release addr => some (.release addr)
  | .releasePlace place => some (.release (window.addressOf place))
  | .write addr bytes => some (.write addr bytes)

theorem Stands.place_eq (stands : Stands geometry window split session) :
    session.heap.window.place = window.place ∧ session.heap.window.addressOf = window.addressOf := by
  cases stands with
  | idle untouched => exact untouched.idle.window ▸ ⟨rfl, rfl⟩
  | serving _ same_window serving => exact same_window ▸ ⟨serving.place_eq, serving.addressOf_eq⟩

theorem Stands.placed (stands : Stands geometry window split session) (aligned : window.grant = .all → 8 ∣ window.base)
    (member : loan ∈ session.live) : loan.Placed geometry window := by
  cases stands with
  | idle _ => cases member
  | serving same_geometry same_window serving =>
    subst same_geometry same_window
    exact serving.placed member aligned

theorem perform_allocate_outcome (request : Nat) : (perform (.allocate request)).outcome session =
    ((Heap.allocate request).run.outcome session.heap).map fun ended =>
      ((), session.recorded request ended.2 ended.1) := by
  simp only [perform, onHeap, Op.outcome_bind, Op.outcome_onPart]
  rcases (Heap.allocate request).run.outcome session.heap with fault | ⟨error | addr, after⟩ <;> rfl

/-- What is handed out in a session is live in a session that is reached, so it is placed. -/
theorem Reached.hands_placed (reached : Reached geometry window split session)
    (aligned : window.grant = .all → 8 ∣ window.base) {request addr : Nat} {last : Heap}
    (answered : (Heap.allocate request).run.outcome session.heap = .ok (.ok addr, last)) :
    last.window.place = window.place ∧ last.window.addressOf = window.addressOf ∧
      (⟨addr, request⟩ : Loan).Placed geometry window := by
  obtain ⟨events, ran⟩ := Op.run_of_outcome answered
  have legal : session.Legal (.allocate request) := trivial
  have stands := (reached.act legal (run_allocate ran)).stands
  exact ⟨stands.place_eq.1, stands.place_eq.2, stands.placed aligned List.mem_cons_self⟩

theorem Reached.agree (reached : Reached geometry window split session)
    (aligned : window.grant = .all → 8 ∣ window.base) : session.heap.Agree geometry window :=
  Heap.agree_of_placed fun answered =>
    have handed := reached.hands_placed aligned answered
    ⟨handed.1, handed.2.2⟩

/-- Every call does what its action does, or nothing. -/
theorem Reached.serve_outcome (reached : Reached geometry window split session)
    (aligned : window.grant = .all → 8 ∣ window.base) (call : Call) : (serve call).outcome session =
      match call.action? session.heap.window with
      | some action => (perform action).outcome session
      | none => .ok ((), session) := by
  cases call with
  | allocate request =>
    simp only [serve, Call.action?, perform_allocate_outcome, onHeap, Op.outcome_bind, Op.outcome_onPart,
      Heap.allocateLocked_outcome]
    rcases (Heap.allocate request).run.outcome session.heap with fault | ⟨error | addr, after⟩ <;> rfl
  | allocateOrZero request =>
    simp only [serve, Call.action?, perform_allocate_outcome, onHeap, Op.outcome_bind, Op.outcome_onPart,
      Heap.allocateOrZero_outcome]
    rcases answered : (Heap.allocate request).run.outcome session.heap with fault | ⟨error | addr, after⟩
    · rfl
    · rfl
    · have some := (reached.hands_placed aligned answered).2.2.addr
      change (if addr ≠ 0 then lend addr request else pure ()).outcome { session with heap := after } = _
      rw [if_pos some]
      rfl
  | allocatePlace layout =>
    by_cases large : headerSize < layout.align
    · obtain ⟨line, ran⟩ := Heap.allocatePlace_refused session.heap large
      simp only [serve, Call.action?, if_pos large, onHeap, Op.outcome_bind, Op.outcome_onPart, Op.outcome_of_run ran]
      rfl
    · simp only [serve, Call.action?, if_neg large, perform_allocate_outcome, onHeap, Op.outcome_bind,
        Op.outcome_onPart, Heap.allocatePlace_outcome _ (Nat.not_lt.mp large)]
      rcases answered : (Heap.allocate layout.size).run.outcome session.heap with fault | ⟨error | addr, after⟩
      · rfl
      · rfl
      · obtain ⟨place, back, placed⟩ := reached.hands_placed aligned answered
        have same : after.window.addressOf (after.window.place addr) = addr := by rw [place, back, placed.back]
        change (lend (after.window.addressOf (after.window.place addr)) layout.size).outcome _ = _
        rw [same]
        rfl
  | release addr =>
    simp only [serve, Call.action?, perform, onHeap, Op.outcome_bind, Op.outcome_onPart, Heap.releaseLocked_outcome]
    rfl
  | releasePlace place =>
    simp only [serve, Call.action?, perform, onHeap, Op.outcome_bind, Op.outcome_onPart, Heap.releasePlace_outcome]
    rfl
  | write addr bytes => rfl

/-- The place of a live payload leads back to its address. -/
theorem Reached.legal (reached : Reached geometry window split session)
    (aligned : window.grant = .all → 8 ∣ window.base) {call : Call} {action : Action}
    (permitted : session.Permits call) (acts : call.action? session.heap.window = some action) :
    session.Legal action := by
  cases call with
  | allocate request | allocateOrZero request =>
    cases acts
    trivial
  | allocatePlace layout =>
    rw [Call.action?] at acts
    split at acts
    · cases acts
    · cases acts
      trivial
  | release addr | write addr bytes =>
    cases acts
    exact permitted
  | releasePlace place =>
    obtain ⟨loan, member, rfl⟩ := permitted
    cases acts
    have own := reached.stands.placed aligned member
    rw [reached.stands.place_eq.1, reached.stands.place_eq.2, own.back]
    exact .inr ⟨loan, member, rfl⟩

/-- A session goes on by calls as it does by actions. -/
theorem Reached.call (reached : Reached geometry window split session)
    (aligned : window.grant = .all → 8 ∣ window.base) {call : Call} (permitted : session.Permits call)
    (ended : (serve call).outcome session = .ok ((), after)) : Reached geometry window split after := by
  rw [reached.serve_outcome aligned] at ended
  split at ended
  · rename_i action acts
    obtain ⟨events, ran⟩ := Op.run_of_outcome ended
    exact reached.act (reached.legal aligned permitted acts) ran
  · cases ended
    exact reached

theorem Reached.callAll (reached : Reached geometry window split session)
    (aligned : window.grant = .all → 8 ∣ window.base) {calls : List Call} (ended : session.callAll calls = some after) :
    Reached geometry window split after := by
  induction calls generalizing session with
  | nil =>
    cases ended
    exact reached
  | cons call rest ih =>
    rw [Session.callAll] at ended
    split at ended
    · rename_i permitted
      split at ended
      · rename_i middle answered
        exact ih (reached.call aligned permitted answered) ended
      · cases ended
    · cases ended

theorem Stands.apart (stands : Stands geometry window split session) :
    (session.live.map (Loan.extent geometry)).Pairwise Extent.Apart := by
  cases stands with
  | idle _ => exact .nil
  | serving same_geometry same_window serving =>
    subst same_geometry
    exact (List.pairwise_append.mp serving.divides.apart).2.1

/-- A live payload is taken back, and it makes no difference on which way. -/
theorem Stands.frees (stands : Stands geometry window split session) (placed : loan.Placed geometry window)
    (member : loan ∈ session.live) : ∃ after,
      (Heap.release loan.addr).outcome session.heap = .ok ((), after) ∧
      (Heap.releaseLocked loan.addr).outcome session.heap = .ok ((), after) ∧
      (Heap.releasePlace (window.place loan.addr)).outcome session.heap = .ok ((), after) := by
  rw [Heap.releaseLocked_outcome, Heap.releasePlace_outcome, stands.place_eq.2, placed.back]
  cases stands with
  | idle _ => cases member
  | serving _ _ serving =>
    obtain ⟨_, _, _, ran, -⟩ := release_serves serving member
    obtain ⟨_, _, _, _, released, -⟩ := Op.bind_ran ran
    obtain ⟨after, freed, -⟩ := Op.onPart_ran released
    exact ⟨after, Op.outcome_of_run freed, Op.outcome_of_run freed, Op.outcome_of_run freed⟩

theorem Reached.call_returns (reached : Reached geometry window split session)
    (aligned : window.grant = .all → 8 ∣ window.base) (fits : window.base + window.capacity < Word.bound)
    {call : Call} (permitted : session.Permits call) : ∃ after, (serve call).outcome session = .ok ((), after) := by
  rw [reached.serve_outcome aligned]
  split
  · rename_i action acts
    obtain ⟨_, _, after, ran, -⟩ := perform_returns fits (reached.good fits) (reached.legal aligned permitted acts)
    exact ⟨after, Op.outcome_of_run ran⟩
  · exact ⟨session, rfl⟩

/-- However the ways into a heap are mixed, they lead to sessions of the one allocator. What is live lies apart and can
be used by its address as well as through a pointer, each way in answers as the allocator does, payloads can be given
back on any way, and in a window that ends at a word every call returns. -/
theorem front_ends_agree {calls : List Call} (aligned : window.grant = .all → 8 ∣ window.base)
    (ended : (⟨Heap.fresh geometry window split, []⟩ : Session).callAll calls = some session) :
    Reached geometry window split session ∧
    (session.live.map (Loan.extent geometry)).Pairwise Extent.Apart ∧
    (∀ loan ∈ session.live, loan.Placed geometry window) ∧
    session.heap.Agree geometry window ∧
    (∀ loan ∈ session.live, ∃ after,
      (Heap.release loan.addr).outcome session.heap = .ok ((), after) ∧
      (Heap.releaseLocked loan.addr).outcome session.heap = .ok ((), after) ∧
      (Heap.releasePlace (window.place loan.addr)).outcome session.heap = .ok ((), after)) ∧
    (window.base + window.capacity < Word.bound → ∀ call, session.Permits call →
      ∃ after, (serve call).outcome session = .ok ((), after)) := by
  have reached := Reached.start.callAll aligned ended
  have stands := reached.stands
  have placed : ∀ loan ∈ session.live, loan.Placed geometry window := fun _ member => stands.placed aligned member
  refine ⟨reached, stands.apart, placed, reached.agree aligned, ?_, ?_⟩
  · exact fun loan member => stands.frees (placed loan member) member
  · exact fun fits _ permitted => reached.call_returns aligned fits permitted

/-- A buffer may start anywhere. What is handed out by its address is given back by its place, 8 bytes into the buffer;
what was handed out by its place stays live. -/
theorem small_mixed_calls : ∃ session,
    (⟨Heap.fresh Geometry.small (Window.buffer 4099 64) (BitArray.filled 1 0), []⟩ : Session).callAll
      [.allocate 8, .allocatePlace ⟨20, 8⟩, .allocateOrZero 100, .allocatePlace ⟨8, 16⟩, .releasePlace 8] =
        some session ∧
    session.live = [⟨4139, 20⟩] ∧ (⟨4139, 20⟩ : Loan).Placed Geometry.small (Window.buffer 4099 64) ∧
    session.heap.Agree Geometry.small (Window.buffer 4099 64) := by
  have evaluated : ((⟨Heap.fresh Geometry.small (Window.buffer 4099 64) (BitArray.filled 1 0), []⟩ : Session).callAll
      [.allocate 8, .allocatePlace ⟨20, 8⟩, .allocateOrZero 100, .allocatePlace ⟨8, 16⟩, .releasePlace 8]).map
        Session.live = some [⟨4139, 20⟩] := by decide +kernel
  obtain ⟨session, ended, live⟩ := Option.map_eq_some_iff.mp evaluated
  obtain ⟨-, -, placed, agree, -⟩ := front_ends_agree (by simp [Window.buffer]) ended
  exact ⟨session, ended, live, placed _ (live ▸ List.mem_cons_self), agree⟩

end Session

end Buddy

end Nucleus
