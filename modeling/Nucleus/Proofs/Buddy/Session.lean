import Nucleus.Proofs.Buddy.Serving

/-! Sessions: a heap and the payloads that were handed out and not taken back. A session starts with a heap
that has touched nothing, and goes on by allocations, by releases of live payloads and by writes inside
them, in any order. -/
namespace Nucleus.Buddy

structure Session where
  heap : Heap
  live : List Loan

namespace Session

inductive Action where
  | allocate (request : Nat)
  | release (addr : Nat)
  | write (addr : Nat) (bytes : List UInt8)

def onHeap {α : Type} (op : Op Heap α) : Op Session α :=
  Op.onPart Session.heap (fun heap session => { session with heap }) op

def perform : Action → Op Session Unit
  | .allocate request => do
    match ← onHeap (Heap.allocate request).run with
    | .ok addr => modify fun session => { session with live := ⟨addr, request⟩ :: session.live }
    | .error _ => pure ()
  | .release addr => do
    onHeap (Heap.release addr)
    modify fun session => { session with live := session.live.eraseP fun loan => loan.addr = addr }
  | .write addr bytes =>
    onHeap do
      let heap ← get
      let window ← heap.window.writeBytes addr bytes
      set { heap with window }

/-- What a careful caller does: it asks for any size, gives back what it has, and writes inside it. -/
def Legal (session : Session) : Action → Prop
  | .allocate _ => True
  | .release addr => addr = 0 ∨ ∃ loan ∈ session.live, loan.addr = addr
  | .write addr bytes => ∃ loan ∈ session.live,
      loan.addr ≤ addr ∧ addr + bytes.length ≤ loan.addr + loan.request

instance (session : Session) (action : Action) : Decidable (session.Legal action) :=
  match action with
  | .allocate _ => inferInstanceAs (Decidable True)
  | .release addr => inferInstanceAs (Decidable (addr = 0 ∨ ∃ loan ∈ session.live, loan.addr = addr))
  | .write addr bytes => inferInstanceAs (Decidable (∃ loan ∈ session.live,
      loan.addr ≤ addr ∧ addr + bytes.length ≤ loan.addr + loan.request))

/-- The session after a list of actions, when each is legal and returns. -/
def follow (session : Session) : List Action → Option Session
  | [] => some session
  | action :: rest =>
    if session.Legal action then
      match (perform action).run session with
      | (_, .ok (_, after)) => after.follow rest
      | (_, .error _) => none
    else none

/-- The sessions that legal actions lead to. -/
inductive Reached (geometry : Geometry) (window : Window) (split : BitArray) : Session → Prop
  | start : Reached geometry window split ⟨Heap.fresh geometry window split, []⟩
  | act {session after : Session} {action : Action} {events : List Event} :
      Reached geometry window split session → session.Legal action →
      (perform action).run session = (events, .ok ((), after)) →
      Reached geometry window split after

end Session

/-- Blocks of 16 bytes and more in a window of 64 bytes. -/
def Geometry.small : Geometry := ⟨4, 6, by decide, by decide, by decide⟩

namespace Session

def small : Session := ⟨Heap.fresh Geometry.small (Window.raw 4096 64) (BitArray.filled 1 0), []⟩

/-- Either nothing was handed out yet and the heap is not prepared, or the heap is in service. -/
inductive Good (geometry : Geometry) (window : Window) (splitSize : Nat) : Session → Prop
  | idle {heap : Heap} : heap.Idle geometry window splitSize → Good geometry window splitSize ⟨heap, []⟩
  | serving {site : Site} {heap : Heap} {live : List Loan} {book : Book} :
      site.geometry = geometry → site.window = window → site.splitSize = splitSize →
      heap.Serving site live book → Good geometry window splitSize ⟨heap, live⟩

/-- Where granted memory ends. A heap that is not prepared has none. -/
def top (session : Session) : Nat :=
  if session.heap.ready then session.heap.highWater else session.heap.window.base

def byte (session : Session) (addr : Nat) : UInt8 := session.heap.window.memory.get addr

/-- What an action makes of a byte of a live payload. -/
def Action.onByte (addr : Nat) (byte : UInt8) : Action → UInt8
  | .write start bytes => if start ≤ addr then bytes[addr - start]?.getD byte else byte
  | .allocate _ | .release _ => byte

/-- Actions that the heap carries out. -/
def Action.OfHeap : Action → Prop
  | .allocate _ | .release _ => True
  | .write _ _ => False

instance (action : Action) : Decidable action.OfHeap :=
  match action with
  | .allocate _ | .release _ => inferInstanceAs (Decidable True)
  | .write _ _ => inferInstanceAs (Decidable False)

/-- What an action leaves behind: where the heap wrote, which payloads stay live and what became of them and
their headers, and how far memory is granted. -/
structure Traced (action : Action) (session : Session) (events : List Event) (after : Session) : Prop where
  writes : action.OfHeap → Heap.Writes
    (fun addr value => after.live = ⟨addr + headerSize, value⟩ :: session.live) session.heap events after.heap
  stays : ∀ loan ∈ session.live, action ≠ .release loan.addr → loan ∈ after.live
  bytes : ∀ loan ∈ session.live, loan ∈ after.live → ∀ addr, loan.addr ≤ addr + headerSize →
    addr < loan.addr + loan.request → after.byte addr = action.onByte addr (session.byte addr)
  below : Event.Below session.top events after.top
  rises : session.heap.highWater ≤ after.heap.highWater
  calm : ∀ line, .logged line ∈ events → line.level ≠ .warn

variable {geometry : Geometry} {window : Window} {splitSize : Nat} {session after : Session} {action : Action}
variable {site : Site} {book : Book} {events : List Event} {header : Nat → Nat → Prop}

theorem Action.OfHeap.onByte (ofHeap : action.OfHeap) (addr : Nat) (byte : UInt8) :
    action.onByte addr byte = byte := by
  cases action with
  | allocate request => rfl
  | release addr => rfl
  | write addr bytes => cases ofHeap

theorem top_of_ready (ready : session.heap.ready = true) : session.top = session.heap.highWater :=
  if_pos ready

theorem top_of_idle (idle : session.heap.Idle geometry window splitSize) :
    session.top = session.heap.window.base := if_neg (by simp [idle.ready])

namespace Traced

theorem nothing (ofHeap : action.OfHeap) : Traced action session [] session where
  writes _ := .refl _
  stays _ member _ := member
  bytes _ _ _ addr _ _ := (ofHeap.onByte addr _).symm
  below := rfl
  rises := Nat.le_refl _
  calm _ member := nomatch member

/-- On a heap in service, what is written lies outside the blocks that stay. -/
theorem of_serving {kept : List Block} (ofHeap : action.OfHeap)
    (serving : session.heap.Serving site session.live book)
    (alters : session.heap.Alters header (site.Outside kept) events after.heap)
    (heads : ∀ addr value, header addr value → after.live = ⟨addr + headerSize, value⟩ :: session.live)
    (stays : ∀ loan ∈ session.live, action ≠ .release loan.addr → loan ∈ after.live)
    (blocks : ∀ loan ∈ after.live, loan ∈ session.live → loan.block site ∈ kept) :
    Traced action session events after where
  writes _ := (alters.heads heads).writes
  stays := stays
  bytes loan member stayed addr above below := by
    rw [ofHeap.onByte]
    exact (serving.kept loan member).bytes (blocks loan stayed member) alters above below
  below := by
    rw [top_of_ready serving.ready, top_of_ready (alters.ready serving.ready)]
    exact alters.below
  rises := alters.rises
  calm := alters.calm

/-- A heap that is not prepared works from its base on, and nothing is live in it yet. -/
theorem of_idle {region : Nat → Prop} (nothing : session.live = [])
    (idle : session.heap.Idle geometry window splitSize)
    (alters : session.heap.cleared.Alters header region events after.heap)
    (heads : ∀ addr value, header addr value → after.live = ⟨addr + headerSize, value⟩ :: session.live)
    (ends : after.heap.ready = true ∨ after.heap = session.heap.cleared) :
    Traced action session events after where
  writes _ := by
    have cleared : Heap.Writes header session.heap [] session.heap.cleared :=
      .aside rfl rfl fun _ _ member => nomatch member
    exact (cleared.trans alters.writes).mono heads
  stays loan member := by
    rw [nothing] at member
    cases member
  bytes loan member := by
    rw [nothing] at member
    cases member
  below := by
    have last : after.top = after.heap.highWater := by
      rcases ends with ready | same
      · exact top_of_ready ready
      · have still : after.heap.ready = false := by
          rw [same]
          exact idle.ready
        rw [top, if_neg (by simp [still]), same]
        rfl
    rw [top_of_idle idle, last]
    exact alters.below
  rises := idle.low.trans alters.rises
  calm := alters.calm

end Traced

/-- The session after an allocation: what it hands out is live. -/
def recorded (session : Session) (request : Nat) (heap : Heap) (result : Except AllocError Nat) : Session where
  heap := heap
  live := match result with
    | .ok addr => ⟨addr, request⟩ :: session.live
    | .error _ => session.live

theorem run_onHeap {α : Type} {op : Op Heap α} {value : α} {heap : Heap}
    (ran : op.run session.heap = (events, .ok (value, heap))) :
    (onHeap op).run session = (events, .ok (value, { session with heap })) := by
  have ran : op session.heap = _ := ran
  simp only [onHeap, Op.onPart, Op.run, ran]

theorem run_allocate {request : Nat} {result : Except AllocError Nat} {heap : Heap}
    (ran : (Heap.allocate request).run session.heap = (events, .ok (result, heap))) :
    (perform (.allocate request)).run session =
      (events, .ok ((), session.recorded request heap result)) := by
  have ran : (ExceptT.run (Heap.allocate request)).run session.heap = _ := ran
  rw [perform, Op.run_bind_ok _ (run_onHeap ran)]
  cases result with
  | ok addr => simp [recorded]
  | error error => simp [recorded]

theorem recorded_heads {request : Nat} {result : Except AllocError Nat} {heap : Heap} (addr value : Nat)
    (headed : Heap.Headed request result addr value) :
    (session.recorded request heap result).live = ⟨addr + headerSize, value⟩ :: session.live := by
  obtain ⟨rfl, rfl⟩ := headed
  rfl

theorem mem_recorded {request : Nat} {result : Except AllocError Nat} {heap : Heap} {loan : Loan}
    (member : loan ∈ session.live) : loan ∈ (session.recorded request heap result).live := by
  cases result with
  | ok addr => exact List.mem_cons_of_mem _ member
  | error _ => exact member

/-- An answer leaves a heap in service. -/
theorem recorded_good (session : Session) {request : Nat} {result : Except AllocError Nat} {heap : Heap}
    (answers : Heap.Answers site session.live request result heap) :
    Good site.geometry site.window site.splitSize (session.recorded request heap result) ∧ heap.ready = true := by
  cases result with
  | ok addr =>
    obtain ⟨book, serving⟩ := answers
    exact ⟨.serving rfl rfl rfl serving, serving.ready⟩
  | error error =>
    obtain ⟨book, serving, -⟩ := answers
    exact ⟨.serving rfl rfl rfl serving, serving.ready⟩

/-- An idle heap stays idle or comes into service. -/
theorem idle_allocates {heap : Heap} {request : Nat} (fits : window.base + window.capacity < Word.bound)
    (idle : heap.Idle geometry window splitSize) :
    ∃ events after, (perform (.allocate request)).run ⟨heap, []⟩ = (events, .ok ((), after)) ∧
      Good geometry window splitSize after ∧ Traced (.allocate request) ⟨heap, []⟩ events after := by
  have unchanged : ∀ {error : AllocError},
      (Heap.allocate request).run heap = ([], .ok (.error error, heap)) →
      ∃ events after, (perform (.allocate request)).run ⟨heap, []⟩ = (events, .ok ((), after)) ∧
        Good geometry window splitSize after ∧ Traced (.allocate request) ⟨heap, []⟩ events after :=
    fun ran => ⟨_, _, run_allocate ran, .idle idle, .nothing trivial⟩
  by_cases small : heap.geometry.maxBlock < request + headerSize
  · exact unchanged (Heap.allocate_tooLarge small)
  by_cases enough : heap.geometry.splitBytes ≤ heap.split.size
  · by_cases large : heap.geometry.maxBlock ≤ heap.window.capacity
    · rw [idle.geometry, idle.splitSize] at enough
      rw [idle.geometry, idle.window] at large
      rw [idle.geometry, Nat.not_lt] at small
      let site : Site := ⟨geometry, window, splitSize, fits, large, enough⟩
      have here : heap.Idle site.geometry site.window site.splitSize := idle
      by_cases granted : linkSize ≤ site.window.ceiling
      · obtain ⟨events, result, after, ran, alters, answers⟩ := here.allocates small granted
        obtain ⟨good, ready⟩ := recorded_good ⟨heap, []⟩ answers
        exact ⟨events, _, run_allocate ran, good, .of_idle rfl idle alters recorded_heads (.inl ready)⟩
      · obtain ⟨events, ran, alters⟩ := here.refuses (fun _ _ => False) small granted
        exact ⟨events, _, run_allocate ran, .idle here.cleared,
          .of_idle rfl idle alters (fun _ _ none => none.elim) (.inr rfl)⟩
    · have failed := Heap.prepare_windowTooSmall idle.ready enough (Nat.not_le.mp large)
      exact unchanged (Heap.allocate_unprepared small failed)
  · have failed := Heap.prepare_splitTooSmall idle.ready (Nat.not_le.mp enough)
    exact unchanged (Heap.allocate_unprepared small failed)

/-- An allocation in any session ends with an answer; what it hands out is recorded. -/
theorem allocate_returns {request : Nat} (fits : window.base + window.capacity < Word.bound)
    (good : Good geometry window splitSize session) :
    ∃ events after, (perform (.allocate request)).run session = (events, .ok ((), after)) ∧
      Good geometry window splitSize after ∧ Traced (.allocate request) session events after := by
  cases good with
  | idle idle => exact idle_allocates fits idle
  | @serving site heap live book same_geometry same_window same_size serving =>
    by_cases small : request + headerSize ≤ site.geometry.maxBlock
    · obtain ⟨events, result, after, ran, alters, answers⟩ := serving.allocates small
      subst same_geometry same_window same_size
      obtain ⟨good, -⟩ := recorded_good ⟨heap, live⟩ answers
      exact ⟨events, _, run_allocate ran, good, .of_serving trivial serving alters recorded_heads
        (fun _ member _ => mem_recorded member) fun _ _ member => List.mem_map_of_mem member⟩
    · have large : heap.geometry.maxBlock < request + headerSize := by
        rw [serving.shows.geometry]
        exact Nat.not_le.mp small
      exact ⟨[], _, run_allocate (Heap.allocate_tooLarge large),
        .serving same_geometry same_window same_size serving, .nothing trivial⟩

/-- Address 0 is nobody's payload. -/
theorem release_nothing (session : Session) (positive : ∀ loan ∈ session.live, loan.addr ≠ 0) :
    (perform (.release 0)).run session = ([], .ok ((), session)) := by
  have same : session.live.eraseP (fun loan => loan.addr = 0) = session.live :=
    List.eraseP_of_forall_not fun loan member => by simpa using positive loan member
  have ran : (onHeap (Heap.release 0)).run session = ([], .ok ((), session)) := rfl
  rw [perform, Op.run_bind_ok _ ran, Op.run_modify, same]
  rfl

theorem Good.positive (good : Good geometry window splitSize session) :
    ∀ loan ∈ session.live, loan.addr ≠ 0 := by
  cases good with
  | idle _ => exact fun _ member => nomatch member
  | serving _ _ _ serving =>
    intro loan member
    rw [(serving.kept loan member).addr]
    exact Nat.succ_ne_zero _

/-- Taking back a payload of a heap in service follows the plan. -/
theorem release_serves {heap : Heap} {live : List Loan} {loan : Loan} (serving : heap.Serving site live book)
    (member : loan ∈ live) :
    ∃ events after rest, (perform (.release loan.addr)).run ⟨heap, live⟩ = (events, .ok ((), ⟨after, rest⟩)) ∧
      (loan :: rest).Perm live ∧ rest = live.eraseP (fun other => other.addr = loan.addr) ∧
      heap.Alters (fun _ _ => False) (site.Outside (rest.map (Loan.block site))) events after ∧
      after.Serving site rest (Plan.release (loan.block site) book) := by
  obtain ⟨found, before, rest, -, same, split, erased⟩ :=
    @List.exists_of_eraseP _ (fun other => decide (other.addr = loan.addr)) _ _ member (by simp)
  have found_member : found ∈ live := split ▸ List.mem_append_right _ List.mem_cons_self
  obtain rfl : found = loan := serving.eq_of_addr_eq found_member member (by simpa using same)
  have order : (found :: (before ++ rest)).Perm live := split ▸ List.perm_middle.symm
  have first : heap.Serving site (found :: (before ++ rest)) book := serving.perm order.symm
  obtain ⟨events, _, after, ran, alters, served⟩ := first.releases fun _ _ => False
  refine ⟨events, after, before ++ rest, ?_, order, erased.symm, alters, served⟩
  rw [perform, Op.run_bind_ok _ (run_onHeap ran), Op.run_modify]
  simp only [erased, List.append_nil]

theorem release_returns {addr : Nat} (good : Good geometry window splitSize session)
    (legal : session.Legal (.release addr)) :
    ∃ events after, (perform (.release addr)).run session = (events, .ok ((), after)) ∧
      Good geometry window splitSize after ∧ Traced (.release addr) session events after := by
  rcases legal with rfl | ⟨loan, member, rfl⟩
  · exact ⟨[], session, release_nothing session good.positive, good, .nothing trivial⟩
  cases good with
  | idle _ => cases member
  | @serving site heap live book same_geometry same_window same_size serving =>
    obtain ⟨events, after, rest, ran, order, -, alters, served⟩ := release_serves serving member
    refine ⟨events, _, ran, .serving same_geometry same_window same_size served, ?_⟩
    refine .of_serving trivial serving alters (fun _ _ none => none.elim) ?_
      fun _ member _ => List.mem_map_of_mem member
    intro other other_member kept
    rcases List.mem_cons.mp (order.mem_iff.mpr other_member) with rfl | stays
    · exact absurd rfl kept
    · exact stays

/-- A write inside a live payload leaves the heap in service with the same book. -/
theorem write_serves {heap : Heap} {live : List Loan} {addr : Nat} {bytes : List UInt8}
    (serving : heap.Serving site live book) (legal : (⟨heap, live⟩ : Session).Legal (.write addr bytes)) :
    ∃ after : Heap, (perform (.write addr bytes)).run ⟨heap, live⟩ = ([], .ok ((), ⟨after, live⟩)) ∧
      after = { heap with
        window := { heap.window with memory := heap.window.memory.write addr bytes } } ∧
      after.Serving site live book := by
  obtain ⟨loan, member, above, below⟩ := legal
  obtain ⟨written, served⟩ := serving.writes member above below
  refine ⟨_, run_onHeap ?_, rfl, served⟩
  simp only [Op.run_bind, Op.run_get, written, Op.run_liftM_ok, Op.run_set, List.append_nil]

theorem write_returns {addr : Nat} {bytes : List UInt8} (good : Good geometry window splitSize session)
    (legal : session.Legal (.write addr bytes)) :
    ∃ events after, (perform (.write addr bytes)).run session = (events, .ok ((), after)) ∧
      Good geometry window splitSize after ∧ Traced (.write addr bytes) session events after := by
  cases good with
  | idle _ =>
    obtain ⟨loan, member, -⟩ := legal
    cases member
  | @serving site heap live book same_geometry same_window same_size serving =>
    obtain ⟨after, ran, rfl, served⟩ := write_serves serving legal
    refine ⟨[], _, ran, .serving same_geometry same_window same_size served, ?_⟩
    refine ⟨fun none => none.elim, fun _ member _ => member, ?_, rfl, Nat.le_refl _,
      fun _ member => nomatch member⟩
    exact fun _ _ _ addr _ _ => Memory.get_write _ _ _ _

/-- Every legal action returns, keeps the session good and leaves a trace as described. -/
theorem perform_traced (fits : window.base + window.capacity < Word.bound)
    (good : Good geometry window splitSize session) (legal : session.Legal action) :
    ∃ events after, (perform action).run session = (events, .ok ((), after)) ∧
      Good geometry window splitSize after ∧ Traced action session events after := by
  cases action with
  | allocate request => exact allocate_returns fits good
  | release addr => exact release_returns good legal
  | write addr bytes => exact write_returns good legal

theorem perform_returns (fits : window.base + window.capacity < Word.bound)
    (good : Good geometry window splitSize session) (legal : session.Legal action) :
    Op.Ends (perform action) session fun _ after => Good geometry window splitSize after := by
  obtain ⟨events, after, ran, good, -⟩ := perform_traced fits good legal
  exact .of_run ran good

theorem follow_cons {rest : List Action} : session.follow (action :: rest) = some after ↔
    session.Legal action ∧ ∃ events middle,
      (perform action).run session = (events, .ok ((), middle)) ∧ middle.follow rest = some after := by
  rw [Session.follow]
  split
  · rename_i legal
    rcases ran : (perform action).run session with ⟨events, fault | ⟨_, middle⟩⟩
    · simp
    · simp [legal]
  · rename_i illegal
    simp [illegal]

/-- A run in two parts. -/
theorem follow_append {first rest : List Action} : session.follow (first ++ rest) = some after ↔
    ∃ middle, session.follow first = some middle ∧ middle.follow rest = some after := by
  induction first generalizing session with
  | nil => simp [Session.follow]
  | cons action first ih =>
    simp only [List.cons_append, follow_cons, ih]
    constructor
    · rintro ⟨legal, events, next, ran, middle, ended, later⟩
      exact ⟨middle, ⟨legal, events, next, ran, ended⟩, later⟩
    · rintro ⟨middle, ⟨legal, events, next, ran, ended⟩, later⟩
      exact ⟨legal, events, next, ran, middle, ended, later⟩

theorem Reached.follow {split : BitArray} {after : Session} {actions : List Action}
    (reached : Reached geometry window split session) (ended : session.follow actions = some after) :
    Reached geometry window split after := by
  induction actions generalizing session with
  | nil =>
    cases ended
    exact reached
  | cons action rest ih =>
    obtain ⟨legal, events, middle, ran, ended⟩ := follow_cons.mp ended
    exact ih (reached.act legal ran) ended

theorem Reached.good {split : BitArray} (fits : window.base + window.capacity < Word.bound)
    (reached : Reached geometry window split session) : Good geometry window split.size session := by
  induction reached with
  | start => exact .idle (Heap.idle_fresh _ _ _)
  | act _ legal ran good =>
    obtain ⟨events, after, other_ran, good, -⟩ := perform_traced fits good legal
    rw [ran] at other_ran
    cases other_ran
    exact good

/-- A heap that is prepared, or has handed out something, is in service. -/
theorem Good.serves (good : Good geometry window splitSize session)
    (busy : session.heap.ready = true ∨ session.live ≠ []) :
    ∃ site book, site.geometry = geometry ∧ site.window = window ∧
      session.heap.Serving site session.live book := by
  cases good with
  | idle idle => simp [idle.ready] at busy
  | @serving site heap live book same_geometry same_window _ serving =>
    exact ⟨site, book, same_geometry, same_window, serving⟩

theorem Reached.serving {split : BitArray} (fits : window.base + window.capacity < Word.bound)
    (reached : Reached geometry window split session) (ready : session.heap.ready = true) :
    ∃ site book, site.geometry = geometry ∧ site.window = window ∧
      session.heap.Serving site session.live book :=
  (reached.good fits).serves (.inl ready)

theorem Reached.serving_of_live {split : BitArray} (fits : window.base + window.capacity < Word.bound)
    (reached : Reached geometry window split session) {loan : Loan} (member : loan ∈ session.live) :
    ∃ site book, site.geometry = geometry ∧ site.window = window ∧
      session.heap.Serving site session.live book :=
  (reached.good fits).serves (.inr (List.ne_nil_of_mem member))

/-- The free lists can be read at any time, in granted memory. -/
theorem Reached.walks {split : BitArray} (fits : window.base + window.capacity < Word.bound)
    (reached : Reached geometry window split session) {bucket : Nat} (valid : bucket < maxBuckets) :
    ∃ events found, (Heap.freeBlocks bucket).run session.heap = (events, .ok (found, session.heap)) ∧
      Event.Below session.top events session.top := by
  cases reached.good fits with
  | idle idle => exact ⟨[], [], idle.walks valid, rfl⟩
  | serving _ _ _ serving =>
    obtain ⟨events, ran, below⟩ := serving.walks valid
    refine ⟨events, _, ran, ?_⟩
    rw [top_of_ready serving.ready]
    exact below

end Session

end Nucleus.Buddy
