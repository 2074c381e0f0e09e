import Nucleus.Proofs.Buddy.Partition

/-! Granted memory: a heap reads and writes only below the address up to which its window has granted memory.
The links of all free blocks and the whole of every block that is handed out lie there. -/
namespace Nucleus.Buddy

/-- How far memory is granted once the heap is prepared, and what lies in it. -/
structure Granted (g : Geometry) (window : Window) (free : Nat → List Nat) (session : Session) : Prop where
  above : window.base + linkSize ≤ session.heap.highWater
  in_tree : session.heap.highWater ≤ window.base + g.blockSize session.heap.rootBucket
  links : ∀ bucket, ∀ addr ∈ free bucket, addr + linkSize ≤ session.heap.highWater
  blocks : ∀ loan ∈ session.live,
    (loan.extent g).start + (loan.extent g).size ≤ session.heap.highWater
  own : ∀ loan ∈ session.live,
    window.base + headerSize ≤ loan.addr ∧ loan.addr < session.heap.highWater

namespace Heap
variable {site : Site} {heap : Heap} {live : List Loan} {book : Book}

/-- Whatever block lies at the base of the window, its first two words are granted. -/
theorem Serving.linkSize_le (serving : heap.Serving site live book) :
    site.window.base + linkSize ≤ heap.highWater := by
  have sound := serving.sound
  have granted := serving.shows.granted
  obtain ⟨block, member, covers⟩ := sound.tiles.exists_covers (site.geometry.blockSize_pos book.root)
  have first := (Block.covers_iff.mp covers).1
  rcases List.mem_append.mp member with free | taken
  · have linked := sound.linked block (Book.mem_blocks.mp free).1
    omega
  · obtain ⟨loan, live, rfl⟩ := List.mem_map.mp taken
    have whole := (serving.kept loan live).granted
    have small := loan.linkSize_le site
    rw [Site.addressOf] at whole
    omega

theorem Serving.grants {session : Session} (serving : session.heap.Serving site session.live book) :
    Granted site.geometry site.window (listed site book) session := by
  have sound := serving.sound
  have granted := serving.shows.granted
  refine ⟨serving.linkSize_le, ?_, ?_, ?_, ?_⟩
  · have inside := sound.granted_le
    rw [serving.shows.root]
    omega
  · intro bucket addr member
    obtain ⟨block, level, rfl⟩ := List.mem_map.mp member
    have linked := sound.linked block (Book.mem_level.mp level).1
    rw [Site.addressOf]
    omega
  · intro loan member
    have kept := serving.kept loan member
    rw [extent_loan kept]
    exact kept.granted
  · intro loan member
    have kept := serving.kept loan member
    have small := loan.linkSize_le site
    have header : headerSize < linkSize := by decide
    have whole := kept.granted
    have start := kept.addr
    rw [Site.addressOf] at whole start
    omega

end Heap

namespace Session
variable {geometry : Geometry} {window : Window} {split : BitArray} {session : Session}

theorem Reached.reserved (built : window.Built) (fits : window.base + window.capacity < Word.bound)
    (reached : Reached geometry window split session) :
    session.heap.window.reserved? = window.reserved?.map (fun _ => session.top - window.base) ∧
      session.top ≤ window.base + window.ceiling := by
  cases reached.good fits with
  | @idle heap idle =>
    rw [top_of_idle idle, idle.window, ← built.reserved_reserving, Window.reserving_nothing]
    exact ⟨rfl, Nat.le_add_right _ _⟩
  | @serving site heap live book _ same_window _ serving =>
    subst same_window
    have within := serving.within
    rw [Heap.Within, serving.shows.base, serving.shows.ceiling] at within
    rw [top_of_ready serving.ready, serving.shows.window, serving.shows.granted,
      ← built.reserved_reserving]
    exact ⟨rfl, serving.shows.granted ▸ within⟩

def limited : Session :=
  ⟨Heap.fresh Geometry.small ((Window.buffer 4096 64).withLimit 40) (BitArray.filled 1 0), []⟩

/-- In every session each legal action works in granted memory only, takes nothing back that was granted, and
has nothing to warn of: no payload that is given back is taken for a foreign one. The free lists, too, can be
read in granted memory. What is granted is what the window counts as reserved, and it is never more than the
window allows; once the heap is prepared, it holds what `Granted` says. -/
theorem granted_of_reached (built : window.Built) (fits : window.base + window.capacity < Word.bound)
    (reached : Reached geometry window split session) :
    (∀ action, session.Legal action →
      ∃ events after, (perform action).run session = (events, .ok ((), after)) ∧
        Event.Below session.top events after.top ∧ session.heap.highWater ≤ after.heap.highWater ∧
        (∀ size ∈ session.heap.window.reserved?, ∃ more ∈ after.heap.window.reserved?, size ≤ more) ∧
        ∀ line, .logged line ∈ events → line.level ≠ .warn) ∧
    (∀ bucket < maxBuckets, ∃ events found,
      (Heap.freeBlocks bucket).run session.heap = (events, .ok (found, session.heap)) ∧
        Event.Below session.top events session.top) ∧
    session.heap.window.reserved? = window.reserved?.map (fun _ => session.top - window.base) ∧
    session.top ≤ window.base + window.ceiling ∧
    (session.heap.ready = true → session.top = session.heap.highWater ∧ ∃ free : Nat → List Nat,
      (∀ bucket < maxBuckets, ∃ events,
        (Heap.freeBlocks bucket).run session.heap = (events, .ok (free bucket, session.heap))) ∧
      Granted geometry window free session) := by
  have reserved := reached.reserved built fits
  refine ⟨?_, fun _ valid => reached.walks fits valid, reserved.1, reserved.2, ?_⟩
  · intro action legal
    obtain ⟨events, after, ran, -, traced⟩ := perform_traced fits (reached.good fits) legal
    refine ⟨events, after, ran, traced.below, traced.rises, ?_, traced.calm⟩
    have rises := traced.below.le
    rw [reserved.1, ((reached.act legal ran).reserved built fits).1]
    cases window.reserved? with
    | none => exact fun _ none => nomatch none
    | some _ =>
      rintro _ ⟨⟩
      exact ⟨_, rfl, Nat.sub_le_sub_right rises _⟩
  · intro ready
    obtain ⟨site, book, rfl, rfl, serving⟩ := reached.serving fits ready
    exact ⟨top_of_ready ready, Heap.listed site book, fun _ valid => serving.freeBlocks valid, serving.grants⟩

theorem granted_of_limited : ∃ session free, limited.follow [.allocate 8, .allocate 20] = some session ∧
    session.live = [⟨4104, 8⟩] ∧ session.top = 4128 ∧ session.heap.window.reserved? = some 32 ∧
    (∃ events after, (perform (.release 4104)).run session = (events, .ok ((), after)) ∧
      Event.Below 4128 events after.top ∧ ∀ line, .logged line ∈ events → line.level ≠ .warn) ∧
    Granted Geometry.small limited.heap.window free session := by
  have ended : (limited.follow [.allocate 8, .allocate 20]).map
      (fun session => (session.heap.ready, session.live, session.top)) =
        some (true, [⟨4104, 8⟩], 4128) := by decide +kernel
  obtain ⟨session, ran, same⟩ := Option.map_eq_some_iff.mp ended
  obtain ⟨ready, same⟩ := Prod.mk.inj same
  obtain ⟨live, top⟩ := Prod.mk.inj same
  obtain ⟨works, -, reserved, -, prepared⟩ := granted_of_reached (.withLimit 40 (.buffer 4096 64))
    (by decide) (Reached.start.follow ran)
  have legal : session.Legal (.release 4104) := .inr ⟨⟨4104, 8⟩, live ▸ List.mem_cons_self, rfl⟩
  obtain ⟨events, after, released, below, -, -, calm⟩ := works _ legal
  obtain ⟨-, free, -, granted⟩ := prepared ready
  rw [top] at reserved below
  exact ⟨session, free, ran, live, top, reserved, ⟨events, after, released, below, calm⟩, granted⟩

end Session

end Nucleus.Buddy
