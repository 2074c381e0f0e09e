import Nucleus.Proofs.Buddy.Partition

/-! When the heap runs out of memory: in a window that grants all of the largest block, an allocation
fails only if every place for its block overlaps a block under a live payload. -/
namespace Nucleus.Buddy

/-- Every aligned place of the size that a request takes up overlaps the block under a live payload. -/
def Exhausted (g : Geometry) (base : Nat) (live : List Loan) (request : Nat) : Prop :=
  ∀ index, (index + 1) * g.roomFor request ≤ g.maxBlock → ∃ loan ∈ live,
    ¬ (⟨base + index * g.roomFor request, g.roomFor request⟩ : Extent).Apart (loan.extent g)

namespace Heap
variable {site : Site} {heap after : Heap} {book : Book} {live : List Loan} {request : Nat}

theorem place_extent (small : request + headerSize ≤ site.geometry.maxBlock) (index : Nat) :
    (⟨site.window.base + index * site.geometry.roomFor request, site.geometry.roomFor request⟩ : Extent) =
      (⟨site.geometry.bucketOf request, index⟩ : Block).extent site.geometry site.window.base := by
  simp only [Block.extent, Block.offset, Block.size, Geometry.blockSize_bucketOf small]

theorem Serving.exhausted (serving : heap.Serving site live book)
    (small : request + headerSize ≤ site.geometry.maxBlock) (root : book.root = 0)
    (none : ∀ bucket ≤ site.geometry.bucketOf request, book.free bucket = []) :
    Exhausted site.geometry site.window.base live request := by
  intro index inside
  by_contra overlaps
  push Not at overlaps
  have fits : (⟨site.geometry.bucketOf request, index⟩ : Block).offset site.geometry +
      (⟨site.geometry.bucketOf request, index⟩ : Block).size site.geometry ≤ site.geometry.maxBlock := by
    rw [Block.offset, Block.size, Geometry.blockSize_bucketOf small, ← Nat.succ_mul]
    exact inside
  have within : ∀ offset, (⟨site.geometry.bucketOf request, index⟩ : Block).Covers site.geometry offset →
      offset < site.geometry.blockSize book.root := fun offset covers => by
    rw [root]
    exact (Block.covers_iff.mp covers).2.trans_le fits
  have apart : ∀ other ∈ live.map (Loan.block site),
      (⟨site.geometry.bucketOf request, index⟩ : Block).Apart site.geometry other := fun other member => by
    obtain ⟨loan, here, rfl⟩ := List.mem_map.mp member
    have apart := overlaps loan here
    rw [place_extent small, extent_loan (serving.kept loan here)] at apart
    exact Block.apart_extent.mp apart
  obtain ⟨other, free, order, -⟩ :=
    serving.sound.exists_free (site.geometry.bucketOf_le request) within apart
  have listed : other.index ∈ book.free other.bucket := free
  rw [none other.bucket order] at listed
  cases listed

theorem Serving.not_exhausted {loan : Loan} (serving : heap.Serving site (loan :: live) book) :
    ¬ Exhausted site.geometry site.window.base live loan.request := by
  intro exhausted
  have sound : Sound site.geometry book (loan.block site :: live.map (Loan.block site)) := serving.sound
  have own := serving.kept loan List.mem_cons_self
  have inside := (sound.taken_fits List.mem_cons_self).offset_add_size_le
  rw [Block.offset, own.size] at inside
  have place : (loan.block site).index * site.geometry.blockSize (loan.block site).bucket =
      (loan.block site).index * site.geometry.roomFor loan.request := by
    rw [← own.size, Block.size]
  rw [place, ← Nat.succ_mul] at inside
  obtain ⟨other, member, overlaps⟩ := exhausted _ inside
  apply overlaps
  rw [place_extent own.small, extent_loan (serving.kept other (List.mem_cons_of_mem _ member))]
  exact Block.apart_extent.mpr (sound.apart_of_cons (List.mem_map_of_mem member))

theorem Answers.complete {result : Except AllocError Nat} (answers : Answers site live request result after)
    (small : request + headerSize ≤ site.geometry.maxBlock)
    (all : site.geometry.maxBlock ≤ site.window.ceiling) :
    (result = .error .outOfMemory ↔ Exhausted site.geometry site.window.base live request) ∧
      (result = .error .outOfMemory ∨ ∃ addr, result = .ok addr) := by
  rcases result with error | addr
  · obtain ⟨book, serving, ⟨-, short⟩ | ⟨rfl, root, none⟩⟩ := answers
    · omega
    · exact ⟨iff_of_true rfl (serving.exhausted small root none), .inl rfl⟩
  · obtain ⟨book, serving⟩ := answers
    exact ⟨iff_of_false (fun same => nomatch same) serving.not_exhausted, .inr ⟨addr, rfl⟩⟩

/-- In such a window no search fails; growing past a tree in use always yields a free block. -/
theorem Serving.searches (serving : heap.Serving site live book)
    (all : site.geometry.maxBlock ≤ site.window.ceiling) {bucket : Nat}
    (deep : bucket ≤ site.geometry.lastBucket) :
    ∃ events found after, (search bucket).run heap = (events, .ok (.ok found, after)) := by
  have found := Plan.search_wanted_found site.window.ceiling bucket serving.sound
  obtain ⟨events, result, after, ran, -, follows⟩ :=
    search_returns (fun _ _ => False) serving.shows serving.sound deep
  rcases plan : Plan.search site.geometry site.window.ceiling bucket book with ⟨error | value, grown⟩
  · rw [plan] at found
    have short := found.2.2
    omega
  · rw [plan] at follows
    obtain ⟨rfl, -⟩ := follows
    exact ⟨events, _, after, ran⟩

theorem Idle.prepares (idle : heap.Idle site.geometry site.window site.splitSize)
    (granted : linkSize ≤ site.window.ceiling) :
    ∃ events after, prepare.run heap = (events, .ok (.ok (), after)) ∧
      after.Serving site [] (Book.start site.geometry) := by
  have prepared := prepare_returns (fun _ _ => False) idle
  simp only [if_pos granted] at prepared
  obtain ⟨events, _, after, ran, alters, rfl, ready, shows⟩ := prepared
  refine ⟨events, after, (idle.preparable.prepare_cleared idle.ready).trans ran, ready, shows, Sound.start _, ?_,
    alters.within (Nat.le_add_right _ _)⟩
  exact fun _ member => nomatch member

end Heap

namespace Session
variable {geometry : Geometry} {window : Window} {split : BitArray} {session : Session} {request : Nat}

theorem Reached.answers (fits : window.base + window.capacity < Word.bound) (built : window.Built)
    (all : geometry.maxBlock ≤ window.ceiling) (enough : geometry.splitBytes ≤ split.size)
    (small : request + headerSize ≤ geometry.maxBlock) (reached : Reached geometry window split session) :
    ∃ site : Site, site.geometry = geometry ∧ site.window = window ∧
      (∃ events after book, Heap.prepare.run session.heap = (events, .ok (.ok (), after)) ∧
        after.Serving site session.live book) ∧
      Op.Ends (Heap.allocate request).run session.heap
        (Heap.Answers site session.live request) := by
  cases reached.good fits with
  | idle idle =>
    have granted : linkSize ≤ window.ceiling :=
      (Geometry.linkSize_le_blockSize le_rfl).trans ((geometry.blockSize_le_maxBlock _).trans all)
    let site : Site := ⟨geometry, window, split.size, fits, all.trans built.ceiling_le, enough⟩
    have here : Heap.Idle site.geometry site.window site.splitSize _ := idle
    obtain ⟨events, after, ran, serving⟩ := here.prepares granted
    obtain ⟨more, result, last, allocated, -, answers⟩ := here.allocates small granted
    exact ⟨site, rfl, rfl, ⟨events, after, _, ran, serving⟩, .of_run allocated answers⟩
  | @serving site heap live book same_geometry same_window _ serving =>
    subst same_geometry same_window
    obtain ⟨events, result, after, allocated, -, answers⟩ := serving.allocates small
    exact ⟨site, rfl, rfl, ⟨[], heap, book, Heap.prepare_ready serving.ready, serving⟩,
      .of_run allocated answers⟩

/-- Over a window that grants every reservation up to the largest block, an allocation reports that memory
has run out exactly when every place for its block overlaps a block under a live payload, and it fails for
no other reason. The search inside it never fails. -/
theorem out_of_memory_iff_exhausted (fits : window.base + window.capacity < Word.bound)
    (built : window.Built)
    (grants : ∀ last ≤ window.base + geometry.maxBlock, ∃ after, window.reserve last = .ok (true, after))
    (enough : geometry.splitBytes ≤ split.size) (reached : Reached geometry window split session)
    (small : request + headerSize ≤ geometry.maxBlock) :
    (∃ events result after, (Heap.allocate request).run session.heap = (events, .ok (result, after)) ∧
      (result = .error .outOfMemory ↔ Exhausted geometry window.base session.live request) ∧
      (result = .error .outOfMemory ∨ ∃ addr, result = .ok addr)) ∧
    ∃ wanted, geometry.bucketFor (request + headerSize) = .ok wanted ∧
      ∃ before prepared, Heap.prepare.run session.heap = (before, .ok (.ok (), prepared)) ∧
        ∃ events found after, (Heap.search wanted).run prepared = (events, .ok (.ok found, after)) := by
  have all := Window.le_ceiling_of_grants fits (grants _ le_rfl)
  obtain ⟨site, rfl, rfl, ⟨before, prepared, book, ran, serving⟩, answered⟩ :=
    reached.answers fits built all enough small
  obtain ⟨events, result, after, allocated, -, answers⟩ := answered
  refine ⟨⟨events, result, after, allocated, answers.complete small all⟩, _, Geometry.bucketFor_eq small,
    before, prepared, ran, serving.searches all (site.geometry.bucketOf_le request)⟩

/-- Sixteen bytes are free in the left half and the right half is taken, so that nothing holds 28 bytes. -/
theorem small_exhausted : ∃ session,
    small.follow [.allocate 8, .allocate 20] = some session ∧
      Exhausted Geometry.small 4096 session.live 20 ∧
      ∃ events after, (Heap.allocate 20).run session.heap = (events, .ok (.error .outOfMemory, after)) := by
  have ended : (small.follow [.allocate 8, .allocate 20]).map (fun session =>
      ((Heap.allocate 20).run session.heap).2.map Prod.fst) = some (.ok (.error .outOfMemory)) := by
    decide +kernel
  obtain ⟨session, ran, failed⟩ := Option.map_eq_some_iff.mp ended
  have grants : ∀ last ≤ 4096 + Geometry.small.maxBlock,
      ∃ after, (Window.raw 4096 64).reserve last = .ok (true, after) := fun last below => by
    have low : last ≤ 4096 + 64 := below
    have top : (Window.raw 4096 64).top = .ok (4096 + 64) := rfl
    refine ⟨Window.raw 4096 64, ?_⟩
    simp only [Window.reserve, Window.raw] at top ⊢
    rw [top]
    simp [low, bind, Except.bind, pure, Except.pure]
  obtain ⟨⟨events, result, after, allocated, exact, -⟩, -⟩ := out_of_memory_iff_exhausted (by decide)
    (.raw 4096 64) grants (by decide) (Reached.start.follow ran) (show 20 + headerSize ≤ _ by decide)
  rw [allocated] at failed
  obtain rfl : result = .error .outOfMemory := Except.ok.inj failed
  exact ⟨session, ran, exact.mp rfl, events, after, allocated⟩

end Session

end Nucleus.Buddy
