import Nucleus.Proofs.Buddy.Partition

/-! A session never stops: every access lies in the window, every index in its table, and every number the
heap computes with is a word. -/
namespace Nucleus.Buddy

/-- In a tree that lies at `base`, everything that is computed from sizes, nodes and addresses is exact: sums
stay words, shifts lose no bits, and the search for a bucket ends before it runs out of buckets. -/
structure Geometry.Exact (g : Geometry) (base : Nat) : Prop where
  room : linkSize ≤ g.maxBlock ∧ base + g.maxBlock < Word.bound
  doubled : ∀ bucket ≤ g.lastBucket,
    g.minBlock * 2 ^ (g.lastBucket - bucket) = g.blockSize bucket ∧ g.blockSize bucket ≤ g.maxBlock
  bucketFor : ∀ request, request + headerSize ≤ g.maxBlock → ∃ bucket ≤ g.lastBucket,
    g.bucketFor (request + headerSize) = .ok bucket ∧ request + headerSize ≤ g.blockSize bucket
  addressOf : ∀ block : Block, block.Fits g → block.offset g + block.size g ≤ g.maxBlock ∧
    g.addressOf base block.node block.bucket = .ok (base + block.offset g)
  nodeAt : ∀ block : Block, block.Fits g →
    g.nodeAt base (base + block.offset g) block.bucket = .ok block.node

theorem Geometry.exact {g : Geometry} {base : Nat} (room : base + g.maxBlock < Word.bound) : g.Exact base where
  room := ⟨(linkSize_le_blockSize le_rfl).trans (g.blockSize_le_maxBlock g.lastBucket), room⟩
  doubled bucket deep := by
    refine ⟨?_, g.blockSize_le_maxBlock bucket⟩
    have order := g.minLog_le_maxLog
    unfold lastBucket at deep ⊢
    rw [minBlock_eq, blockSize_eq, ← Nat.pow_add]
    congr 1
    omega
  bucketFor request small := by
    refine ⟨g.bucketOf request, g.bucketOf_le request, bucketFor_eq small, ?_⟩
    rw [blockSize_bucketOf small]
    exact g.le_roomFor request
  addressOf block fits := ⟨fits.offset_add_size_le, addressOf_node fits room⟩
  nodeAt block fits := nodeAt_address fits base

namespace Heap
variable {site : Site} {heap : Heap} {book : Book} {marks : Block → Bool} {live : List Loan}
variable {geometry : Geometry} {window : Window} {splitSize : Nat}

theorem Shows.freeBlocks_eq (shows : heap.Shows site book marks) :
    heap.stats.freeBlocks = (book.blocks site.geometry).length := by
  simp only [stats, shows.geometry, shows.lengths, Book.blocks, List.length_flatMap]
  rw [← List.sum_eq_foldr]
  congr 1
  exact List.map_congr_left fun bucket _ => (List.length_map _).symm

/-- No more bytes are free than the tree has, and no more blocks than bytes. -/
theorem Serving.stats_le (serving : heap.Serving site live book) :
    heap.stats.freeBytes ≤ site.geometry.maxBlock ∧ heap.stats.freeBlocks ≤ heap.stats.freeBytes := by
  constructor
  · have whole := serving.sound.tiles.sum_size
    rw [List.map_append, List.sum_append] at whole
    have root := site.geometry.blockSize_le_maxBlock book.root
    rw [serving.shows.freeBytes]
    omega
  · rw [serving.shows.freeBytes, serving.shows.freeBlocks_eq,
      ← List.length_map (Block.size site.geometry)]
    refine List.length_le_sum_of_one_le _ fun size member => ?_
    obtain ⟨block, -, rfl⟩ := List.mem_map.mp member
    exact site.geometry.blockSize_pos _

theorem Idle.stats_eq (idle : heap.Idle geometry window splitSize) :
    heap.stats.freeBytes = 0 ∧ heap.stats.freeBlocks = 0 := by
  have empty : heap.lists = Vector.replicate maxBuckets FreeList.empty := by
    refine Vector.ext fun bucket valid => ?_
    rw [idle.lists bucket valid, Vector.getElem_replicate]
  have lengths : (heap.lists.toList.take heap.geometry.bucketCount).map FreeList.length =
      List.replicate (min heap.geometry.bucketCount maxBuckets) 0 := by
    rw [empty, Vector.toList_replicate, List.take_replicate, List.map_replicate]
    rfl
  simp only [stats, lengths, ← List.sum_eq_foldr]
  constructor
  · refine List.sum_eq_zero fun bytes member => ?_
    obtain ⟨bucket, small, rfl⟩ := List.mem_mapIdx.mp member
    rw [List.getElem_replicate, Nat.zero_mul]
  · exact List.sum_replicate_nat.trans (Nat.mul_zero _)

end Heap

namespace Session
variable {geometry : Geometry} {window : Window} {split : BitArray} {session : Session}

/-- The storage for split bits keeps its size. -/
theorem Good.splitSize {size : Nat} (good : Good geometry window size session) :
    session.heap.split.size = size := by
  cases good with
  | idle idle => exact idle.splitSize
  | serving _ _ same_size serving => exact serving.shows.splitSize.trans same_size

theorem Good.stats_lt {size : Nat} (good : Good geometry window size session) :
    session.heap.stats.freeBytes < Word.bound ∧ session.heap.stats.freeBlocks < Word.bound := by
  cases good with
  | idle idle =>
    obtain ⟨bytes, blocks⟩ := idle.stats_eq
    rw [bytes, blocks]
    decide
  | @serving site _ _ _ _ _ _ serving =>
    obtain ⟨bytes, blocks⟩ := serving.stats_le
    have small := bytes.trans_lt site.geometry.maxBlock_lt
    exact ⟨small, blocks.trans_lt small⟩

/-- In every session each legal action returns, and so do the questions a caller may ask: for the free blocks of
a bucket, for the split bit of an inner node, and for the statistics, whose sums are words. Where the tree
fits into the window, all that is computed in it is exact. -/
theorem returns_of_reached (fits : window.base + window.capacity < Word.bound)
    (reached : Reached geometry window split session) :
    (∀ action, session.Legal action →
      ∃ events after, (perform action).run session = (events, .ok ((), after))) ∧
    (∀ bucket < geometry.bucketCount, ∃ events found,
      (Heap.freeBlocks bucket).run session.heap = (events, .ok (found, session.heap))) ∧
    (geometry.splitBytes ≤ split.size → ∀ node < 2 ^ geometry.lastBucket,
      ∃ bit, (Heap.isSplit node).run session.heap = ([], .ok (bit, session.heap))) ∧
    (session.heap.stats.freeBytes < Word.bound ∧ session.heap.stats.freeBlocks < Word.bound) ∧
    (geometry.maxBlock ≤ window.capacity → geometry.Exact window.base) := by
  have good := reached.good fits
  refine ⟨?_, ?_, ?_, good.stats_lt, fun large => Geometry.exact (by omega)⟩
  · intro action legal
    obtain ⟨events, after, ran, -⟩ := perform_traced fits good legal
    exact ⟨events, after, ran⟩
  · intro bucket valid
    have deep := geometry.lastBucket_lt
    rw [Geometry.bucketCount_eq] at valid
    obtain ⟨events, found, ran, -⟩ := reached.walks fits (show bucket < maxBuckets by unfold maxBuckets; omega)
    exact ⟨events, found, ran⟩
  · intro enough node inner
    have stored : node / 8 < session.heap.split.size := by
      rw [good.splitSize]
      exact (Geometry.div_lt_splitBytes inner).trans_le enough
    have found : session.heap.split.get node = .ok (session.heap.split.bit node) := if_pos stored
    refine ⟨session.heap.split.bit node, ?_⟩
    simp only [Heap.isSplit, Op.run_bind, Op.run_get, found, Op.run_liftM_ok, List.append_nil]

/-- The largest tree there can be, with one bucket, at the very start of memory. -/
def whole : Session :=
  ⟨Heap.fresh ⟨63, 63, by decide, by decide, by decide⟩ (Window.raw 0 (2 ^ 63)) (BitArray.filled 1 0), []⟩

theorem whole_returns : ∃ session, whole.follow [.allocate 100, .allocate 1] = some session ∧
    session.live = [⟨8, 100⟩] ∧
    (∃ events after, (perform (.release 8)).run session = (events, .ok ((), after))) ∧
    (∃ events found, (Heap.freeBlocks 0).run session.heap = (events, .ok (found, session.heap))) ∧
    (∃ bit, (Heap.isSplit 0).run session.heap = ([], .ok (bit, session.heap))) ∧
    session.heap.stats.freeBytes < Word.bound ∧ whole.heap.geometry.Exact 0 := by
  have ended : (whole.follow [.allocate 100, .allocate 1]).map Session.live = some [⟨8, 100⟩] := by
    decide +kernel
  obtain ⟨session, ran, live⟩ := Option.map_eq_some_iff.mp ended
  obtain ⟨actions, walks, asks, sums, exact⟩ :=
    returns_of_reached (by decide) (Reached.start.follow ran)
  have legal : session.Legal (.release 8) := .inr ⟨⟨8, 100⟩, live ▸ List.mem_cons_self, rfl⟩
  exact ⟨session, ran, live, actions _ legal, walks 0 (by decide), asks (by decide) 0 (by decide), sums.1,
    exact (by decide)⟩

end Session

end Nucleus.Buddy
