import Nucleus.Proofs.Buddy.Extents
import Nucleus.Proofs.Buddy.Session
import Mathlib.Algebra.BigOperators.Group.List.Basic

/-! The partition: at any time the free blocks and the blocks under the live payloads divide the tree
between them. -/
namespace Nucleus.Buddy

/-- The block under a payload: it starts with the header, and its size is the smallest power of two that
is large enough. -/
def Loan.extent (g : Geometry) (loan : Loan) : Extent :=
  ⟨loan.addr - headerSize, g.roomFor loan.request⟩

/-- The extents of free blocks, given by their addresses bucket by bucket. -/
def freeExtents (g : Geometry) (free : Nat → List Nat) : List Extent :=
  (List.range g.bucketCount).flatMap fun bucket =>
    (free bucket).map fun addr => ⟨addr, g.blockSize bucket⟩

/-- Free blocks and live payloads divide the tree. -/
structure Partition (g : Geometry) (base : Nat) (free : Nat → List Nat) (session : Session) : Prop where
  apart : (freeExtents g free ++ session.live.map (Loan.extent g)).Pairwise Extent.Apart
  aligned : ∀ extent ∈ freeExtents g free ++ session.live.map (Loan.extent g),
    base ≤ extent.start ∧ extent.size ∣ extent.start - base
  covers : ∀ addr, (∃ extent ∈ freeExtents g free ++ session.live.map (Loan.extent g), extent.Holds addr) ↔
    base ≤ addr ∧ addr < base + g.blockSize session.heap.rootBucket
  below_root : ∀ bucket < session.heap.rootBucket, free bucket = []
  headers : ∀ loan ∈ session.live, headerSize ≤ loan.addr ∧
    session.heap.window.memory.readWord (loan.addr - headerSize) = loan.request
  bytes : session.heap.stats.freeBytes + (session.live.map fun loan => g.roomFor loan.request).sum =
    g.blockSize session.heap.rootBucket

namespace Heap
variable {site : Site} {heap : Heap} {book : Book} {marks : Block → Bool} {live : List Loan}
variable {taken : List Block}

theorem extent_loan {loan : Loan} (kept : loan.Kept site heap) :
    loan.extent site.geometry = (loan.block site).extent site.geometry site.window.base := by
  rw [Loan.extent, Block.extent, kept.size, kept.addr, Nat.add_sub_cancel, Site.addressOf]

theorem freeExtents_eq (site : Site) (book : Book) :
    freeExtents site.geometry (listed site book) =
      (book.blocks site.geometry).map (Block.extent site.geometry site.window.base) := by
  rw [freeExtents, Book.blocks, List.map_flatMap]
  refine List.flatMap_congr fun bucket _ => ?_
  simp only [listed, Book.level, List.map_map]
  rfl

/-- The blocks under the live payloads are those that are taken. -/
theorem Serving.extents (serving : heap.Serving site live book) : live.map (Loan.extent site.geometry) =
    (live.map (Loan.block site)).map (Block.extent site.geometry site.window.base) := by
  rw [List.map_map]
  exact List.map_congr_left fun loan member => extent_loan (serving.kept loan member)

theorem Shows.lengths (shows : heap.Shows site book marks) :
    (heap.lists.toList.take site.geometry.bucketCount).map FreeList.length =
      (List.range site.geometry.bucketCount).map fun bucket => (book.free bucket).length := by
  have few : site.geometry.bucketCount ≤ maxBuckets := by
    have deep := site.geometry.lastBucket_lt
    unfold maxBuckets
    rw [Geometry.bucketCount_eq]
    omega
  refine List.ext_getElem (by simp [few]) fun bucket _ here => ?_
  have valid : bucket < maxBuckets := by
    simp only [List.length_map, List.length_range] at here
    omega
  have list := (shows.lists bucket valid).length
  simp only [listed, Book.level, List.length_map] at list
  simpa using list

theorem Shows.freeBytes (shows : heap.Shows site book marks) : heap.stats.freeBytes =
    ((book.blocks site.geometry).map (Block.size site.geometry)).sum := by
  have sizes : ∀ bucket, ((book.level bucket).map (Block.size site.geometry)).sum =
      (book.free bucket).length * site.geometry.blockSize bucket := fun bucket => by
    have same : Block.size site.geometry ∘ Block.mk bucket =
        Function.const Nat (site.geometry.blockSize bucket) := rfl
    rw [Book.level, List.map_map, same, List.map_const, List.sum_replicate_nat]
  simp only [stats, shows.geometry, shows.lengths, Book.blocks, List.map_flatMap]
  rw [← List.sum_eq_foldr, List.flatMap_def, List.sum_flatten, List.map_map]
  congr 1
  refine List.ext_getElem (by simp [Geometry.bucketCount_eq]) fun bucket _ _ => ?_
  simp [sizes]

theorem Serving.divides {session : Session} (serving : session.heap.Serving site session.live book) :
    Partition site.geometry site.window.base (listed site book) session := by
  have tiles := serving.sound.tiles
  have extents : freeExtents site.geometry (listed site book) ++
      session.live.map (Loan.extent site.geometry) =
      (book.blocks site.geometry ++ session.live.map (Loan.block site)).map
        (Block.extent site.geometry site.window.base) := by
    rw [freeExtents_eq, serving.extents, List.map_append]
  refine ⟨?_, ?_, ?_, ?_, ?_, ?_⟩
  · rw [extents, List.pairwise_map]
    exact tiles.pairwise.imp Block.apart_extent.mpr
  · rw [extents]
    intro extent member
    obtain ⟨block, -, rfl⟩ := List.mem_map.mp member
    exact Block.aligned_extent _ _ block
  · intro addr
    rw [extents, serving.shows.root]
    constructor
    · rintro ⟨_, member, holds⟩
      obtain ⟨block, tile, rfl⟩ := List.mem_map.mp member
      obtain ⟨above, covers⟩ := Block.holds_extent.mp holds
      have inside := tiles.inside tile
      rw [Block.covers_iff] at covers
      omega
    · rintro ⟨above, below⟩
      obtain ⟨block, tile, covers⟩ :=
        tiles.exists_covers (show addr - site.window.base < site.geometry.blockSize book.root by omega)
      exact ⟨_, List.mem_map_of_mem tile, Block.holds_extent.mpr ⟨above, covers⟩⟩
  · intro bucket below
    rw [serving.shows.root] at below
    have empty : book.free bucket = [] := List.eq_nil_iff_forall_not_mem.mpr fun index member =>
      absurd (serving.sound.root_le_free (show (⟨bucket, index⟩ : Block) ∈ book from member))
        (Nat.not_le.mpr below)
    rw [listed, Book.level, empty]
    rfl
  · intro loan member
    have kept := serving.kept loan member
    have header := kept.header
    rw [kept.addr, Nat.add_sub_cancel]
    exact ⟨Nat.le_add_left _ _, header⟩
  · have sizes : (session.live.map fun loan => site.geometry.roomFor loan.request) =
        (session.live.map (Loan.block site)).map (Block.size site.geometry) := by
      rw [List.map_map]
      exact List.map_congr_left fun loan member => (serving.kept loan member).size.symm
    rw [serving.shows.freeBytes, serving.shows.root, sizes, ← List.sum_append, ← List.map_append]
    exact tiles.sum_size

end Heap

namespace Session
variable {geometry : Geometry} {window : Window} {split : BitArray} {session : Session}

/-- In every session each legal action returns. Once the heap is prepared, its free lists can be read
without changing it, and the free blocks and the live payloads divide the tree. -/
theorem partition_of_reached (fits : window.base + window.capacity < Word.bound)
    (reached : Reached geometry window split session) :
    (∀ action, session.Legal action →
      ∃ events after, (perform action).run session = (events, .ok ((), after))) ∧
    (session.heap.ready = true → ∃ free : Nat → List Nat,
      (∀ bucket < maxBuckets, ∃ events,
        (Heap.freeBlocks bucket).run session.heap = (events, .ok (free bucket, session.heap))) ∧
      Partition geometry window.base free session) := by
  constructor
  · intro action legal
    obtain ⟨events, _, after, ran, -⟩ := perform_returns fits (reached.good fits) legal
    exact ⟨events, after, ran⟩
  · intro ready
    obtain ⟨site, book, rfl, rfl, serving⟩ := reached.serving fits ready
    exact ⟨Heap.listed site book, fun _ valid => serving.freeBlocks valid, serving.divides⟩

theorem partition_of_small : ∃ session free,
    small.follow [.allocate 8, .allocate 20, .release 4104] = some session ∧
      session.live = [⟨4136, 20⟩] ∧ Partition Geometry.small 4096 free session := by
  have ended : (small.follow [.allocate 8, .allocate 20, .release 4104]).map
      (fun session => (session.heap.ready, session.live)) = some (true, [⟨4136, 20⟩]) := by decide +kernel
  obtain ⟨session, ran, same⟩ := Option.map_eq_some_iff.mp ended
  obtain ⟨ready, live⟩ := Prod.mk.inj same
  obtain ⟨free, -, partition⟩ := (partition_of_reached (by decide) (Reached.start.follow ran)).2 ready
  exact ⟨session, free, ran, live, partition⟩

end Session

end Nucleus.Buddy
