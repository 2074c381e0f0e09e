import Nucleus.Proofs.Buddy.Holes
import Nucleus.Proofs.Buddy.Partition

/-! The canonical form: the free blocks and the split bits of a heap are determined by the live payloads
and by how far the tree has grown, whatever was allocated and released before. -/
namespace Nucleus.Buddy

section Determined
variable {g : Geometry} {base root : Nat} {taken others : List Extent} {node : Block}

theorem vacant_congr (same : ∀ extent, extent ∈ taken ↔ extent ∈ others) :
    Vacant g base root taken node ↔ Vacant g base root others node := by
  constructor
  · rintro ⟨inTree, apart⟩
    exact ⟨inTree, fun extent member => apart extent ((same extent).mpr member)⟩
  · rintro ⟨inTree, apart⟩
    exact ⟨inTree, fun extent member => apart extent ((same extent).mp member)⟩

theorem hole_congr (same : ∀ extent, extent ∈ taken ↔ extent ∈ others) :
    Hole g base root taken node ↔ Hole g base root others node := by
  constructor
  · rintro ⟨vacant, maximal⟩
    exact ⟨(vacant_congr same).mp vacant, fun other empty => maximal other ((vacant_congr same).mpr empty)⟩
  · rintro ⟨vacant, maximal⟩
    exact ⟨(vacant_congr same).mpr vacant, fun other empty => maximal other ((vacant_congr same).mp empty)⟩

theorem marked_congr {used other_used : Block → Prop}
    (same : ∀ extent, extent ∈ taken ↔ extent ∈ others) (alike : ∀ node, used node ↔ other_used node) :
    Marked g base root taken used node ↔ Marked g base root others other_used node := by
  simp only [Marked, same, alike]

theorem hole_nil (root_le : root ≤ g.lastBucket) : Hole g base root [] node ↔ node = ⟨root, 0⟩ := by
  have whole : (⟨root, 0⟩ : Block).InTree g root := ⟨root_le, le_rfl, by simp⟩
  have vacant : Vacant g base root [] ⟨root, 0⟩ := ⟨whole, fun _ member => nomatch member⟩
  constructor
  · intro hole
    refine (hole.maximal _ vacant (Block.inside_extent.mpr fun offset covers => ?_)).symm
    exact Nat.div_eq_of_lt (hole.vacant.inTree.inside_root covers)
  · rintro rfl
    refine ⟨vacant, fun other empty inside => ?_⟩
    have order := Block.bucket_le_of_inside root_le (Block.inside_extent.mp inside)
    have level : other.bucket = root := order.antisymm empty.inTree.root_le
    have first := empty.inTree.index_lt
    simp only [level, Nat.sub_self, Nat.pow_zero, Nat.lt_one_iff] at first
    rw [← level, ← first]

end Determined

/-- A node that does not stand on the free list of its bucket. -/
def Used (g : Geometry) (base : Nat) (free : Nat → List Nat) (node : Block) : Prop :=
  base + node.offset g ∉ free node.bucket

/-- The free blocks are the holes between the live payloads, and the split bits are those of the marked
nodes. -/
structure Canonical (g : Geometry) (base : Nat) (free : Nat → List Nat) (session : Session) : Prop where
  root_le : session.heap.rootBucket ≤ g.lastBucket
  holes : ∀ bucket addr, addr ∈ free bucket ↔ ∃ node : Block,
    node.bucket = bucket ∧ base + node.offset g = addr ∧
      Hole g base session.heap.rootBucket (session.live.map (Loan.extent g)) node
  buddies : ∀ node : Block, Used g base free node.left ∨ Used g base free node.right
  bits : ∀ index, index / 8 < session.heap.split.size →
    (session.heap.split.bit index = true ↔ ∃ node : Block, node.index < 2 ^ node.bucket ∧ node.node = index ∧
      Marked g base session.heap.rootBucket (session.live.map (Loan.extent g)) (Used g base free) node)

structure Heap.Alike (heap other : Heap) : Prop where
  free : ∀ bucket < maxBuckets, ∃ events found more listed,
    (Heap.freeBlocks bucket).run heap = (events, .ok (found, heap)) ∧
    (Heap.freeBlocks bucket).run other = (more, .ok (listed, other)) ∧
    ∀ addr, addr ∈ found ↔ addr ∈ listed
  bits : ∀ index, index / 8 < heap.split.size → index / 8 < other.split.size →
    heap.split.bit index = other.split.bit index

namespace Heap
variable {site : Site} {heap : Heap} {book : Book} {live : List Loan}

theorem mem_listed {bucket addr : Nat} : addr ∈ listed site book bucket ↔
    ∃ node ∈ book, node.bucket = bucket ∧ site.addressOf node = addr := by
  simp only [listed, List.mem_map, Book.mem_level]
  exact exists_congr fun node => and_assoc

theorem used_iff {node : Block} :
    Used site.geometry site.window.base (listed site book) node ↔ node ∉ book := by
  refine not_congr (mem_listed.trans ⟨?_, fun free => ⟨node, free, rfl, rfl⟩⟩)
  rintro ⟨other, free, level, same⟩
  have start : other.offset site.geometry = node.offset site.geometry := Nat.add_left_cancel same
  have covers : node.Covers site.geometry (other.offset site.geometry) := start ▸ Block.covers_offset
  exact Block.eq_of_covers level Block.covers_offset covers ▸ free

theorem Serving.canonical {session : Session} (serving : session.heap.Serving site session.live book) :
    Canonical site.geometry site.window.base (listed site book) session := by
  have sound := serving.sound
  have root := serving.shows.root
  refine ⟨root ▸ sound.root_le, fun bucket addr => ?_, fun node => ?_, fun index stored => ?_⟩
  · rw [mem_listed, serving.extents, root]
    refine exists_congr fun node => ?_
    rw [← sound.mem_iff_hole]
    exact ⟨fun listed => ⟨listed.2.1, listed.2.2, listed.1⟩, fun hole => ⟨hole.2.2, hole.1, hole.2.1⟩⟩
  · rw [used_iff, used_iff]
    exact not_and_or.mp (sound.coalesced node)
  · have bits : ∀ node : Block, node.index < 2 ^ node.bucket → node.node = index →
        (session.heap.split.bit index = true ↔ book.mark node = true) := fun node level number => by
      rw [← number, serving.shows.bits node level]
      rw [number, ← serving.shows.splitSize]
      exact stored
    have marks : ∀ node, book.mark node = true ↔ Marked site.geometry site.window.base
        session.heap.rootBucket (session.live.map (Loan.extent site.geometry))
        (Used site.geometry site.window.base (listed site book)) node := fun node => by
      rw [sound.mark_iff site.window.base, serving.extents, root]
      exact marked_congr (fun _ => Iff.rfl) fun _ => used_iff.symm
    obtain ⟨node, level, number⟩ := Block.exists_node_eq index
    constructor
    · intro set
      exact ⟨node, level, number, (marks node).mp ((bits node level number).mp set)⟩
    · rintro ⟨other, other_level, other_number, marked⟩
      exact (bits other other_level other_number).mpr ((marks other).mpr marked)

end Heap

namespace Canonical
variable {g : Geometry} {base : Nat} {free other_free : Nat → List Nat} {session other : Session}

/-- With nothing live the whole tree is one free block, and no split bit is set. -/
theorem of_nothing_live (canonical : Canonical g base free session) (nothing : session.live = []) :
    (∀ bucket addr, addr ∈ free bucket ↔ bucket = session.heap.rootBucket ∧ addr = base) ∧
      ∀ index, index / 8 < session.heap.split.size → session.heap.split.bit index = false := by
  have listed : ∀ bucket addr, addr ∈ free bucket ↔ bucket = session.heap.rootBucket ∧ addr = base := by
    intro bucket addr
    rw [canonical.holes, nothing]
    simp only [List.map_nil, hole_nil canonical.root_le]
    constructor
    · rintro ⟨node, level, start, rfl⟩
      simp only [Block.offset, Nat.zero_mul, Nat.add_zero] at start
      exact ⟨level.symm, start.symm⟩
    · rintro ⟨rfl, rfl⟩
      exact ⟨_, rfl, by simp [Block.offset], rfl⟩
  refine ⟨listed, fun index stored => ?_⟩
  rw [Bool.eq_false_iff, ne_eq, canonical.bits index stored, nothing]
  rintro ⟨node, -, -, ⟨-, -, ⟨extent, member, -⟩, -⟩ | ⟨-, -, used⟩⟩
  · cases member
  · refine used ((listed _ _).mpr ⟨rfl, ?_⟩)
    simp [Block.offset]

/-- The live payloads and the root determine the rest. -/
theorem unique (canonical : Canonical g base free session) (other_canonical : Canonical g base other_free other)
    (root : session.heap.rootBucket = other.heap.rootBucket)
    (live : ∀ loan, loan ∈ session.live ↔ loan ∈ other.live) :
    (∀ bucket addr, addr ∈ free bucket ↔ addr ∈ other_free bucket) ∧
      ∀ index, index / 8 < session.heap.split.size → index / 8 < other.heap.split.size →
        session.heap.split.bit index = other.heap.split.bit index := by
  have taken : ∀ extent, extent ∈ session.live.map (Loan.extent g) ↔
      extent ∈ other.live.map (Loan.extent g) := fun extent => by
    simp only [List.mem_map, live]
  have listed : ∀ bucket addr, addr ∈ free bucket ↔ addr ∈ other_free bucket := fun bucket addr => by
    rw [canonical.holes, other_canonical.holes, root]
    simp only [hole_congr taken]
  refine ⟨listed, fun index stored other_stored => Bool.eq_iff_iff.mpr ?_⟩
  rw [canonical.bits index stored, other_canonical.bits index other_stored, root]
  have used : ∀ node, Used g base free node ↔ Used g base other_free node :=
    fun node => not_congr (listed _ _)
  exact exists_congr fun node => and_congr_right fun _ => and_congr_right fun _ => marked_congr taken used

end Canonical

namespace Session
variable {geometry : Geometry} {window : Window} {split : BitArray} {session : Session}

theorem Reached.canonical (fits : window.base + window.capacity < Word.bound)
    (reached : Reached geometry window split session) (ready : session.heap.ready = true) :
    ∃ free : Nat → List Nat,
      (∀ bucket < maxBuckets, ∃ events,
        (Heap.freeBlocks bucket).run session.heap = (events, .ok (free bucket, session.heap))) ∧
      Canonical geometry window.base free session := by
  obtain ⟨site, book, rfl, rfl, serving⟩ := reached.serving fits ready
  exact ⟨Heap.listed site book, fun _ valid => serving.freeBlocks valid, serving.canonical⟩

/-- Once the heap is prepared, its free blocks are the holes between the live payloads and its split bits
are those of the marked nodes. With nothing live the whole tree is one free block. Another run that ends
with the same payloads and the same root ends with the same free blocks and split bits. -/
theorem canonical_form (fits : window.base + window.capacity < Word.bound)
    (reached : Reached geometry window split session) (ready : session.heap.ready = true) :
    ∃ free : Nat → List Nat,
      (∀ bucket < maxBuckets, ∃ events,
        (Heap.freeBlocks bucket).run session.heap = (events, .ok (free bucket, session.heap))) ∧
      Canonical geometry window.base free session ∧
      (session.live = [] →
        (∀ bucket addr, addr ∈ free bucket ↔ bucket = session.heap.rootBucket ∧ addr = window.base) ∧
        ∀ index, index / 8 < session.heap.split.size → session.heap.split.bit index = false) ∧
      ∀ (other_window : Window) (other_split : BitArray) (other : Session),
        other_window.base + other_window.capacity < Word.bound → other_window.base = window.base →
        Reached geometry other_window other_split other → other.heap.ready = true →
        session.heap.rootBucket = other.heap.rootBucket →
        (∀ loan, loan ∈ session.live ↔ loan ∈ other.live) → session.heap.Alike other.heap := by
  obtain ⟨free, lists, canonical⟩ := reached.canonical fits ready
  refine ⟨free, lists, canonical, canonical.of_nothing_live, ?_⟩
  intro other_window other_split other other_fits base other_reached other_ready root live
  obtain ⟨other_free, other_lists, other_canonical⟩ := other_reached.canonical other_fits other_ready
  rw [base] at other_canonical
  obtain ⟨same, bits⟩ := canonical.unique other_canonical root live
  refine ⟨fun bucket valid => ?_, bits⟩
  obtain ⟨events, ran⟩ := lists bucket valid
  obtain ⟨more, other_ran⟩ := other_lists bucket valid
  exact ⟨events, _, more, _, ran, other_ran, same bucket⟩

/-- The same two payloads after two runs, one of which released some others. -/
theorem small_alike : ∃ session other,
    small.follow [.allocate 8, .allocate 20] = some session ∧
    small.follow [.allocate 8, .allocate 20, .allocate 4, .release 4104, .allocate 8, .release 4120] =
      some other ∧ session.heap.Alike other.heap := by
  have ended : (small.follow [.allocate 8, .allocate 20]).map
      (fun session => (session.heap.ready, session.heap.rootBucket, session.live)) =
      some (true, 0, [⟨4136, 20⟩, ⟨4104, 8⟩]) := by decide +kernel
  have other_ended : (small.follow
      [.allocate 8, .allocate 20, .allocate 4, .release 4104, .allocate 8, .release 4120]).map
      (fun session => (session.heap.ready, session.heap.rootBucket, session.live)) =
      some (true, 0, [⟨4104, 8⟩, ⟨4136, 20⟩]) := by decide +kernel
  obtain ⟨session, ran, same⟩ := Option.map_eq_some_iff.mp ended
  obtain ⟨other, other_ran, other_same⟩ := Option.map_eq_some_iff.mp other_ended
  simp only [Prod.mk.injEq] at same other_same
  obtain ⟨free, -, -, -, alike⟩ := canonical_form (by decide) (Reached.start.follow ran) same.1
  refine ⟨session, other, ran, other_ran, alike _ _ other (by decide) rfl (Reached.start.follow other_ran)
    other_same.1 (same.2.1.trans other_same.2.1.symm) fun loan => ?_⟩
  rw [same.2.2, other_same.2.2]
  exact (List.Perm.swap _ _ _).mem_iff

end Session

end Nucleus.Buddy
