import Nucleus.Proofs.Buddy.Standing
import Nucleus.Proofs.Faults

/-! Addresses that are given back although nobody got them. All that cannot be the address of a payload, by where it lies
or by the word in front of it, is reported, and the heap stays as it is. What passes for a payload names a block of the
tree, and no split bit outside the storage is touched for it. -/
namespace Nucleus.Buddy

namespace Geometry
variable {g : Geometry}

theorem minBlock_dvd_roomFor (g : Geometry) (request : Nat) : g.minBlock ∣ g.roomFor request := by
  rw [minBlock_eq, roomFor]
  exact pow_dvd_pow 2 (le_max_left _ _)

theorem blockSize_lt_iff {bucket deeper : Nat} (deep : deeper ≤ g.lastBucket) :
    g.blockSize bucket < g.blockSize deeper ↔ deeper < bucket := by
  constructor
  · intro size
    by_contra order
    exact absurd size (Nat.not_lt.mpr (blockSize_anti (Nat.not_lt.mp order)))
  · intro order
    by_contra size
    exact absurd order (Nat.not_lt.mpr (le_of_blockSize_le deep (Nat.not_lt.mp size)))

theorem addressOf_ne_index (base node bucket : Nat) : g.addressOf base node bucket ≠ .error .index := by
  refine bind_ne_index (Word.shiftLeft_ne_index _ _) fun first => ?_
  refine bind_ne_index (Word.add_ne_index _ _) fun next => bind_ne_index (Word.sub_ne_index _ _) fun index => ?_
  refine bind_ne_index (Word.sub_ne_index _ _) fun depth => bind_ne_index (Word.shiftLeft_ne_index _ _) fun offset => ?_
  exact Word.add_ne_index _ _

end Geometry

namespace Heap

/-- The word in front of an address. The header of a payload is the size that was asked for. -/
def header (heap : Heap) (addr : Nat) : Nat := heap.window.memory.readWord (addr - headerSize)

/-- Nobody can have got an address: the heap is not prepared, or the address lies outside granted memory or at no
smallest block, or the word in front of it asks for more than the heap can hand out, or for a block that is larger than
the tree or could not start there. -/
def Foreign (heap : Heap) (addr : Nat) : Prop :=
  heap.ready = false ∨ addr = 0 ∨ addr < heap.window.base + headerSize ∨ heap.highWater ≤ addr ∨
    ¬ heap.geometry.minBlock ∣ addr - headerSize - heap.window.base ∨
    heap.geometry.maxBlock - headerSize < heap.header addr ∨
    heap.geometry.blockSize heap.rootBucket < heap.geometry.roomFor (heap.header addr) ∨
    ¬ heap.geometry.roomFor (heap.header addr) ∣ addr - headerSize - heap.window.base

instance (heap : Heap) (addr : Nat) : Decidable (heap.Foreign addr) :=
  inferInstanceAs (Decidable (_ ∨ _ ∨ _ ∨ _ ∨ _ ∨ _ ∨ _ ∨ _))

/-- Only reads and reports. -/
def Looks : Effect Heap := fun before events after =>
  after = before ∧ ∀ addr value, .stored addr value ∉ events

theorem looks_composes : Effect.Composes Looks where
  refl _ := ⟨rfl, fun _ _ member => nomatch member⟩
  trans := by
    rintro before first middle second after ⟨rfl, earlier⟩ ⟨rfl, later⟩
    refine ⟨rfl, fun addr value member => ?_⟩
    rcases List.mem_append.mp member with member | member
    · exact earlier addr value member
    · exact later addr value member

variable {site : Site} {heap : Heap} {book : Book} {live : List Loan} {block : Block} {addr : Nat}

theorem warn_looks (heap : Heap) (text : String) : Op.Returns Looks (warn text) heap fun _ _ => True :=
  ⟨[.logged ⟨.warn, text⟩], (), heap, rfl, ⟨rfl, by simp⟩, trivial⟩

/-- The word in front of an address in granted memory can be read. -/
theorem Serving.lookup (serving : heap.Serving site live book) (above : heap.window.base + headerSize ≤ addr)
    (below : addr < heap.highWater) : Op.Returns Looks (fetch (addr - headerSize)) heap fun word after =>
      word = heap.header addr ∧ after = heap := by
  have fits := serving.shows.window_fits
  have inside : heap.window.contains (addr - headerSize) 8 = .ok true := by
    have top := serving.shows.granted
    have tree := serving.sound.granted_le
    have whole := site.geometry.blockSize_le_maxBlock book.root
    have large := site.large
    have word : headerSize = 8 := rfl
    rw [← serving.shows.base] at top
    rw [← serving.shows.capacity] at large
    exact Window.contains_of_inside fits (by omega) (by omega)
  exact ⟨_, _, _, run_fetch inside, ⟨rfl, by simp⟩, rfl, rfl⟩

theorem small_of_header (small : heap.header addr ≤ heap.geometry.maxBlock - headerSize) :
    heap.header addr + headerSize ≤ heap.geometry.maxBlock := by
  have large := (Geometry.linkSize_le_blockSize le_rfl).trans (heap.geometry.blockSize_le_maxBlock _)
  have link : linkSize = 16 := rfl
  have word : headerSize = 8 := rfl
  omega

namespace Serving

/-- A foreign address is dropped at the first check that it does not pass. -/
theorem drops (serving : heap.Serving site live book) (foreign : heap.Foreign addr) :
    Op.Returns Looks (release addr) heap fun _ _ => True := by
  rw [release]
  by_cases nothing : addr = 0
  · rw [if_pos nothing]
    exact .pure looks_composes trivial
  rw [if_neg nothing]
  refine .get_bind ?_
  by_cases outside : addr < heap.window.base + headerSize ∨ heap.highWater ≤ addr
  · rw [if_pos (by simpa [serving.ready] using outside)]
    exact warn_looks _ _
  obtain ⟨above, below⟩ := not_or.mp outside
  rw [if_neg (by simpa [serving.ready] using outside)]
  refine .bind looks_composes (serving.lookup (Nat.not_lt.mp above) (Nat.not_le.mp below)) fun word after found => ?_
  rw [found.1, found.2]
  by_cases large : heap.geometry.maxBlock - headerSize < heap.header addr
  · rw [if_pos large]
    exact warn_looks _ _
  rw [if_neg large]
  have small := small_of_header (Nat.not_lt.mp large)
  refine .check_bind (Geometry.bucketFor_eq small) ?_
  by_cases misplaced : heap.geometry.bucketOf (heap.header addr) < heap.rootBucket ∨
      (addr - headerSize - heap.window.base) % heap.geometry.blockSize (heap.geometry.bucketOf (heap.header addr)) ≠ 0
  · rw [if_pos (by simpa using misplaced)]
    exact warn_looks _ _
  -- An address that passes every check is not foreign.
  obtain ⟨shallow, aligned⟩ := not_or.mp misplaced
  rw [Geometry.blockSize_bucketOf small, not_not, ← Nat.dvd_iff_mod_eq_zero] at aligned
  rw [← Geometry.blockSize_lt_iff (heap.geometry.bucketOf_le _), Geometry.blockSize_bucketOf small] at shallow
  have block := (heap.geometry.minBlock_dvd_roomFor (heap.header addr)).trans aligned
  rcases foreign with idle | zero | low | high | between | more | wide | uneven
  · exact absurd serving.ready (by simp [idle])
  all_goals contradiction

/-- An address that is not foreign names a block of the tree. -/
theorem names (serving : heap.Serving site live book) (known : ¬ heap.Foreign addr) :
    ∃ block : Block, addr = site.addressOf block + headerSize ∧
      block.bucket = site.geometry.bucketOf (heap.header addr) ∧
      block.size site.geometry = site.geometry.roomFor (heap.header addr) ∧ block.Fits site.geometry ∧
      block.offset site.geometry + block.size site.geometry ≤ site.geometry.blockSize book.root := by
  simp only [Foreign, not_or, not_not, Nat.not_lt, Nat.not_le] at known
  obtain ⟨-, -, above, below, -, header, wide, places, start⟩ := known
  have small := small_of_header header
  rw [serving.shows.geometry] at small wide start
  rw [serving.shows.base] at above start
  rw [serving.shows.granted] at below
  rw [serving.shows.root] at wide
  have level := Geometry.blockSize_bucketOf small
  have deep := site.geometry.bucketOf_le (heap.header addr)
  let block : Block := ⟨site.geometry.bucketOf (heap.header addr), places⟩
  have offset : addr - headerSize - site.window.base = block.offset site.geometry := by
    rw [start, Block.offset, level, Nat.mul_comm]
  have order : book.root ≤ block.bucket := Geometry.le_of_blockSize_le deep (level.trans_le wide)
  have granted := serving.sound.granted_le
  have inside := Block.inside_of_offset_lt deep order (show block.offset site.geometry < _ by omega)
  have fits := Block.fits_of_inside deep (inside.trans (site.geometry.blockSize_le_maxBlock _))
  refine ⟨block, ?_, rfl, level, fits, inside⟩
  rw [Site.addressOf]
  omega

end Serving

/-- Before a heap is prepared it drops every address. -/
theorem Idle.drops {geometry : Geometry} {window : Window} {splitSize : Nat}
    (idle : heap.Idle geometry window splitSize) (addr : Nat) :
    Op.Returns Looks (release addr) heap fun _ _ => True := by
  rw [release]
  by_cases nothing : addr = 0
  · rw [if_pos nothing]
    exact .pure looks_composes trivial
  · rw [if_neg nothing]
    refine .get_bind ?_
    rw [if_pos (by simp [idle.ready])]
    exact warn_looks _ _

/-! The split bits of the blocks that a block of the tree lies in are stored, so joining it with its buddies stops at
no bit, whatever the bits and the links say. -/
section Bits

theorem ancestor_inside (site : Site) (fits : block.Fits site.geometry) {times : Nat} (below : times < block.bucket) :
    (Block.parent^[times + 1] block).node / 8 < site.splitSize := by
  induction times generalizing block with
  | zero => exact parent_inside site fits (Nat.ne_of_gt below)
  | succ times ih =>
    rw [Function.iterate_succ_apply]
    exact ih fits.parent (Nat.lt_sub_of_add_lt below)

theorem onList_avoids {α : Type} {act : FreeList → Op Window (α × FreeList)} {bucket : Nat}
    (valid : bucket < maxBuckets)
    (avoids : ∀ list window, (act list).Avoids .index window fun _ _ => True) :
    (onList bucket act).Avoids .index heap fun _ after => after.split = heap.split where
  ran ran := by
    obtain ⟨_, list, window, -, rfl⟩ := onList_ran ran
    rfl
  stops {events} stopped := by
    simp only [Op.run, onList, dif_pos valid] at stopped
    split at stopped
    · cases stopped
    · rename_i acted
      cases stopped
      exact (avoids _ _).stops acted

theorem addressOf_avoids (node bucket : Nat) :
    (addressOf node bucket).Avoids .index heap fun _ after => after = heap :=
  .get_bind (.check (Geometry.addressOf_ne_index _ _ _) fun _ _ => rfl)

theorem flipParent_avoids (size : heap.split.size = site.splitSize) (fits : block.Fits site.geometry)
    (inner : block.bucket ≠ 0) :
    (flipParent block.node).Avoids .index heap fun _ after => after.split.size = site.splitSize := by
  obtain ⟨value, turned, flipped, same, -⟩ :=
    BitArray.flip_eq_ok (show block.parent.node / 8 < heap.split.size from size ▸ parent_inside site fits inner)
  refine .get_bind (.ok_bind (Geometry.parent_node fits inner) (.ok_bind flipped ?_))
  exact .of_run rfl (same.trans size)

theorem parentIsSplit_avoids (size : heap.split.size = site.splitSize) (fits : block.Fits site.geometry)
    (inner : block.bucket ≠ 0) :
    (parentIsSplit block.node).Avoids .index heap fun _ after => after = heap := by
  have inside := parent_inside site fits inner
  refine .ok_bind (Geometry.parent_node fits inner) (.get_bind (.check ?_ fun _ _ => rfl))
  rw [BitArray.get, if_pos (size ▸ inside)]
  simp

/-- What is joined is the parent. -/
theorem tryJoin_avoids (size : heap.split.size = site.splitSize) (fits : block.Fits site.geometry)
    (inner : block.bucket ≠ 0) :
    (tryJoin block.node block.bucket).Avoids .index heap fun joined after =>
      (∀ node, joined = some node → node = block.parent.node) ∧ after.split.size = site.splitSize := by
  rw [tryJoin]
  refine .bind (flipParent_avoids size fits inner) fun _ heap size => .get_bind ?_
  refine .bind (parentIsSplit_avoids size fits inner) ?_
  rintro alone _ rfl
  split
  · exact .pure ⟨by simp, size⟩
  refine .ok_bind (Geometry.buddy_node fits inner) (.bind (addressOf_avoids _ _) ?_)
  rintro addr _ rfl
  refine .bind (onList_avoids (valid_of_deep fits.bucket_le) fun list window =>
    .bind (FreeList.remove_avoids _ _ _) fun _ _ _ => .pure trivial) fun _ after same => ?_
  exact .ok_bind (Geometry.parent_node fits inner) (.pure ⟨by simp, same ▸ size⟩)

theorem joinUp_avoids {bucket index : Nat} (size : heap.split.size = site.splitSize)
    (fits : (⟨bucket, index⟩ : Block).Fits site.geometry) :
    (joinUp bucket (⟨bucket, index⟩ : Block).node).Avoids .index heap fun found _ =>
      found.2 < maxBuckets := by
  induction bucket generalizing heap index with
  | zero =>
    rw [joinUp, if_pos (fits.node_eq_zero.mpr rfl)]
    exact .pure (valid_of_deep fits.bucket_le)
  | succ above ih =>
    have inner : (⟨above + 1, index⟩ : Block).bucket ≠ 0 := Nat.succ_ne_zero _
    rw [joinUp, if_neg fun zero => inner (fits.node_eq_zero.mp zero)]
    refine .bind (tryJoin_avoids size fits inner) fun joined after holds => ?_
    cases joined with
    | none => exact .pure (valid_of_deep fits.bucket_le)
    | some node =>
      obtain rfl := holds.1 node rfl
      exact ih holds.2 fits.parent

/-- A block of the tree is taken back without a look past the end of a table. -/
theorem Serving.release_avoids (serving : heap.Serving site live book) (known : ¬ heap.Foreign addr) :
    (release addr).Avoids .index heap fun _ _ => True := by
  obtain ⟨block, place, level, -, fits, -⟩ := serving.names known
  simp only [Foreign, not_or, not_not, Nat.not_lt, Nat.not_le] at known
  obtain ⟨-, some, above, below, -, header, -⟩ := known
  have located : (nodeAt (addr - headerSize) block.bucket).Avoids .index heap fun node after =>
      node = block.node ∧ after = heap := by
    rw [place, Nat.add_sub_cancel]
    exact .of_returns (@nodeAt_returns site heap book _ block (fun _ _ => False) (fun _ => False) serving.shows fits)
  rw [release, if_neg some]
  refine .get_bind ?_
  rw [if_neg (by simpa [serving.ready] using ⟨above, below⟩)]
  refine .bind (.of_returns (serving.lookup above below)) fun word after found => ?_
  rw [found.1, found.2, if_neg (Nat.not_lt.mpr header)]
  refine .ok_bind (Geometry.bucketFor_eq (small_of_header header)) ?_
  split
  · exact .of_run rfl trivial
  rw [serving.shows.geometry, ← level]
  refine .bind located fun node after found => ?_
  rw [found.1, found.2]
  refine .bind (joinUp_avoids serving.shows.splitSize fits) fun joined heap valid => ?_
  refine .bind (addressOf_avoids _ _) fun addr after _ => ?_
  exact .mono (onList_avoids valid fun list window => .bind (FreeList.push_avoids _ _ _) fun _ _ _ => .pure trivial)
    fun _ _ _ => trivial

end Bits

end Heap

namespace Session
variable {geometry : Geometry} {window : Window} {split : BitArray} {session : Session}

/-- A foreign address is looked at and dropped: the heap stays as it is. Any other address names a block that lies in
the tree, the split bits of all blocks around it are stored, and whatever the header is worth, taking it back reaches
past the end of no table. -/
theorem foreign_dropped (reached : Reached geometry window split session) (addr : Nat) :
    (session.heap.Foreign addr → ∃ events,
      (Heap.release addr).run session.heap = (events, .ok ((), session.heap)) ∧
        ∀ place value, .stored place value ∉ events) ∧
    (¬ session.heap.Foreign addr →
      (∃ block : Block, addr = window.base + block.offset geometry + headerSize ∧
        block.size geometry = geometry.roomFor (session.heap.header addr) ∧
        block.offset geometry + block.size geometry ≤ geometry.blockSize session.heap.rootBucket ∧
        ∀ times < block.bucket, (Block.parent^[times + 1] block).node / 8 < session.heap.split.size) ∧
      ∀ events, (Heap.release addr).run session.heap ≠ (events, .error .index)) := by
  cases reached.stands with
  | @idle heap untouched =>
    constructor
    · intro _
      obtain ⟨events, _, _, ran, ⟨rfl, kept⟩, -⟩ := untouched.idle.drops addr
      exact ⟨events, ran, kept⟩
    · intro known
      exact absurd (.inl untouched.idle.ready) known
  | @serving site heap live book same_geometry same_window serving =>
    subst same_geometry same_window
    constructor
    · intro foreign
      obtain ⟨events, _, _, ran, ⟨rfl, kept⟩, -⟩ := serving.drops foreign
      exact ⟨events, ran, kept⟩
    · intro known
      obtain ⟨block, place, -, size, fits, inside⟩ := serving.names known
      rw [← serving.shows.root] at inside
      have stored : ∀ times < block.bucket, (Block.parent^[times + 1] block).node / 8 < heap.split.size := by
        intro times below
        rw [serving.shows.splitSize]
        exact Heap.ancestor_inside site fits below
      exact ⟨⟨block, place, size, inside, stored⟩, fun events => (serving.release_avoids known).stops⟩

/-- Two headers forged in one payload. The first passes, since it is that of a block of the tree; the second asks for
more than there is. -/
theorem small_forged_headers : ∃ session,
    small.follow [.allocate 40, .write 4112 [8, 0, 0, 0, 0, 0, 0, 0, 200]] = some session ∧
    (∀ events, (Heap.release 4120).run session.heap ≠ (events, .error .index)) ∧
    ∃ events, (Heap.release 4128).run session.heap = (events, .ok ((), session.heap)) ∧
      ∀ place value, .stored place value ∉ events := by
  have evaluated : (small.follow [.allocate 40, .write 4112 [8, 0, 0, 0, 0, 0, 0, 0, 200]]).map (fun session =>
      (decide (session.heap.Foreign 4120), decide (session.heap.Foreign 4128))) = some (false, true) := by
    decide +kernel
  obtain ⟨session, ended, seen⟩ := Option.map_eq_some_iff.mp evaluated
  simp only [Prod.mk.injEq, decide_eq_true_eq, decide_eq_false_iff_not] at seen
  have reached := Reached.start.follow ended
  exact ⟨session, ended, ((foreign_dropped reached 4120).2 seen.1).2, (foreign_dropped reached 4128).1 seen.2⟩

end Session

end Nucleus.Buddy
