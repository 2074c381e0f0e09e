import Nucleus.Buddy.Heap
import Nucleus.Proofs.Bits
import Nucleus.Proofs.Buddy.Marks
import Nucleus.Proofs.Buddy.Writes
import Mathlib.Data.List.Nodup

/-! Which book a heap shows: its lists stand for the free blocks of each bucket, its split bits are given
separately, since they run behind the lists inside an operation. -/
namespace Nucleus.Buddy

/-- Where a heap lies once it is prepared: the window as it was before anything was reserved, and
storage for all split bits. -/
structure Site where
  geometry : Geometry
  window : Window
  splitSize : Nat
  fits : window.base + window.capacity < Word.bound
  large : geometry.maxBlock ≤ window.capacity
  splitBytes_le : geometry.splitBytes ≤ splitSize

namespace Site
variable {site : Site} {block other : Block} {blocks taken : List Block}

def addressOf (site : Site) (block : Block) : Nat := site.window.base + block.offset site.geometry

/-- The addresses that lie in none of some blocks. -/
def Outside (site : Site) (kept : List Block) (addr : Nat) : Prop :=
  ∀ block ∈ kept, addr < site.addressOf block ∨ site.addressOf block + block.size site.geometry ≤ addr

theorem room (site : Site) : site.window.base + site.geometry.maxBlock < Word.bound := by
  have fits := site.fits
  have large := site.large
  omega

theorem apart_iff : block.Apart site.geometry other ↔
    site.addressOf block + block.size site.geometry ≤ site.addressOf other ∨
      site.addressOf other + other.size site.geometry ≤ site.addressOf block := by
  rw [Block.apart_iff, addressOf, addressOf]
  omega

theorem addressOf_ne (apart : block.Apart site.geometry other) :
    site.addressOf block ≠ site.addressOf other := by
  have positive : 0 < block.size site.geometry := site.geometry.blockSize_pos _
  have other_positive : 0 < other.size site.geometry := site.geometry.blockSize_pos _
  rw [apart_iff] at apart
  omega

theorem Outside.mono {kept larger : List Block} {addr : Nat} (outside : site.Outside larger addr)
    (subset : kept ⊆ larger) : site.Outside kept addr :=
  fun block member => outside block (subset member)

theorem linkArea_map {addr : Nat} (area : linkArea (blocks.map site.addressOf) addr) :
    ∃ block ∈ blocks, site.addressOf block ≤ addr ∧ addr < site.addressOf block + linkSize := by
  obtain ⟨_, mapped, within⟩ := area
  obtain ⟨block, member, rfl⟩ := List.mem_map.mp mapped
  exact ⟨block, member, within⟩

/-- The link words of blocks that are apart lie apart. -/
theorem links_outside (deep : ∀ block ∈ blocks, block.bucket ≤ site.geometry.lastBucket)
    (apart : ∀ block ∈ blocks, ∀ other ∈ taken, block.Apart site.geometry other) {addr : Nat}
    (area : linkArea (blocks.map site.addressOf) addr) : site.Outside taken addr := by
  intro other member
  obtain ⟨block, here, within⟩ := linkArea_map area
  have small : linkSize ≤ block.size site.geometry :=
    Geometry.linkSize_le_blockSize (deep block here)
  have order := apart_iff.mp (apart block here other member)
  omega

theorem linkRoom {window : Window} {all : List Block} {root : Nat}
    (base : window.base = site.window.base) (capacity : window.capacity = site.window.capacity)
    (tiles : Tiles site.geometry root all) (members : ∀ block ∈ blocks, block ∈ all)
    (nodup : blocks.Nodup) : LinkRoom window (blocks.map site.addressOf) := by
  have size : ∀ block ∈ blocks, linkSize ≤ block.size site.geometry := fun block member =>
    Geometry.linkSize_le_blockSize (tiles.deep block (members block member))
  refine ⟨by rw [base, capacity]; exact site.fits, ?_, ?_, ?_, ?_⟩
  · intro addr mapped
    obtain ⟨block, -, rfl⟩ := List.mem_map.mp mapped
    rw [base]
    exact Nat.le_add_right _ _
  · intro addr mapped
    obtain ⟨block, member, rfl⟩ := List.mem_map.mp mapped
    have inside := (tiles.fits (members block member)).offset_add_size_le
    have small := size block member
    have large := site.large
    rw [base, capacity, addressOf]
    omega
  · refine nodup.map_on fun block member other other_member same => ?_
    by_contra distinct
    exact addressOf_ne (tiles.apart (members _ member) (members _ other_member) distinct) same
  · intro addr mapped other_addr other_mapped distinct
    obtain ⟨block, member, rfl⟩ := List.mem_map.mp mapped
    obtain ⟨other, other_member, rfl⟩ := List.mem_map.mp other_mapped
    have order := apart_iff.mp (tiles.apart (members _ member) (members _ other_member)
      fun same => distinct (congrArg site.addressOf same))
    have small := size block member
    have other_small := size other other_member
    omega

end Site

namespace Heap
variable {site : Site} {heap after : Heap} {book : Book} {marks : Block → Bool}

/-- The addresses of the free blocks of a bucket. -/
def listed (site : Site) (book : Book) (bucket : Nat) : List Nat :=
  (book.level bucket).map site.addressOf

structure Shows (site : Site) (heap : Heap) (book : Book) (marks : Block → Bool) : Prop where
  geometry : heap.geometry = site.geometry
  window : heap.window = { site.window.reserving (site.window.base + book.granted) with
    memory := heap.window.memory }
  splitSize : heap.split.size = site.splitSize
  root : heap.rootBucket = book.root
  granted : heap.highWater = site.window.base + book.granted
  lists : ∀ bucket (valid : bucket < maxBuckets),
    heap.lists[bucket].Holds heap.window.memory (listed site book bucket)
  bits : ∀ block : Block, block.index < 2 ^ block.bucket → block.node / 8 < site.splitSize →
    heap.split.bit block.node = marks block

namespace Shows

theorem base (shows : heap.Shows site book marks) : heap.window.base = site.window.base := by
  rw [shows.window, Window.reserving_base]

theorem capacity (shows : heap.Shows site book marks) :
    heap.window.capacity = site.window.capacity := by
  rw [shows.window, Window.reserving_capacity]

/-- The window ends at a word. -/
theorem window_fits (shows : heap.Shows site book marks) :
    heap.window.base + heap.window.capacity < Word.bound := by
  rw [shows.base, shows.capacity]
  exact site.fits

theorem ceiling (shows : heap.Shows site book marks) :
    heap.window.ceiling = site.window.ceiling := by
  rw [shows.window]
  exact Window.reserving_ceiling _ _

/-- Heaps that show the same marks hold the same split bits. -/
theorem split_eq {other : Site} {twin : Heap} {more : Book} (shows : heap.Shows site book marks)
    (twin_shows : twin.Shows other more marks) (size : other.splitSize = site.splitSize) :
    twin.split.bytes = heap.split.bytes := by
  apply BitArray.bytes_congr
  · rw [twin_shows.splitSize, shows.splitSize, size]
  · intro index stored
    obtain ⟨block, level, rfl⟩ := Block.exists_node_eq index
    rw [twin_shows.splitSize] at stored
    rw [twin_shows.bits block level stored, shows.bits block level (size ▸ stored)]

end Shows

/-- No more is granted than the window allows. -/
def Within (heap : Heap) : Prop := heap.highWater ≤ heap.window.base + heap.window.ceiling

theorem Within.withMemory (within : heap.Within) (memory : Memory) :
    ({ heap with window := { heap.window with memory } } : Heap).Within := within

/-- What an operation does to a heap: it writes to a region of the memory only, there to the links of free
blocks and to some headers, every access lies in granted memory, what is granted stays so, and nothing is
warned of. -/
structure Alters (header : Nat → Nat → Prop) (region : Nat → Prop) (before : Heap) (events : List Event)
    (after : Heap) : Prop where
  ready : before.ready = true → after.ready = true
  bytes : ∀ addr, ¬ region addr → after.window.memory.get addr = before.window.memory.get addr
  stores : ∀ addr value, .stored addr value ∈ events → ∀ i < 8, region (addr + i)
  writes : Writes header before events after
  below : Event.Below before.highWater events after.highWater
  rises : before.highWater ≤ after.highWater
  within : before.Within → after.Within
  calm : ∀ line, .logged line ∈ events → line.level ≠ .warn

theorem alters_composes (header : Nat → Nat → Prop) (region : Nat → Prop) :
    Effect.Composes (Alters header region) where
  refl heap := ⟨id, fun _ _ => rfl, (fun _ _ member => nomatch member), .refl heap, rfl, Nat.le_refl _, id,
    fun _ member => nomatch member⟩
  trans := by
    intro before first middle second after earlier later
    refine ⟨later.ready ∘ earlier.ready, ?_, ?_, earlier.writes.trans later.writes,
      earlier.below.append later.below, earlier.rises.trans later.rises, later.within ∘ earlier.within, ?_⟩
    · intro addr outside
      rw [later.bytes addr outside, earlier.bytes addr outside]
    · intro addr value member
      rcases List.mem_append.mp member with member | member
      · exact earlier.stores addr value member
      · exact later.stores addr value member
    · intro line member
      rcases List.mem_append.mp member with member | member
      · exact earlier.calm line member
      · exact later.calm line member

theorem Alters.mono {header : Nat → Nat → Prop} {region larger : Nat → Prop} {events : List Event}
    (alters : heap.Alters header region events after) (grows : ∀ addr, region addr → larger addr) :
    heap.Alters header larger events after :=
  { alters with
    bytes := fun addr outside => alters.bytes addr fun inside => outside (grows addr inside)
    stores := fun addr value member i inside => grows _ (alters.stores addr value member i inside) }

theorem Alters.heads {header more : Nat → Nat → Prop} {region : Nat → Prop} {events : List Event}
    (alters : heap.Alters header region events after)
    (grows : ∀ addr value, header addr value → more addr value) : heap.Alters more region events after :=
  { alters with writes := alters.writes.mono grows }

/-- A change that touches neither lists nor memory nor what is granted. -/
theorem alters_of_same {header : Nat → Nat → Prop} {region : Nat → Prop}
    (ready : heap.ready = true → after.ready = true) (lists : after.lists = heap.lists)
    (window : after.window = heap.window) (highWater : after.highWater = heap.highWater) :
    heap.Alters header region [] after where
  ready := ready
  bytes _ _ := by rw [window]
  stores _ _ member := nomatch member
  writes := .aside lists (by rw [window]) fun _ _ member => nomatch member
  below := highWater
  rises := highWater.ge
  within inside := by rwa [Within, window, highWater]
  calm _ member := nomatch member

end Heap

end Nucleus.Buddy
