import Nucleus.Buddy.Geometry
import Mathlib.Data.Nat.Log
import Mathlib.Data.Nat.Bitwise
import Mathlib.Tactic.Ring

/-! Blocks by bucket and place within the bucket, and the checked arithmetic that leads between a
block's node number, its address and its relatives in the tree. -/
namespace Nucleus

theorem Word.bound_eq : Word.bound = 2 ^ 64 := rfl

theorem Word.shiftLeft_eq_ok {a distance : Nat} (small : distance < 64) (fits : a * 2 ^ distance < bound) :
    shiftLeft a distance = .ok (a * 2 ^ distance) := by
  rw [shiftLeft, if_pos small, Nat.shiftLeft_eq, Nat.mod_eq_of_lt fits]

theorem Word.shiftRight_eq_ok {a distance : Nat} (small : distance < 64) :
    shiftRight a distance = .ok (a / 2 ^ distance) := by
  rw [shiftRight, if_pos small, Nat.shiftRight_eq_div_pow]

namespace Buddy

/-- One block of the tree: the `index`-th of its bucket, counted from the base. -/
structure Block where
  bucket : Nat
  index : Nat
deriving DecidableEq

namespace Geometry
variable {g : Geometry}

theorem lastBucket_lt : g.lastBucket < 60 := by
  have low := g.four_le_minLog
  have high := g.maxLog_lt
  unfold lastBucket
  omega

theorem bucketCount_eq : g.bucketCount = g.lastBucket + 1 := rfl

theorem blockSize_eq (g : Geometry) (bucket : Nat) : g.blockSize bucket = 2 ^ (g.maxLog - bucket) :=
  Nat.one_shiftLeft _

theorem maxBlock_eq (g : Geometry) : g.maxBlock = 2 ^ g.maxLog := Nat.one_shiftLeft _

theorem minBlock_eq (g : Geometry) : g.minBlock = 2 ^ g.minLog := Nat.one_shiftLeft _

theorem blockSize_pos (bucket : Nat) : 0 < g.blockSize bucket := by
  rw [blockSize_eq]
  exact Nat.two_pow_pos _

theorem two_mul_blockSize {bucket : Nat} (inner : bucket < g.lastBucket) :
    2 * g.blockSize (bucket + 1) = g.blockSize bucket := by
  have depth : g.maxLog - bucket = g.maxLog - (bucket + 1) + 1 := by
    unfold lastBucket at inner
    omega
  rw [blockSize_eq, blockSize_eq, depth, Nat.pow_succ]
  omega

theorem linkSize_le_blockSize {bucket : Nat} (deep : bucket ≤ g.lastBucket) :
    linkSize ≤ g.blockSize bucket := by
  have low := g.four_le_minLog
  have order := g.minLog_le_maxLog
  unfold lastBucket at deep
  rw [blockSize_eq]
  exact Nat.pow_le_pow_right (n := 2) (by omega) (show 4 ≤ g.maxLog - bucket by omega)

theorem two_pow_mul_blockSize {bucket : Nat} (deep : bucket ≤ g.lastBucket) :
    2 ^ bucket * g.blockSize bucket = g.maxBlock := by
  have order := g.minLog_le_maxLog
  unfold lastBucket at deep
  rw [blockSize_eq, maxBlock_eq, ← Nat.pow_add]
  congr 1
  omega

theorem maxBlock_lt : g.maxBlock < Word.bound := by
  rw [maxBlock_eq, Word.bound_eq]
  exact Nat.pow_lt_pow_right (by omega) g.maxLog_lt

theorem blockSize_le_maxBlock (bucket : Nat) : g.blockSize bucket ≤ g.maxBlock := by
  rw [blockSize_eq, maxBlock_eq]
  exact Nat.pow_le_pow_right (by omega) (Nat.sub_le _ _)

theorem blockSize_anti {bucket deeper : Nat} (order : bucket ≤ deeper) :
    g.blockSize deeper ≤ g.blockSize bucket := by
  rw [blockSize_eq, blockSize_eq]
  exact Nat.pow_le_pow_right (by omega) (by omega)

/-- Smaller blocks lie in deeper buckets. -/
theorem le_of_blockSize_le {bucket deeper : Nat} (deep : deeper ≤ g.lastBucket)
    (size : g.blockSize deeper ≤ g.blockSize bucket) : bucket ≤ deeper := by
  rw [blockSize_eq, blockSize_eq] at size
  have order := (Nat.pow_le_pow_iff_right (by omega)).mp size
  have low := g.four_le_minLog
  have high := g.minLog_le_maxLog
  unfold lastBucket at deep
  omega

end Geometry

namespace Block
variable {g : Geometry} {block : Block}

def left (block : Block) : Block := ⟨block.bucket + 1, 2 * block.index⟩

def right (block : Block) : Block := ⟨block.bucket + 1, 2 * block.index + 1⟩

def parent (block : Block) : Block := ⟨block.bucket - 1, block.index / 2⟩

/-- The other half of the same parent. -/
def buddy (block : Block) : Block :=
  ⟨block.bucket, if block.index % 2 = 0 then block.index + 1 else block.index - 1⟩

/-- Nodes are numbered from the whole window down, bucket by bucket and from left to right. -/
def node (block : Block) : Nat := 2 ^ block.bucket - 1 + block.index

def size (g : Geometry) (block : Block) : Nat := g.blockSize block.bucket

/-- Where the block starts, counted from the base. -/
def offset (g : Geometry) (block : Block) : Nat := block.index * g.blockSize block.bucket

theorem offset_left (inner : block.bucket < g.lastBucket) : block.left.offset g = block.offset g := by
  rw [offset, offset, ← Geometry.two_mul_blockSize inner, left]
  ring

theorem offset_right (inner : block.bucket < g.lastBucket) :
    block.right.offset g = block.offset g + g.blockSize (block.bucket + 1) := by
  rw [offset, offset, ← Geometry.two_mul_blockSize inner, right]
  ring

/-- The block lies in the window and in no bucket past the last. -/
structure Fits (g : Geometry) (block : Block) : Prop where
  bucket_le : block.bucket ≤ g.lastBucket
  index_lt : block.index < 2 ^ block.bucket

theorem Fits.offset_add_size_le (fits : block.Fits g) :
    block.offset g + block.size g ≤ g.maxBlock := by
  rw [offset, size, ← Nat.succ_mul, ← Geometry.two_pow_mul_blockSize fits.bucket_le]
  exact Nat.mul_le_mul_right _ fits.index_lt

theorem Fits.two_pow_le (fits : block.Fits g) : 2 ^ block.bucket ≤ 2 ^ 60 :=
  Nat.pow_le_pow_right (by omega) (by have := fits.bucket_le; have := g.lastBucket_lt; omega)

theorem Fits.shiftLeft_one (fits : block.Fits g) :
    Word.shiftLeft 1 block.bucket = .ok (2 ^ block.bucket) := by
  have bounded := fits.two_pow_le
  have deep := fits.bucket_le
  have few := g.lastBucket_lt
  have shifted := @Word.shiftLeft_eq_ok 1 block.bucket (by omega) (by rw [Word.bound_eq]; omega)
  rwa [Nat.one_mul] at shifted

theorem Fits.node_add_one (fits : block.Fits g) : block.node + 1 = 2 ^ block.bucket + block.index := by
  have positive := Nat.two_pow_pos block.bucket
  have index := fits.index_lt
  unfold node
  omega

theorem node_left : block.left.node = 2 * block.node + 1 := by
  have positive := Nat.two_pow_pos block.bucket
  simp only [node, left, Nat.pow_succ]
  omega

theorem node_right : block.right.node = 2 * block.node + 2 := by
  have positive := Nat.two_pow_pos block.bucket
  simp only [node, right, Nat.pow_succ]
  omega

theorem Fits.node_lt (fits : block.Fits g) : block.node < 2 ^ 61 := by
  have bounded := fits.two_pow_le
  have index := fits.index_lt
  unfold node
  omega

theorem Fits.node_eq_zero (fits : block.Fits g) : block.node = 0 ↔ block.bucket = 0 := by
  have index := fits.index_lt
  obtain ⟨bucket, place⟩ := block
  constructor
  · intro zero
    by_contra positive
    obtain ⟨above, rfl⟩ := Nat.exists_eq_succ_of_ne_zero positive
    have large := Nat.two_pow_pos above
    simp only [node, Nat.pow_succ] at zero
    omega
  · rintro rfl
    simp only [Nat.pow_zero, Nat.lt_one_iff] at index
    simp [node, index]

theorem Fits.parent (fits : block.Fits g) : block.parent.Fits g := by
  obtain ⟨deep, index⟩ := fits
  refine ⟨by simp only [Block.parent]; omega, ?_⟩
  cases bucket : block.bucket with
  | zero =>
    rw [bucket] at index
    simp only [Block.parent, bucket, Nat.zero_sub, Nat.pow_zero] at index ⊢
    omega
  | succ above =>
    rw [bucket, Nat.pow_succ] at index
    simp only [Block.parent, bucket, Nat.add_sub_cancel]
    omega

theorem Fits.buddy (fits : block.Fits g) (inner : block.bucket ≠ 0) : block.buddy.Fits g := by
  obtain ⟨deep, index⟩ := fits
  refine ⟨deep, ?_⟩
  obtain ⟨above, bucket⟩ := Nat.exists_eq_succ_of_ne_zero inner
  rw [bucket, Nat.pow_succ] at index
  simp only [Block.buddy, bucket, Nat.pow_succ]
  split <;> omega

theorem parent_left : block.left.parent = block := by
  obtain ⟨bucket, index⟩ := block
  simp [left, parent]

theorem parent_right : block.right.parent = block := by
  obtain ⟨bucket, index⟩ := block
  simp only [right, parent, Nat.add_sub_cancel, Block.mk.injEq, true_and]
  omega

theorem node_parent (inner : block.bucket ≠ 0) : block.parent.node = (block.node - 1) / 2 := by
  obtain ⟨bucket, index⟩ := block
  obtain ⟨above, rfl⟩ := Nat.exists_eq_succ_of_ne_zero inner
  have positive := Nat.two_pow_pos above
  simp only [node, parent, Nat.succ_sub_one, Nat.pow_succ]
  omega

theorem node_buddy (inner : block.bucket ≠ 0) : block.buddy.node = ((block.node - 1) ^^^ 1) + 1 := by
  obtain ⟨bucket, index⟩ := block
  obtain ⟨above, rfl⟩ := Nat.exists_eq_succ_of_ne_zero inner
  have positive := Nat.two_pow_pos above
  have number : (⟨above + 1, index⟩ : Block).node - 1 = 2 * (2 ^ above - 1) + index := by
    simp only [node, Nat.pow_succ]
    omega
  rw [number]
  by_cases even : index % 2 = 0
  · rw [Nat.xor_one_of_even (Nat.even_iff.mpr (by omega))]
    simp only [buddy, node, even, if_true, Nat.pow_succ]
    omega
  · rw [Nat.xor_one_of_odd (Nat.odd_iff.mpr (by omega))]
    simp only [buddy, node, even, if_false, Nat.pow_succ]
    omega

theorem node_injective {other : Block} (level : block.index < 2 ^ block.bucket)
    (other_level : other.index < 2 ^ other.bucket) (same : block.node = other.node) :
    block = other := by
  have bound : ∀ {b : Block}, b.index < 2 ^ b.bucket →
      2 ^ b.bucket ≤ b.node + 1 ∧ b.node + 1 < 2 ^ (b.bucket + 1) := by
    intro b inside
    have positive := Nat.two_pow_pos b.bucket
    simp only [node, Nat.pow_succ]
    omega
  obtain ⟨low, high⟩ := bound level
  obtain ⟨other_low, other_high⟩ := bound other_level
  rw [same] at low high
  have bucket : block.bucket = other.bucket := by
    rcases Nat.lt_trichotomy block.bucket other.bucket with less | equal | more
    · have := Nat.pow_le_pow_right (n := 2) (by omega) (show block.bucket + 1 ≤ other.bucket from less)
      omega
    · exact equal
    · have := Nat.pow_le_pow_right (n := 2) (by omega) (show other.bucket + 1 ≤ block.bucket from more)
      omega
  obtain ⟨b, i⟩ := block
  obtain ⟨c, j⟩ := other
  obtain rfl : b = c := bucket
  simp only [node] at same
  congr 1
  omega

/-- Every number is that of a node. -/
theorem exists_node_eq (number : Nat) :
    ∃ block : Block, block.index < 2 ^ block.bucket ∧ block.node = number := by
  refine ⟨⟨Nat.log 2 (number + 1), number + 1 - 2 ^ Nat.log 2 (number + 1)⟩, ?_, ?_⟩
  · have low := Nat.pow_log_le_self 2 (show number + 1 ≠ 0 by omega)
    have high := Nat.lt_pow_succ_log_self (b := 2) (by omega) (number + 1)
    rw [Nat.pow_succ] at high
    simp only
    omega
  · have low := Nat.pow_log_le_self 2 (show number + 1 ≠ 0 by omega)
    have positive := Nat.two_pow_pos (Nat.log 2 (number + 1))
    simp only [node]
    omega

end Block

namespace Geometry
variable {g : Geometry} {block : Block}

/-- No step of the address arithmetic overflows for a block in the window. -/
theorem addressOf_node (fits : block.Fits g) {base : Nat} (room : base + g.maxBlock < Word.bound) :
    g.addressOf base block.node block.bucket = .ok (base + block.offset g) := by
  have deep := fits.bucket_le
  have few := g.lastBucket_lt
  have power := fits.two_pow_le
  have node := fits.node_lt
  have inside := fits.offset_add_size_le
  have positive := g.blockSize_pos block.bucket
  have top := g.maxLog_lt
  have order : block.bucket ≤ g.maxLog := by unfold lastBucket at deep; omega
  have first := fits.shiftLeft_one
  have scaled : Word.shiftLeft block.index (g.maxLog - block.bucket) = .ok (block.offset g) := by
    rw [Block.offset, blockSize_eq] at inside ⊢
    exact Word.shiftLeft_eq_ok (by omega) (by omega)
  unfold addressOf
  rw [first, Word.add_eq_ok (by unfold Word.bound; omega)]
  simp only [bind, Except.bind]
  rw [Word.sub_eq_ok (by rw [fits.node_add_one]; omega), Word.sub_eq_ok order]
  simp only [fits.node_add_one, Nat.add_sub_cancel_left, scaled]
  exact Word.add_eq_ok (by omega)

/-- The first address of a block leads back to its number. -/
theorem nodeAt_address (fits : block.Fits g) (base : Nat) :
    g.nodeAt base (base + block.offset g) block.bucket = .ok block.node := by
  have deep := fits.bucket_le
  have few := g.lastBucket_lt
  have power := fits.two_pow_le
  have index := fits.index_lt
  have top := g.maxLog_lt
  have order : block.bucket ≤ g.maxLog := by unfold lastBucket at deep; omega
  have first := fits.shiftLeft_one
  have place : Word.shiftRight (block.offset g) (g.maxLog - block.bucket) = .ok block.index := by
    rw [Word.shiftRight_eq_ok (by omega), Block.offset, blockSize_eq, Nat.mul_div_cancel _ (Nat.two_pow_pos _)]
  unfold nodeAt
  rw [Word.sub_eq_ok (Nat.le_add_right _ _), Word.sub_eq_ok order, Nat.add_sub_cancel_left]
  simp only [bind, Except.bind, place, first]
  rw [Word.add_eq_ok (by unfold Word.bound; omega)]
  simp only
  rw [Word.sub_eq_ok (by have := Nat.two_pow_pos block.bucket; omega)]
  congr 1
  have node := fits.node_add_one
  omega

theorem parent_node (fits : block.Fits g) (inner : block.bucket ≠ 0) :
    Geometry.parent block.node = .ok block.parent.node := by
  have positive : block.node ≠ 0 := fun zero => inner (fits.node_eq_zero.mp zero)
  rw [Geometry.parent, Word.sub_eq_ok (by omega), Block.node_parent inner]
  rfl

theorem buddy_node (fits : block.Fits g) (inner : block.bucket ≠ 0) :
    Geometry.buddy block.node = .ok block.buddy.node := by
  have positive : block.node ≠ 0 := fun zero => inner (fits.node_eq_zero.mp zero)
  have number := Block.node_buddy inner
  have small := (fits.buddy inner).node_lt
  rw [Geometry.buddy, Word.sub_eq_ok (by omega)]
  simp only [bind, Except.bind]
  rw [Word.add_eq_ok (by unfold Word.bound; omega), number]

/-- Each inner node has its bit in the split storage. -/
theorem div_lt_splitBytes {node : Nat} (inner : node < 2 ^ g.lastBucket) : node / 8 < g.splitBytes := by
  unfold splitBytes bytesFor
  rw [Nat.one_shiftLeft]
  split <;> omega

theorem node_div_lt_splitBytes (level : block.index < 2 ^ block.bucket)
    (inner : block.bucket < g.lastBucket) : block.node / 8 < g.splitBytes := by
  have order := Nat.pow_le_pow_right (n := 2) (by omega) (show block.bucket + 1 ≤ g.lastBucket from inner)
  have positive := Nat.two_pow_pos block.bucket
  rw [Nat.pow_succ] at order
  apply div_lt_splitBytes
  unfold Block.node
  omega

end Geometry

end Buddy

end Nucleus
