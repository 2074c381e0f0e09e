import Nucleus.Proofs.Buddy.Tiles

/-! The addresses that a block takes up in a window, and the nodes of a tree that is not grown to the
whole window. -/
namespace Nucleus.Buddy

/-- A range of addresses. -/
structure Extent where
  start : Nat
  size : Nat

namespace Extent

def Holds (extent : Extent) (addr : Nat) : Prop :=
  extent.start ≤ addr ∧ addr < extent.start + extent.size

def Apart (extent other : Extent) : Prop := ∀ addr, ¬ (extent.Holds addr ∧ other.Holds addr)

def Inside (inner outer : Extent) : Prop := ∀ addr, inner.Holds addr → outer.Holds addr

end Extent

namespace Block
variable {g : Geometry} {base root : Nat} {block node other : Block}

def extent (g : Geometry) (base : Nat) (block : Block) : Extent := ⟨base + block.offset g, block.size g⟩

theorem holds_extent {addr : Nat} :
    (block.extent g base).Holds addr ↔ base ≤ addr ∧ block.Covers g (addr - base) := by
  simp only [covers_iff, Extent.Holds, extent]
  omega

theorem apart_extent : (block.extent g base).Apart (other.extent g base) ↔ block.Apart g other := by
  constructor
  · intro apart offset both
    apply apart (base + offset)
    rw [holds_extent, holds_extent, Nat.add_sub_cancel_left]
    exact ⟨⟨Nat.le_add_right _ _, both.1⟩, Nat.le_add_right _ _, both.2⟩
  · rintro apart addr ⟨here, there⟩
    exact apart _ ⟨(holds_extent.mp here).2, (holds_extent.mp there).2⟩

theorem inside_extent : (block.extent g base).Inside (other.extent g base) ↔
    ∀ offset, block.Covers g offset → other.Covers g offset := by
  constructor
  · intro inside offset covers
    have held := inside (base + offset) (holds_extent.mpr ⟨Nat.le_add_right _ _, by
      rwa [Nat.add_sub_cancel_left]⟩)
    rw [holds_extent, Nat.add_sub_cancel_left] at held
    exact held.2
  · intro inside addr held
    obtain ⟨above, covers⟩ := holds_extent.mp held
    exact holds_extent.mpr ⟨above, inside _ covers⟩

theorem aligned_extent (g : Geometry) (base : Nat) (block : Block) :
    base ≤ (block.extent g base).start ∧
      (block.extent g base).size ∣ (block.extent g base).start - base := by
  refine ⟨Nat.le_add_right _ _, ?_⟩
  simp only [extent, Nat.add_sub_cancel_left]
  exact Dvd.intro_left _ rfl

/-- A block that holds all of another is no smaller. -/
theorem bucket_le_of_inside (deep : block.bucket ≤ g.lastBucket)
    (inside : ∀ offset, block.Covers g offset → other.Covers g offset) : other.bucket ≤ block.bucket := by
  have positive : 0 < block.size g := g.blockSize_pos _
  have first := covers_iff.mp (inside (block.offset g) covers_offset)
  have last := covers_iff.mp (inside (block.offset g + block.size g - 1) (covers_iff.mpr (by omega)))
  have size : block.size g ≤ other.size g := by omega
  exact Geometry.le_of_blockSize_le deep size

/-- A node of the tree whose root is the first block of a bucket. -/
structure InTree (g : Geometry) (root : Nat) (node : Block) : Prop where
  deep : node.bucket ≤ g.lastBucket
  root_le : root ≤ node.bucket
  index_lt : node.index < 2 ^ (node.bucket - root)

theorem inTree_iff (deep : node.bucket ≤ g.lastBucket) (root_le : root ≤ node.bucket) :
    node.InTree g root ↔ node.offset g + node.size g ≤ g.blockSize root := by
  have size : g.blockSize root = 2 ^ (node.bucket - root) * g.blockSize node.bucket := by
    unfold Geometry.lastBucket at deep
    rw [Geometry.blockSize_eq, Geometry.blockSize_eq, ← Nat.pow_add]
    congr 1
    omega
  rw [offset, Block.size, ← Nat.succ_mul, size, Nat.mul_le_mul_right_iff (g.blockSize_pos _)]
  exact ⟨fun node => node.index_lt, fun small => ⟨deep, root_le, small⟩⟩

theorem InTree.inside_root (inTree : node.InTree g root) {offset : Nat} (covers : node.Covers g offset) :
    offset < g.blockSize root :=
  (covers_iff.mp covers).2.trans_le ((inTree_iff inTree.deep inTree.root_le).mp inTree)

/-- Below the root, both halves of a node lie in the tree or neither. -/
theorem inTree_left_iff_right (root_le : root ≤ node.bucket) :
    node.left.InTree g root ↔ node.right.InTree g root := by
  have depth : node.bucket + 1 - root = node.bucket - root + 1 := by omega
  constructor
  · rintro ⟨deep, order, index⟩
    simp only [left, depth, Nat.pow_succ] at index
    exact ⟨deep, order, by simp only [right, depth, Nat.pow_succ]; omega⟩
  · rintro ⟨deep, order, index⟩
    simp only [right, depth, Nat.pow_succ] at index
    exact ⟨deep, order, by simp only [left, depth, Nat.pow_succ]; omega⟩

end Block

theorem Tiles.inTree {g : Geometry} {root : Nat} {blocks : List Block} {block : Block}
    (tiles : Tiles g root blocks) (member : block ∈ blocks) :
    block.InTree g root :=
  (Block.inTree_iff (tiles.deep block member) (tiles.root_le member)).mpr (tiles.inside member)

end Nucleus.Buddy
