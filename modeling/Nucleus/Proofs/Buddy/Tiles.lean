import Nucleus.Proofs.Buddy.Nodes
import Mathlib.Algebra.BigOperators.Group.Finset.Piecewise
import Mathlib.Order.Interval.Finset.Nat

/-! Blocks that tile a tree: each byte of the tree lies in exactly one of them, and none reaches out of
it. Halving a block, joining two halves and growing the tree keep a tiling. -/
namespace Nucleus.Buddy
variable {g : Geometry}

namespace Block
variable {block : Block}

/-- The block holds the byte at an offset from the base. -/
def Covers (g : Geometry) (offset : Nat) (block : Block) : Prop := offset / block.size g = block.index

instance (g : Geometry) (offset : Nat) : DecidablePred (Covers g offset) :=
  fun _ => inferInstanceAs (Decidable (_ = _))

theorem covers_iff {offset : Nat} :
    block.Covers g offset ↔ block.offset g ≤ offset ∧ offset < block.offset g + block.size g := by
  have positive : 0 < block.size g := g.blockSize_pos _
  rw [Covers, Nat.div_eq_iff positive, Block.offset]
  simp only [size] at *
  omega

theorem covers_offset : block.Covers g (block.offset g) :=
  covers_iff.mpr ⟨Nat.le_refl _, Nat.lt_add_of_pos_right (g.blockSize_pos _)⟩

theorem covers_halves (inner : block.bucket < g.lastBucket) (offset : Nat) :
    block.Covers g offset ↔ block.left.Covers g offset ∨ block.right.Covers g offset := by
  have size : block.size g = g.blockSize (block.bucket + 1) * 2 := by
    rw [Block.size, ← Geometry.two_mul_blockSize inner, Nat.mul_comm]
  rw [Covers, size, ← Nat.div_div_eq_div_mul]
  simp only [Covers, left, right, Block.size]
  omega

theorem not_covers_both (block : Block) (offset : Nat) :
    ¬ (block.left.Covers g offset ∧ block.right.Covers g offset) := by
  rintro ⟨left, right⟩
  simp only [Covers, Block.left, Block.right, Block.size] at left right
  omega

/-- Blocks without a common byte. -/
def Apart (g : Geometry) (block other : Block) : Prop :=
  ∀ offset, ¬ (block.Covers g offset ∧ other.Covers g offset)

instance : Std.Symm (Apart g) := ⟨fun _ _ apart offset both => apart offset both.symm⟩

theorem apart_iff {other : Block} : block.Apart g other ↔
    block.offset g + block.size g ≤ other.offset g ∨
      other.offset g + other.size g ≤ block.offset g := by
  have positive : 0 < block.size g := g.blockSize_pos _
  have other_positive : 0 < other.size g := g.blockSize_pos _
  constructor
  · intro apart
    have here := apart (block.offset g)
    have there := apart (other.offset g)
    rw [covers_iff, covers_iff] at here there
    omega
  · intro order offset both
    rw [covers_iff, covers_iff] at both
    omega

/-- Of two blocks that share a byte, the smaller lies inside the larger. -/
theorem covers_of_shared {inner outer : Block} (order : outer.bucket ≤ inner.bucket)
    (deep : inner.bucket ≤ g.lastBucket) {offset other : Nat} (inside : inner.Covers g offset)
    (shared : outer.Covers g offset) (covered : inner.Covers g other) : outer.Covers g other := by
  have size : outer.size g = inner.size g * 2 ^ (inner.bucket - outer.bucket) := by
    unfold Geometry.lastBucket at deep
    rw [Block.size, Block.size, Geometry.blockSize_eq, Geometry.blockSize_eq, ← Nat.pow_add]
    congr 1
    omega
  rw [Covers, size, ← Nat.div_div_eq_div_mul] at shared ⊢
  rw [covered, ← shared, inside]

/-- A block that starts in a tree ends in it, unless it is larger than the tree. -/
theorem inside_of_offset_lt {root : Nat} (deep : block.bucket ≤ g.lastBucket) (order : root ≤ block.bucket)
    (starts : block.offset g < g.blockSize root) : block.offset g + block.size g ≤ g.blockSize root := by
  have positive : 0 < block.size g := g.blockSize_pos _
  have first : (⟨root, 0⟩ : Block).Covers g (block.offset g) := Nat.div_eq_of_lt starts
  have last : block.Covers g (block.offset g + block.size g - 1) := covers_iff.mpr (by omega)
  have covered := covers_iff.mp (covers_of_shared order deep covers_offset first last)
  simp only [offset, size, Nat.zero_mul] at covered positive ⊢
  omega

theorem fits_of_inside (deep : block.bucket ≤ g.lastBucket)
    (inside : block.offset g + block.size g ≤ g.maxBlock) : block.Fits g := by
  have positive : 0 < block.size g := g.blockSize_pos _
  refine ⟨deep, Nat.lt_of_mul_lt_mul_right (a := g.blockSize block.bucket) ?_⟩
  rw [Geometry.two_pow_mul_blockSize deep]
  exact Nat.lt_of_lt_of_le (Nat.lt_add_of_pos_right positive) inside

end Block

/-- How many of the blocks hold a byte. -/
def tally (g : Geometry) (blocks : List Block) (offset : Nat) : Nat :=
  blocks.countP fun block => block.Covers g offset

theorem tally_cons (block : Block) (blocks : List Block) (offset : Nat) :
    tally g (block :: blocks) offset =
      tally g blocks offset + if block.Covers g offset then 1 else 0 := by
  simp [tally, List.countP_cons]

theorem tally_perm {blocks others : List Block} (same : blocks.Perm others) (offset : Nat) :
    tally g blocks offset = tally g others offset := same.countP_eq _

structure Tiles (g : Geometry) (root : Nat) (blocks : List Block) : Prop where
  deep : ∀ block ∈ blocks, block.bucket ≤ g.lastBucket
  once : ∀ offset, tally g blocks offset = if offset < g.blockSize root then 1 else 0

namespace Tiles
variable {root : Nat} {blocks others : List Block} {block : Block}

theorem perm (tiles : Tiles g root blocks) (same : blocks.Perm others) : Tiles g root others where
  deep block member := tiles.deep block (same.mem_iff.mpr member)
  once offset := (tally_perm same offset).symm.trans (tiles.once offset)

theorem halve (tiles : Tiles g root (block :: blocks)) (inner : block.bucket < g.lastBucket) :
    Tiles g root (block.left :: block.right :: blocks) where
  deep := by
    intro other member
    simp only [List.mem_cons] at member
    rcases member with rfl | rfl | member
    · exact inner
    · exact inner
    · exact tiles.deep other (List.mem_cons_of_mem _ member)
  once offset := by
    have once := tiles.once offset
    have halves := Block.covers_halves (g := g) inner offset
    have apart := Block.not_covers_both (g := g) block offset
    rw [tally_cons] at once
    rw [tally_cons, tally_cons, ← once]
    by_cases left : block.left.Covers g offset <;> by_cases right : block.right.Covers g offset <;>
      simp_all

theorem join (tiles : Tiles g root (block.left :: block.right :: blocks)) :
    Tiles g root (block :: blocks) where
  deep := by
    intro other member
    rcases List.mem_cons.mp member with rfl | member
    · have deep := tiles.deep other.left List.mem_cons_self
      simp only [Block.left] at deep
      omega
    · exact tiles.deep other (List.mem_cons_of_mem _ (List.mem_cons_of_mem _ member))
  once offset := by
    have once := tiles.once offset
    have inner : block.bucket < g.lastBucket := tiles.deep block.left List.mem_cons_self
    have halves := Block.covers_halves (g := g) inner offset
    have apart := Block.not_covers_both (g := g) block offset
    rw [tally_cons, tally_cons] at once
    rw [tally_cons, ← once]
    by_cases left : block.left.Covers g offset <;> by_cases right : block.right.Covers g offset <;>
      simp_all

/-- A tree of twice the size has a right half beside the old tree. -/
theorem double (tiles : Tiles g (root + 1) blocks) (inner : root < g.lastBucket) :
    Tiles g root (⟨root + 1, 1⟩ :: blocks) where
  deep := by
    intro other member
    rcases List.mem_cons.mp member with rfl | member
    · exact inner
    · exact tiles.deep other member
  once offset := by
    have double := Geometry.two_mul_blockSize (g := g) inner
    have positive := g.blockSize_pos (root + 1)
    rw [tally_cons, tiles.once offset]
    simp only [Block.covers_iff, Block.offset, Block.size, Nat.one_mul]
    split_ifs <;> omega

theorem inside (tiles : Tiles g root blocks) (member : block ∈ blocks) :
    block.offset g + block.size g ≤ g.blockSize root := by
  have positive : 0 < block.size g := g.blockSize_pos _
  have last : block.Covers g (block.offset g + block.size g - 1) := Block.covers_iff.mpr (by omega)
  have counted : 0 < tally g blocks (block.offset g + block.size g - 1) :=
    List.countP_pos_iff.mpr ⟨block, member, by simpa using last⟩
  rw [tiles.once] at counted
  split at counted <;> omega

theorem root_le (tiles : Tiles g root blocks) (member : block ∈ blocks) : root ≤ block.bucket := by
  have size : block.size g ≤ g.blockSize root :=
    Nat.le_trans (Nat.le_add_left _ _) (tiles.inside member)
  exact Geometry.le_of_blockSize_le (tiles.deep block member) size

theorem fits (tiles : Tiles g root blocks) (member : block ∈ blocks) : block.Fits g := by
  exact Block.fits_of_inside (tiles.deep block member)
    ((tiles.inside member).trans (g.blockSize_le_maxBlock root))

theorem exists_covers (tiles : Tiles g root blocks) {offset : Nat} (below : offset < g.blockSize root) :
    ∃ block ∈ blocks, block.Covers g offset := by
  have once := tiles.once offset
  rw [if_pos below] at once
  obtain ⟨block, member, covers⟩ := List.countP_pos_iff.mp (show 0 < tally g blocks offset by omega)
  exact ⟨block, member, by simpa using covers⟩

theorem pairwise_of_tally (once : ∀ offset, tally g blocks offset ≤ 1) :
    blocks.Pairwise (Block.Apart g) := by
  induction blocks with
  | nil => exact .nil
  | cons block blocks ih =>
    simp only [tally_cons] at once
    refine .cons ?_ (ih fun offset => Nat.le_trans (Nat.le_add_right _ _) (once offset))
    rintro other member offset ⟨here, there⟩
    have counted : 0 < tally g blocks offset :=
      List.countP_pos_iff.mpr ⟨other, member, by simpa using there⟩
    have bound := once offset
    rw [if_pos here] at bound
    omega

theorem pairwise (tiles : Tiles g root blocks) : blocks.Pairwise (Block.Apart g) :=
  pairwise_of_tally fun offset => by rw [tiles.once]; split <;> omega

theorem nodup (tiles : Tiles g root blocks) : blocks.Nodup := by
  apply tiles.pairwise.imp
  rintro block _ apart rfl
  exact apart (block.offset g) ⟨Block.covers_offset, Block.covers_offset⟩

theorem apart (tiles : Tiles g root blocks) {other : Block} (member : block ∈ blocks)
    (other_member : other ∈ blocks) (distinct : block ≠ other) : block.Apart g other :=
  tiles.pairwise.forall member other_member distinct

theorem eq_of_covers (tiles : Tiles g root blocks) {other : Block} {offset : Nat}
    (member : block ∈ blocks) (other_member : other ∈ blocks) (covers : block.Covers g offset)
    (other_covers : other.Covers g offset) : block = other := by
  by_contra distinct
  exact tiles.apart member other_member distinct offset ⟨covers, other_covers⟩

theorem sum_tally {limit : Nat} (below : ∀ block ∈ blocks, block.offset g + block.size g ≤ limit) :
    ∑ offset ∈ Finset.range limit, tally g blocks offset = (blocks.map (Block.size g)).sum := by
  induction blocks with
  | nil => simp [tally]
  | cons block blocks ih =>
    have own := below block List.mem_cons_self
    have extent : {offset ∈ Finset.range limit | block.Covers g offset} =
        Finset.Ico (block.offset g) (block.offset g + block.size g) := by
      ext offset
      rw [Finset.mem_filter, Finset.mem_range, Finset.mem_Ico, Block.covers_iff]
      omega
    simp only [tally_cons, Finset.sum_add_distrib, ih fun b member => below b (List.mem_cons_of_mem _ member)]
    rw [← Finset.card_filter, extent, Nat.card_Ico, List.map_cons, List.sum_cons]
    omega

/-- The sizes of the blocks add up to that of the tree. -/
theorem sum_size (tiles : Tiles g root blocks) :
    (blocks.map (Block.size g)).sum = g.blockSize root := by
  rw [← sum_tally fun block member => tiles.inside member]
  rw [Finset.sum_congr rfl fun offset member => by
    rw [tiles.once, if_pos (Finset.mem_range.mp member)]]
  simp

end Tiles

end Nucleus.Buddy
