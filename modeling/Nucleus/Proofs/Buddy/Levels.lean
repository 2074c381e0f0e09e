import Nucleus.Proofs.Buddy.Rooms
import Nucleus.Proofs.Buddy.Sound
import Nucleus.Proofs.Bits.Histories

/-! The numbering of the nodes, level by level. The nodes of a bucket and the addresses at which its blocks start
determine each other, halves and buddies lie where the tree has them, the blocks of a bucket tile the window, and
every parent has its bit. -/
namespace Nucleus.Buddy

/-- The numbers of the nodes of a bucket. -/
structure OnLevel (bucket node : Nat) : Prop where
  first_le : 2 ^ bucket - 1 ≤ node
  le_last : node ≤ 2 ^ (bucket + 1) - 2

namespace Geometry
variable {g : Geometry} {base bucket node addr bytes : Nat} {block : Block}

/-- The addresses of a window that are aligned to the blocks of a bucket, counted from the base. -/
structure Aligned (g : Geometry) (base bucket addr : Nat) : Prop where
  above : base ≤ addr
  below : addr < base + g.maxBlock
  divides : g.blockSize bucket ∣ addr - base

/-- The block of a node holds an address. -/
def NodeHolds (g : Geometry) (base bucket node addr : Nat) : Prop :=
  ∃ start, g.addressOf base node bucket = .ok start ∧ start ≤ addr ∧ addr < start + g.blockSize bucket

theorem exists_of_onLevel (valid : bucket < g.bucketCount) (level : OnLevel bucket node) :
    ∃ block : Block, block.Fits g ∧ block.bucket = bucket ∧ block.node = node := by
  have positive := Nat.two_pow_pos bucket
  obtain ⟨first, last⟩ := level
  rw [Nat.pow_succ] at last
  refine ⟨⟨bucket, node - (2 ^ bucket - 1)⟩, ⟨Nat.le_of_lt_succ valid, ?_⟩, rfl, ?_⟩
  · simp only
    omega
  · simp only [Block.node]
    omega

theorem onLevel_node (fits : block.Fits g) : OnLevel block.bucket block.node := by
  have index := fits.index_lt
  have positive := Nat.two_pow_pos block.bucket
  constructor
  · exact Nat.le_add_right _ _
  · rw [Nat.pow_succ, Block.node]
    omega

theorem exists_of_aligned (valid : bucket < g.bucketCount) (aligned : g.Aligned base bucket addr) :
    ∃ block : Block, block.Fits g ∧ block.bucket = bucket ∧ base + block.offset g = addr := by
  obtain ⟨above, below, index, offset⟩ := aligned
  have whole := two_pow_mul_blockSize (g := g) (Nat.le_of_lt_succ valid)
  have inside : index * g.blockSize bucket < 2 ^ bucket * g.blockSize bucket := by
    rw [whole, Nat.mul_comm, ← offset]
    omega
  refine ⟨⟨bucket, index⟩, ⟨Nat.le_of_lt_succ valid, Nat.lt_of_mul_lt_mul_right inside⟩, rfl, ?_⟩
  rw [Block.offset, Nat.mul_comm, ← offset]
  omega

theorem aligned_offset (fits : block.Fits g) : g.Aligned base block.bucket (base + block.offset g) where
  above := Nat.le_add_right _ _
  below := by
    have inside := fits.offset_add_size_le
    have positive : 0 < block.size g := g.blockSize_pos _
    omega
  divides := by
    rw [Nat.add_sub_cancel_left]
    exact Dvd.intro_left _ rfl

theorem addressOf_inverse (room : base + g.maxBlock < Word.bound) (valid : bucket < g.bucketCount)
    (level : OnLevel bucket node) :
    g.addressOf base node bucket = .ok (base + (node - (2 ^ bucket - 1)) * g.blockSize bucket) ∧
      g.Aligned base bucket (base + (node - (2 ^ bucket - 1)) * g.blockSize bucket) ∧
      g.nodeAt base (base + (node - (2 ^ bucket - 1)) * g.blockSize bucket) bucket = .ok node := by
  obtain ⟨block, fits, rfl, rfl⟩ := exists_of_onLevel valid level
  have offset : (block.node - (2 ^ block.bucket - 1)) * g.blockSize block.bucket = block.offset g := by
    rw [Block.node, Nat.add_sub_cancel_left, Block.offset]
  rw [offset]
  exact ⟨addressOf_node fits room, aligned_offset fits, nodeAt_address fits base⟩

theorem nodeAt_inverse (room : base + g.maxBlock < Word.bound) (valid : bucket < g.bucketCount)
    (aligned : g.Aligned base bucket addr) : ∃ node, g.nodeAt base addr bucket = .ok node ∧
      OnLevel bucket node ∧ g.addressOf base node bucket = .ok addr := by
  obtain ⟨block, fits, rfl, rfl⟩ := exists_of_aligned valid aligned
  exact ⟨_, nodeAt_address fits base, onLevel_node fits, addressOf_node fits room⟩

theorem addressOf_halves (room : base + g.maxBlock < Word.bound) (inner : bucket + 1 < g.bucketCount)
    (level : OnLevel bucket node) (starts : g.addressOf base node bucket = .ok addr) :
    OnLevel (bucket + 1) (2 * node + 1) ∧ OnLevel (bucket + 1) (2 * node + 2) ∧
      g.addressOf base (2 * node + 1) (bucket + 1) = .ok addr ∧
      g.addressOf base (2 * node + 2) (bucket + 1) = .ok (addr + g.blockSize (bucket + 1)) := by
  obtain ⟨block, fits, rfl, rfl⟩ := exists_of_onLevel (Nat.lt_of_succ_lt inner) level
  obtain rfl := Except.ok.inj ((addressOf_node fits room).symm.trans starts)
  have shallow : block.bucket < g.lastBucket := Nat.lt_of_succ_lt_succ inner
  have left : block.left.Fits g := ⟨shallow, by
    have index := fits.index_lt
    simp only [Block.left, Nat.pow_succ]
    omega⟩
  have right : block.right.Fits g := ⟨shallow, by
    have index := fits.index_lt
    simp only [Block.right, Nat.pow_succ]
    omega⟩
  have left_start := addressOf_node left room
  have right_start := addressOf_node right room
  rw [Block.node_left, Block.offset_left shallow] at left_start
  rw [Block.node_right, Block.offset_right shallow, ← Nat.add_assoc] at right_start
  rw [← Block.node_left, ← Block.node_right]
  refine ⟨onLevel_node left, onLevel_node right, ?_, ?_⟩
  · rwa [Block.node_left]
  · rwa [Block.node_right]

/-- A node and its buddy are the two halves of their parent, which has its bit in the storage for the split bits. -/
theorem parent_buddy (valid : bucket < g.bucketCount) (level : OnLevel bucket node) (inner : 0 < node) :
    ∃ above other, Geometry.parent node = .ok above ∧ Geometry.buddy node = .ok other ∧
      (node = 2 * above + 1 ∧ other = 2 * above + 2 ∨ node = 2 * above + 2 ∧ other = 2 * above + 1) ∧
      above / 8 < g.splitBytes := by
  obtain ⟨block, fits, rfl, rfl⟩ := exists_of_onLevel valid level
  have below : block.bucket ≠ 0 := fun top => inner.ne' (fits.node_eq_zero.mpr top)
  have shallow : block.parent.bucket < g.lastBucket := by
    have deep := fits.bucket_le
    simp only [Block.parent]
    omega
  refine ⟨_, _, parent_node fits below, buddy_node fits below, ?_, ?_⟩
  · rw [← Block.node_left, ← Block.node_right]
    rcases Block.halves_of_parent below with ⟨left, right⟩ | ⟨right, left⟩
    · exact .inl ⟨congrArg Block.node left, congrArg Block.node right⟩
    · exact .inr ⟨congrArg Block.node right, congrArg Block.node left⟩
  · exact node_div_lt_splitBytes fits.parent.index_lt shallow

theorem NodeHolds.inside (room : base + g.maxBlock < Word.bound) (valid : bucket < g.bucketCount)
    (level : OnLevel bucket node) (holds : g.NodeHolds base bucket node addr) :
    base ≤ addr ∧ addr < base + g.maxBlock := by
  obtain ⟨block, fits, rfl, rfl⟩ := exists_of_onLevel valid level
  obtain ⟨start, starts, above, below⟩ := holds
  obtain rfl := Except.ok.inj ((addressOf_node fits room).symm.trans starts)
  have inside := fits.offset_add_size_le
  rw [Block.size] at inside
  omega

theorem nodeHolds_iff (fits : block.Fits g) (room : base + g.maxBlock < Word.bound) :
    g.NodeHolds base block.bucket block.node addr ↔ base ≤ addr ∧ block.Covers g (addr - base) := by
  simp only [NodeHolds, addressOf_node fits room, Except.ok.injEq, exists_eq_left', Block.covers_iff, Block.size]
  omega

/-- Each address of the window lies in the block of one node of a bucket. -/
theorem existsUnique_nodeHolds (room : base + g.maxBlock < Word.bound) (valid : bucket < g.bucketCount)
    (above : base ≤ addr) (below : addr < base + g.maxBlock) :
    ∃! node, OnLevel bucket node ∧ g.NodeHolds base bucket node addr := by
  have positive : 0 < g.blockSize bucket := g.blockSize_pos bucket
  have aligned : g.Aligned base bucket (base + (addr - base) / g.blockSize bucket * g.blockSize bucket) := by
    have start := Nat.div_mul_le_self (addr - base) (g.blockSize bucket)
    refine ⟨Nat.le_add_right _ _, by omega, ?_⟩
    rw [Nat.add_sub_cancel_left]
    exact Dvd.intro_left _ rfl
  obtain ⟨block, fits, rfl, starts⟩ := exists_of_aligned valid aligned
  have index : block.index = (addr - base) / g.blockSize block.bucket :=
    Nat.eq_of_mul_eq_mul_right positive (Nat.add_left_cancel starts)
  refine ⟨block.node, ⟨onLevel_node fits, (nodeHolds_iff fits room).mpr ⟨above, index.symm⟩⟩, ?_⟩
  rintro node ⟨level, holds⟩
  obtain ⟨other, other_fits, same, rfl⟩ := exists_of_onLevel valid level
  rw [← same] at holds
  rw [Block.eq_of_covers same ((nodeHolds_iff other_fits room).mp holds).2 index.symm]

theorem isGreatest_bucketFor (small : bytes ≤ g.maxBlock) : ∃ bucket, g.bucketFor bytes = .ok bucket ∧
    IsGreatest {bucket | bucket < g.bucketCount ∧ bytes ≤ g.blockSize bucket} bucket := by
  have depth : Nat.clog 2 bytes ≤ g.maxLog := (Nat.clog_le_iff_le_pow (by omega)).mpr (g.maxBlock_eq ▸ small)
  have holds : ∀ bucket, bytes ≤ g.blockSize bucket ↔ Nat.clog 2 bytes ≤ g.maxLog - bucket := fun bucket => by
    rw [blockSize_eq, Nat.clog_le_iff_le_pow (by omega)]
  refine ⟨_, bucketFor_eq_min small, ⟨?_, ?_⟩, ?_⟩
  · exact Nat.lt_succ_of_le (Nat.min_le_left _ _)
  · rw [holds]
    omega
  · rintro bucket ⟨valid, large⟩
    have deep : bucket ≤ g.lastBucket := Nat.le_of_lt_succ valid
    have order : g.lastBucket ≤ g.maxLog := by
      unfold lastBucket
      omega
    rw [holds] at large
    omega

/-- In a tree that ends at a word, for each of its buckets: a node and the first address of its block are computed
from each other, without overflow and between exactly the nodes of the bucket and the aligned addresses; the halves of
the block are those of the next two nodes below; a node and its buddy are the two halves of their parent, which has a
bit in the storage; and the blocks tile the window. A size is given the greatest bucket whose blocks hold it. -/
theorem numbering_of_tree (g : Geometry) (base : Nat) (room : base + g.maxBlock < Word.bound) :
    (∀ bucket < g.bucketCount,
      (∀ node, OnLevel bucket node →
        g.addressOf base node bucket = .ok (base + (node - (2 ^ bucket - 1)) * g.blockSize bucket) ∧
        g.Aligned base bucket (base + (node - (2 ^ bucket - 1)) * g.blockSize bucket) ∧
        g.nodeAt base (base + (node - (2 ^ bucket - 1)) * g.blockSize bucket) bucket = .ok node) ∧
      (∀ addr, g.Aligned base bucket addr → ∃ node, g.nodeAt base addr bucket = .ok node ∧
        OnLevel bucket node ∧ g.addressOf base node bucket = .ok addr) ∧
      (bucket + 1 < g.bucketCount → g.blockSize bucket = g.blockSize (bucket + 1) + g.blockSize (bucket + 1) ∧
        ∀ node addr, OnLevel bucket node → g.addressOf base node bucket = .ok addr →
          OnLevel (bucket + 1) (2 * node + 1) ∧ OnLevel (bucket + 1) (2 * node + 2) ∧
          g.addressOf base (2 * node + 1) (bucket + 1) = .ok addr ∧
          g.addressOf base (2 * node + 2) (bucket + 1) = .ok (addr + g.blockSize (bucket + 1))) ∧
      (∀ node, OnLevel bucket node → 0 < node → ∃ above other,
        Geometry.parent node = .ok above ∧ Geometry.buddy node = .ok other ∧
        (node = 2 * above + 1 ∧ other = 2 * above + 2 ∨ node = 2 * above + 2 ∧ other = 2 * above + 1) ∧
        ∀ bits : BitArray, bits.size = g.splitBytes → ∃ value, bits.get above = .ok value) ∧
      (∀ addr, base ≤ addr → addr < base + g.maxBlock →
        ∃! node, OnLevel bucket node ∧ g.NodeHolds base bucket node addr) ∧
      ∀ node addr, OnLevel bucket node → g.NodeHolds base bucket node addr →
        base ≤ addr ∧ addr < base + g.maxBlock) ∧
    ∀ bytes ≤ g.maxBlock, ∃ bucket, g.bucketFor bytes = .ok bucket ∧
      IsGreatest {bucket | bucket < g.bucketCount ∧ bytes ≤ g.blockSize bucket} bucket := by
  refine ⟨?_, fun bytes small => isGreatest_bucketFor small⟩
  intro bucket valid
  refine ⟨fun node => addressOf_inverse room valid, fun addr => nodeAt_inverse room valid, ?_, ?_,
    fun addr => existsUnique_nodeHolds room valid, fun node addr level => NodeHolds.inside room valid level⟩
  · intro inner
    have double := two_mul_blockSize (Nat.lt_of_succ_lt_succ inner)
    exact ⟨by omega, fun node addr => addressOf_halves room inner⟩
  · intro node level inner
    obtain ⟨above, other, parent, buddy, halves, stored⟩ := parent_buddy valid level inner
    refine ⟨above, other, parent, buddy, halves, fun bits size => ?_⟩
    exact ⟨_, BitArray.get_inside (size ▸ stored)⟩

/-- The last of the smallest blocks in a tree of 2 to the 63 bytes that ends at the last word. -/
theorem numbering_of_largest :
    let largest : Geometry := ⟨4, 63, by decide, by decide, by decide⟩
    largest.addressOf (2 ^ 63 - 1) (2 ^ 60 - 2) 59 = .ok (2 ^ 64 - 17) ∧
    largest.nodeAt (2 ^ 63 - 1) (2 ^ 64 - 17) 59 = .ok (2 ^ 60 - 2) ∧
    Geometry.parent (2 ^ 60 - 2) = .ok (2 ^ 59 - 2) ∧ Geometry.buddy (2 ^ 60 - 2) = .ok (2 ^ 60 - 3) := by
  intro largest
  obtain ⟨levels, -⟩ := numbering_of_tree largest (2 ^ 63 - 1) (by decide)
  obtain ⟨inverse, -, -, relatives, -⟩ := levels 59 (by decide)
  obtain ⟨starts, -, back⟩ := inverse (2 ^ 60 - 2) ⟨by decide, by decide⟩
  obtain ⟨above, other, parent, buddy, halves, -⟩ := relatives (2 ^ 60 - 2) ⟨by decide, by decide⟩ (by decide)
  have place : 2 ^ 63 - 1 + (2 ^ 60 - 2 - (2 ^ 59 - 1)) * largest.blockSize 59 = 2 ^ 64 - 17 := by decide
  rw [place] at starts back
  obtain ⟨rfl, rfl⟩ : above = 2 ^ 59 - 2 ∧ other = 2 ^ 60 - 3 := by omega
  exact ⟨starts, back, parent, buddy⟩

end Geometry

end Nucleus.Buddy
