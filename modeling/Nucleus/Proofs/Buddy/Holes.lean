import Nucleus.Proofs.Buddy.Extents
import Nucleus.Proofs.Buddy.Marks

/-! What a sound book is determined by: the free blocks are the largest nodes of the tree that overlap
nothing taken, and the split bits are those of the nodes with a taken block inside and one free half. -/
namespace Nucleus.Buddy
variable {g : Geometry} {base root : Nat} {book : Book} {taken : List Block} {block node other half beside : Block}

/-- A node of the tree that overlaps nothing taken. -/
structure Vacant (g : Geometry) (base root : Nat) (taken : List Extent) (node : Block) : Prop where
  inTree : node.InTree g root
  apart : ∀ extent ∈ taken, (node.extent g base).Apart extent

/-- A vacant node that lies in no larger one. -/
structure Hole (g : Geometry) (base root : Nat) (taken : List Extent) (node : Block) : Prop where
  vacant : Vacant g base root taken node
  maximal : ∀ other, Vacant g base root taken other →
    (node.extent g base).Inside (other.extent g base) → other = node

/-- The nodes whose split bit is set: those with both halves in the tree and something taken inside of
which exactly one half is in use, and the parent of a root that is in use. -/
def Marked (g : Geometry) (base root : Nat) (taken : List Extent) (used : Block → Prop) (node : Block) :
    Prop :=
  (node.left.InTree g root ∧ node.right.InTree g root ∧
      (∃ extent ∈ taken, extent.Inside (node.extent g base) ∧ ¬ (node.extent g base).Inside extent) ∧
      (used node.left ↔ ¬ used node.right)) ∨
    (root ≠ 0 ∧ node = ⟨root - 1, 0⟩ ∧ used ⟨root, 0⟩)

namespace Sound

theorem vacant_iff (base : Nat) : Vacant g base root (taken.map (Block.extent g base)) node ↔
    node.InTree g root ∧ ∀ block ∈ taken, node.Apart g block := by
  constructor
  · exact fun vacant => ⟨vacant.inTree, fun block member =>
      Block.apart_extent.mp (vacant.apart _ (List.mem_map_of_mem member))⟩
  · rintro ⟨inTree, apart⟩
    refine ⟨inTree, fun extent member => ?_⟩
    obtain ⟨block, here, rfl⟩ := List.mem_map.mp member
    exact Block.apart_extent.mpr (apart block here)

theorem inTree (sound : Sound g book taken) (free : block ∈ book) : block.InTree g book.root :=
  sound.tiles.inTree (sound.mem_tiles free)

theorem vacant (base : Nat) (sound : Sound g book taken) (free : block ∈ book) :
    Vacant g base book.root (taken.map (Block.extent g base)) block :=
  (vacant_iff base).mpr ⟨sound.inTree free, fun _ member => sound.apart_of_taken free member⟩

/-- A vacant node lies inside a free block. -/
theorem exists_free_of_vacant (sound : Sound g book taken)
    (vacant : Vacant g base book.root (taken.map (Block.extent g base)) node) :
    ∃ other ∈ book, other.bucket ≤ node.bucket ∧ ∀ offset, node.Covers g offset → other.Covers g offset := by
  obtain ⟨inTree, apart⟩ := (vacant_iff base).mp vacant
  exact sound.exists_free inTree.deep (fun _ covers => inTree.inside_root covers) apart

theorem mem_iff_hole (base : Nat) (sound : Sound g book taken) :
    block ∈ book ↔ Hole g base book.root (taken.map (Block.extent g base)) block := by
  constructor
  · intro free
    refine ⟨sound.vacant base free, fun other vacant inside => ?_⟩
    rw [Block.inside_extent] at inside
    obtain ⟨outer, outer_free, order, holds⟩ := sound.exists_free_of_vacant vacant
    have same : block = outer := sound.tiles.eq_of_covers (sound.mem_tiles free)
      (sound.mem_tiles outer_free) Block.covers_offset (holds _ (inside _ Block.covers_offset))
    have level := Block.bucket_le_of_inside (sound.deep block free) inside
    exact Block.eq_of_covers (level.antisymm (same ▸ order)) (inside _ Block.covers_offset)
      Block.covers_offset
  · intro hole
    obtain ⟨other, free, -, holds⟩ := sound.exists_free_of_vacant hole.vacant
    have same := hole.maximal other (sound.vacant base free) (Block.inside_extent.mpr holds)
    exact same ▸ free

/-- When one half of a node is free and the other is not, something taken lies in the other. -/
theorem exists_taken_beside (sound : Sound g book taken) (inner : node.bucket < g.lastBucket)
    (free : half ∈ book) (used : beside ∉ book) (level : half.bucket = node.bucket + 1)
    (beside_level : beside.bucket = node.bucket + 1) (inTree : beside.InTree g book.root)
    (halves : ∀ offset, node.Covers g offset ↔ half.Covers g offset ∨ beside.Covers g offset) :
    ∃ block ∈ taken, node.bucket < block.bucket ∧
      ∀ offset, block.Covers g offset → beside.Covers g offset := by
  by_contra none
  push Not at none
  -- A larger block that shares a byte with the node holds the free half as well.
  have smaller : ∀ tile ∈ book.blocks g ++ taken, tile ≠ half → ∀ offset, node.Covers g offset →
      tile.Covers g offset → node.bucket < tile.bucket := fun tile member distinct offset here there => by
    by_contra large
    have covers := Block.covers_of_shared (Nat.not_lt.mp large) (Nat.le_of_lt inner) here there
      ((halves _).mpr (.inl Block.covers_offset))
    exact distinct (sound.tiles.eq_of_covers member (sound.mem_tiles free) covers Block.covers_offset)
  have apart : ∀ block ∈ taken, beside.Apart g block := fun block member offset both => by
    have distinct : block ≠ half := fun same => sound.not_mem_of_taken member (same ▸ free)
    have deeper := smaller block (List.mem_append_right _ member) distinct offset
      ((halves _).mpr (.inr both.1)) both.2
    obtain ⟨place, covers, outside⟩ := none block member deeper
    exact outside (Block.covers_of_shared (beside_level.trans_le deeper)
      (sound.taken_fits member).bucket_le both.2 both.1 covers)
  obtain ⟨other, other_free, order, holds⟩ :=
    sound.exists_free inTree.deep (fun _ covers => inTree.inside_root covers) apart
  have held := holds _ Block.covers_offset
  by_cases same : other = half
  · have both := (halves (beside.offset g)).mpr (.inr Block.covers_offset)
    have alike := Block.eq_of_covers (beside_level.trans level.symm) Block.covers_offset (same ▸ held)
    exact used (alike ▸ free)
  · have deeper := smaller other (sound.mem_tiles other_free) same _
      ((halves _).mpr (.inr Block.covers_offset)) held
    have alike := Block.eq_of_covers (show other.bucket = beside.bucket by omega) held Block.covers_offset
    exact used (alike ▸ other_free)

theorem inside_of_half (inner : node.bucket < g.lastBucket) (deeper : node.bucket < block.bucket)
    (within : ∀ offset, block.Covers g offset → node.Covers g offset) :
    (block.extent g base).Inside (node.extent g base) ∧
      ¬ (node.extent g base).Inside (block.extent g base) := by
  refine ⟨Block.inside_extent.mpr within, fun filled => ?_⟩
  have order := Block.bucket_le_of_inside (Nat.le_of_lt inner) (Block.inside_extent.mp filled)
  omega

theorem root_le_of_free_half (sound : Sound g book taken) (top : node.left ≠ ⟨book.root, 0⟩)
    (free : node.left ∈ book ∨ node.right ∈ book) : book.root ≤ node.bucket := by
  by_contra above
  rcases free with free | free
  · have order : book.root ≤ node.bucket + 1 := sound.root_le_free free
    have level : node.left.bucket = book.root := by
      simp only [Block.left]
      omega
    have first := sound.tiles.index_eq_zero (sound.mem_tiles free) level
    apply top
    rw [← level, ← first]
  · have order : book.root ≤ node.bucket + 1 := sound.root_le_free free
    have level : node.right.bucket = book.root := by
      simp only [Block.right]
      omega
    have first := sound.tiles.index_eq_zero (sound.mem_tiles free) level
    simp [Block.right] at first

theorem mark_iff (base : Nat) (sound : Sound g book taken) (node : Block) : book.mark node = true ↔
    Marked g base book.root (taken.map (Block.extent g base)) (· ∉ book) node := by
  by_cases top : node.left = ⟨book.root, 0⟩
  · have level : node.bucket + 1 = book.root := congrArg Block.bucket top
    have first : 2 * node.index = 0 := congrArg Block.index top
    have parent : node = ⟨book.root - 1, 0⟩ := by
      obtain ⟨bucket, index⟩ := node
      simp only at level first
      simp only [Block.mk.injEq]
      omega
    have outside : ¬ node.right.InTree g book.root := fun inTree => by
      have index := inTree.index_lt
      simp only [Block.right, level, Nat.sub_self, Nat.pow_zero] at index
      omega
    rw [Book.mark, if_pos top, decide_eq_true_iff, top]
    exact ⟨fun used => .inr ⟨by omega, parent, used⟩,
      fun marked => marked.elim (fun split => absurd split.2.1 outside) fun split => split.2.2⟩
  · rw [Book.mark, if_neg top]
    constructor
    · intro marked
      have different : node.left ∉ book ↔ ¬ node.right ∉ book := by
        by_cases left : node.left ∈ book <;> by_cases right : node.right ∈ book <;> simp_all
      have free : node.left ∈ book ∨ node.right ∈ book :=
        or_iff_not_imp_left.mpr fun used => not_not.mp (different.mp used)
      have below := sound.root_le_of_free_half top free
      have both := Block.inTree_left_iff_right (g := g) below
      have inTree : node.left.InTree g book.root :=
        free.elim sound.inTree fun right => both.mpr (sound.inTree right)
      have inner : node.bucket < g.lastBucket := inTree.deep
      have halves := Block.covers_halves (g := g) inner
      refine .inl ⟨inTree, both.mp inTree, ?_, different⟩
      by_cases left : node.left ∈ book
      · obtain ⟨block, member, deeper, within⟩ := sound.exists_taken_beside inner left
          (fun right => different.mpr (not_not.mpr right) left) rfl rfl (both.mp inTree) halves
        exact ⟨_, List.mem_map_of_mem member, inside_of_half inner deeper
          fun offset covers => (halves offset).mpr (.inr (within offset covers))⟩
      · have right := not_not.mp (different.mp left)
        obtain ⟨block, member, deeper, within⟩ := sound.exists_taken_beside inner right left rfl rfl inTree
          fun offset => (halves offset).trans or_comm
        exact ⟨_, List.mem_map_of_mem member, inside_of_half inner deeper
          fun offset covers => (halves offset).mpr (.inl (within offset covers))⟩
    · rintro (⟨-, -, -, different⟩ | ⟨inner, rfl, -⟩)
      · by_cases left : node.left ∈ book <;> by_cases right : node.right ∈ book <;> simp_all
      · refine absurd ?_ top
        simp only [Block.left, Nat.mul_zero, Nat.sub_add_cancel (Nat.pos_of_ne_zero inner)]

end Sound

end Nucleus.Buddy
