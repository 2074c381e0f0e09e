import Nucleus.Proofs.Buddy.Sound

/-! The split bit of every node, as the free lists determine it: whether exactly one half of the node is
free, and at the parent of the root whether the root is in use. Freeing or taking a block turns one
bit over. -/
namespace Nucleus.Buddy
variable {g : Geometry}

namespace Book
variable {book other : Book} {block node : Block} {taken : List Block}

def mark (book : Book) (node : Block) : Bool :=
  if node.left = ⟨book.root, 0⟩ then decide (node.left ∉ book)
  else decide (node.left ∈ book) ^^ decide (node.right ∈ book)

/-- The bits with that of a block's parent turned over. The whole window has no parent. -/
def turned (marks : Block → Bool) (block node : Block) : Bool :=
  if block.bucket ≠ 0 ∧ node = block.parent then !marks node else marks node

theorem turned_turned (marks : Block → Bool) (block : Block) :
    turned (turned marks block) block = marks := by
  funext node
  unfold turned
  split <;> simp

theorem turned_comm (marks : Block → Bool) (block other : Block) :
    turned (turned marks block) other = turned (turned marks other) block := by
  funext node
  unfold turned
  split <;> split <;> rfl

theorem turned_right (marks : Block → Bool) (block : Block) :
    turned marks block.right = turned marks block.left := by
  funext node
  rw [turned, turned, Block.parent_left, Block.parent_right]
  simp [Block.left, Block.right]

theorem turned_buddy (marks : Block → Bool) (inner : block.bucket ≠ 0) :
    turned marks block.buddy = turned marks block := by
  rcases Block.halves_of_parent inner with ⟨left, right⟩ | ⟨right, left⟩
  · rw [right, turned_right, ← left]
  · rw [left, ← turned_right, ← right]

theorem mark_congr (root : book.root = other.root) (same : ∀ block, block ∈ book ↔ block ∈ other) :
    book.mark = other.mark := by
  funext node
  simp only [mark, root, same]

theorem turned_of_top (marks : Block → Bool) (top : block.bucket = 0) : turned marks block = marks := by
  funext node
  simp [turned, top]

theorem mark_root_parent {above : Nat} (root : book.root = above + 1) :
    book.mark ⟨above, 0⟩ = decide ((⟨above + 1, 0⟩ : Block) ∉ book) := by
  simp [mark, root, Block.left]

theorem left_ne_right (node : Block) : node.left ≠ node.right := by
  simp [Block.left, Block.right]

theorem mark_push (fresh : block ∉ book) (top : block.bucket = book.root → block.index = 0) :
    (book.push block).mark = turned book.mark block := by
  funext node
  have root : (book.push block).root = book.root := rfl
  simp only [mark, turned, root, mem_push]
  by_cases own : block.bucket ≠ 0 ∧ node = block.parent
  · rw [if_pos own]
    obtain ⟨inner, rfl⟩ := own
    have distinct := left_ne_right block.parent
    rcases Block.halves_of_parent inner with ⟨left, -⟩ | ⟨right, -⟩
    · rw [← left] at distinct ⊢
      split <;> simp [fresh, distinct.symm]
    · rw [← right] at distinct ⊢
      have below : block.parent.left ≠ ⟨book.root, 0⟩ := by
        intro same
        have level : block.bucket = book.root := by
          rw [right]
          exact congrArg Block.bucket same
        have index := congrArg Block.index right
        rw [top level] at index
        simp [Block.right] at index
      simp [fresh, distinct, below]
  · rw [if_neg own]
    have left : node.left ≠ block := by
      rintro rfl
      exact own ⟨by simp [Block.left], Block.parent_left.symm⟩
    have right : node.right ≠ block := by
      rintro rfl
      exact own ⟨by simp [Block.right], Block.parent_right.symm⟩
    simp [left, right]

/-- Below the root, the parent's bit tells of a block that is not free whether its buddy is. -/
theorem mark_parent (fresh : block ∉ book) (inner : block.bucket ≠ 0)
    (below : block.bucket ≠ book.root) : book.mark block.parent = decide (block.buddy ∈ book) := by
  have lower : block.parent.left ≠ ⟨book.root, 0⟩ := by
    intro same
    have level := congrArg Block.bucket same
    simp only [Block.left, Block.parent] at level
    omega
  rw [mark, if_neg lower]
  rcases Block.halves_of_parent inner with ⟨left, right⟩ | ⟨right, left⟩
  · rw [← left, ← right]
    simp [fresh]
  · rw [← right, ← left]
    simp [fresh]

theorem not_mem_drop (nodup : (book.free block.bucket).Nodup) : block ∉ book.drop block := by
  obtain ⟨bucket, index⟩ := block
  simp only [Membership.mem, drop, Function.update_self]
  exact nodup.not_mem_erase

theorem mark_drop (sound : Sound g book taken) (member : block ∈ book) :
    (book.drop block).mark = turned book.mark block := by
  have fresh : block ∉ book.drop block := not_mem_drop (sound.nodup_free _)
  have restored : ((book.drop block).push block).mark = book.mark := by
    refine mark_congr rfl fun other => ?_
    rw [mem_push]
    constructor
    · rintro (rfl | free)
      · exact member
      · exact mem_of_mem_drop free
    · intro free
      exact or_iff_not_imp_left.mpr (mem_drop_of_ne free)
  rw [← restored, mark_push fresh fun level => sound.tiles.index_eq_zero (sound.mem_tiles member) level,
    turned_turned]

/-- The old root's bit now tells whether exactly one half of the new root is free, and the new root is
in use until it is freed. -/
theorem mark_raise (sound : Sound g book taken) {above : Nat} (root : book.root = above + 1) :
    book.raise.mark = turned (turned book.mark ⟨above + 1, 0⟩) ⟨above, 0⟩ := by
  have deep : ∀ block ∈ book, above + 1 ≤ block.bucket := fun block member =>
    root ▸ sound.root_le_free member
  have beside : (⟨above + 1, 1⟩ : Block) ∉ book := root ▸ sound.not_mem_beside
  have new_root : (⟨above, 0⟩ : Block) ∉ book := fun member => absurd (deep _ member) (by simp)
  have raised : ∀ block, block ∈ book.raise ↔ block ∈ book := fun _ => Iff.rfl
  funext node
  obtain ⟨bucket, index⟩ := node
  simp only [mark, turned, raised, root, show book.raise.root = above by simp [raise, root]]
  by_cases old : bucket = above ∧ index = 0
  · obtain ⟨rfl, rfl⟩ := old
    have lower : ¬ (bucket ≠ 0 ∧ bucket = bucket - 1) := by omega
    simp [Block.left, Block.right, Block.parent, beside, lower]
  · by_cases new : bucket + 1 = above ∧ index = 0
    · obtain ⟨rfl, rfl⟩ := new
      have other : (⟨bucket + 1, 1⟩ : Block) ∉ book := fun member => absurd (deep _ member) (by simp)
      simp [Block.left, Block.right, Block.parent, new_root, other]
    · have left_new : (⟨bucket, index⟩ : Block).left ≠ ⟨above, 0⟩ := by
        simp only [Block.left, ne_eq, Block.mk.injEq]
        omega
      have left_old : (⟨bucket, index⟩ : Block).left ≠ ⟨above + 1, 0⟩ := by
        simp only [Block.left, ne_eq, Block.mk.injEq]
        omega
      have parent_new : ¬ (above ≠ 0 ∧ (⟨bucket, index⟩ : Block) = (⟨above, 0⟩ : Block).parent) := by
        simp only [Block.parent, ne_eq, Block.mk.injEq]
        omega
      have parent_old :
          ¬ (above + 1 ≠ 0 ∧ (⟨bucket, index⟩ : Block) = (⟨above + 1, 0⟩ : Block).parent) := by
        simp only [Block.parent, ne_eq, Block.mk.injEq]
        omega
      rw [if_neg left_new, if_neg parent_new, if_neg parent_old, if_neg left_old]

/-- Growing a free tree turns no bit over. -/
theorem mark_grow_free (sound : Sound g book taken) {above : Nat} (root : book.root = above + 1)
    (free : (⟨above + 1, 0⟩ : Block) ∈ book) :
    ((book.drop ⟨above + 1, 0⟩).raise.push ⟨above, 0⟩).mark = book.mark := by
  have dropped := sound.drop free
  have fresh : (⟨above, 0⟩ : Block) ∉ (book.drop ⟨above + 1, 0⟩).raise := fun member => by
    have deep := dropped.root_le_free member
    rw [show (book.drop ⟨above + 1, 0⟩).root = above + 1 from root] at deep
    simp at deep
  rw [mark_push fresh fun _ => rfl, mark_raise dropped root, mark_drop sound free, turned_turned,
    turned_turned]

/-- Growing a tree in use turns over the bit of the new root. -/
theorem mark_grow_used (sound : Sound g book taken) {above : Nat} (root : book.root = above + 1) :
    (book.raise.push ⟨above + 1, 1⟩).mark = turned book.mark ⟨above, 0⟩ := by
  have fresh : (⟨above + 1, 1⟩ : Block) ∉ book.raise := root ▸ sound.not_mem_beside
  have top : above + 1 = book.raise.root → 1 = 0 := by simp [raise, root]
  rw [mark_push fresh top, mark_raise sound root]
  have beside : ∀ marks, turned marks ⟨above + 1, 1⟩ = turned marks ⟨above + 1, 0⟩ := fun marks => by
    funext node
    simp [turned, Block.parent]
  rw [turned_comm, beside, turned_turned]

end Book

end Nucleus.Buddy
