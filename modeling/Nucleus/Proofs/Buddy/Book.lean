import Nucleus.Proofs.Buddy.Tiles
import Mathlib.Logic.Function.Basic
import Mathlib.Data.List.Perm.Basic

/-! What a heap keeps track of, without the memory it lies in: the free blocks of every bucket, the
bucket of the root and how far memory is granted. In a sound book the free blocks and the blocks that
are taken tile the tree, and no two halves of a block are both free. -/
namespace Nucleus.Buddy
variable {g : Geometry}

structure Book where
  root : Nat
  /-- The indices of the free blocks of a bucket, oldest first. -/
  free : Nat → List Nat
  /-- Bytes granted from the base on. -/
  granted : Nat

namespace Book
variable {book : Book} {block other : Block}

instance : Membership Block Book := ⟨fun book block => block.index ∈ book.free block.bucket⟩

instance (block : Block) (book : Book) : Decidable (block ∈ book) :=
  inferInstanceAs (Decidable (block.index ∈ book.free block.bucket))

/-- A block that is freed goes to the end of its list. -/
def push (book : Book) (block : Block) : Book :=
  { book with
    free := Function.update book.free block.bucket (book.free block.bucket ++ [block.index]) }

def drop (book : Book) (block : Block) : Book :=
  { book with
    free := Function.update book.free block.bucket ((book.free block.bucket).erase block.index) }

/-- The free blocks of a bucket, oldest first. -/
def level (book : Book) (bucket : Nat) : List Block := (book.free bucket).map (Block.mk bucket)

/-- The block that is taken first from a bucket. -/
def newest (book : Book) (bucket : Nat) : Option Block :=
  (book.free bucket).getLast?.map (Block.mk bucket)

def dropNewest (book : Book) (bucket : Nat) : Book :=
  match book.newest bucket with
  | none => book
  | some block => book.drop block

/-- Grants the first bytes of a window that grants no more than `ceiling` of them. -/
def grant (ceiling size : Nat) (book : Book) : Option Book :=
  if book.granted < size then
    if size ≤ ceiling then some { book with granted := size } else none
  else some book

/-- All free blocks, bucket by bucket. -/
def blocks (g : Geometry) (book : Book) : List Block :=
  (List.range (g.lastBucket + 1)).flatMap book.level

theorem grant_eq_some {ceiling size : Nat} {more : Book} (granted : book.grant ceiling size = some more) :
    more = { book with granted := max book.granted size } := by
  unfold grant at granted
  split_ifs at granted with larger allowed
  · rw [Nat.max_eq_right (by omega)]
    exact (Option.some.inj granted).symm
  · rw [Nat.max_eq_left (by omega)]
    exact (Option.some.inj granted).symm

theorem grant_eq_none {ceiling size : Nat} (denied : book.grant ceiling size = none) :
    ceiling < size := by
  unfold grant at denied
  split_ifs at denied
  omega

theorem mem_level {bucket : Nat} : block ∈ book.level bucket ↔ block ∈ book ∧ block.bucket = bucket := by
  constructor
  · intro member
    obtain ⟨index, here, rfl⟩ := List.mem_map.mp member
    exact ⟨here, rfl⟩
  · rintro ⟨member, rfl⟩
    exact List.mem_map.mpr ⟨block.index, member, rfl⟩

theorem mem_push : other ∈ book.push block ↔ other = block ∨ other ∈ book := by
  obtain ⟨bucket, index⟩ := block
  obtain ⟨other_bucket, other_index⟩ := other
  simp only [Membership.mem, push, Block.mk.injEq]
  by_cases same : other_bucket = bucket
  · subst same
    simp only [Function.update_self, true_and]
    exact (List.mem_append.trans (or_congr_right List.mem_singleton)).trans or_comm
  · simp [same]

theorem mem_of_mem_drop (member : other ∈ book.drop block) : other ∈ book := by
  obtain ⟨bucket, index⟩ := block
  obtain ⟨other_bucket, other_index⟩ := other
  simp only [Membership.mem, drop] at member ⊢
  by_cases same : other_bucket = bucket
  · subst same
    rw [Function.update_self] at member
    exact List.mem_of_mem_erase member
  · rwa [Function.update_of_ne same] at member

theorem mem_drop_of_ne (member : other ∈ book) (distinct : other ≠ block) :
    other ∈ book.drop block := by
  obtain ⟨bucket, index⟩ := block
  obtain ⟨other_bucket, other_index⟩ := other
  simp only [Membership.mem, drop] at member ⊢
  by_cases same : other_bucket = bucket
  · subst same
    rw [Function.update_self]
    exact (List.mem_erase_of_ne fun index => distinct (by rw [index])).mpr member
  · rwa [Function.update_of_ne same]

theorem mem_of_newest {bucket : Nat} (last : book.newest bucket = some block) :
    block ∈ book ∧ block.bucket = bucket := by
  obtain ⟨index, found, rfl⟩ := Option.map_eq_some_iff.mp last
  exact ⟨List.mem_of_getLast? found, rfl⟩

theorem newest_eq_none {bucket : Nat} : book.newest bucket = none ↔ book.free bucket = [] := by
  rw [newest, Option.map_eq_none_iff, List.getLast?_eq_none_iff]

theorem mem_blocks : block ∈ book.blocks g ↔ block ∈ book ∧ block.bucket ≤ g.lastBucket := by
  simp only [blocks, List.mem_flatMap, List.mem_range, mem_level]
  constructor
  · rintro ⟨_, below, member, rfl⟩
    exact ⟨member, Nat.le_of_lt_succ below⟩
  · rintro ⟨member, deep⟩
    exact ⟨block.bucket, Nat.lt_succ_of_le deep, member, rfl⟩

theorem count_blocks (block : Block) : (book.blocks g).count block =
    if block.bucket ≤ g.lastBucket then (book.free block.bucket).count block.index else 0 := by
  obtain ⟨bucket, index⟩ := block
  have level : ∀ (other : Nat) (indices : List Nat), (indices.map (Block.mk other)).count ⟨bucket, index⟩ =
      if other = bucket then indices.count index else 0 := by
    intro other indices
    split
    · rename_i same
      subst same
      exact List.count_map_of_injective _ _ (fun _ _ same => (Block.mk.injEq .. ▸ same).2) _
    · rename_i distinct
      rw [List.count_eq_zero]
      intro member
      obtain ⟨_, _, same⟩ := List.mem_map.mp member
      exact distinct (congrArg Block.bucket same)
  have upTo : ∀ limit, ((List.range limit).flatMap book.level).count ⟨bucket, index⟩ =
      if bucket < limit then (book.free bucket).count index else 0 := by
    intro limit
    induction limit with
    | zero => simp
    | succ limit ih =>
      rw [List.range_succ, List.flatMap_append, List.count_append, ih, List.flatMap_singleton, Book.level, level]
      split_ifs <;> first | omega | simp_all
  rw [blocks, upTo]
  simp only [Nat.lt_succ_iff]

theorem blocks_push (deep : block.bucket ≤ g.lastBucket) :
    ((book.push block).blocks g).Perm (block :: book.blocks g) := by
  rw [List.perm_iff_count]
  intro other
  obtain ⟨bucket, index⟩ := block
  obtain ⟨other_bucket, other_index⟩ := other
  rw [List.count_cons, count_blocks, count_blocks]
  simp only [push]
  by_cases same : other_bucket = bucket
  · subst same
    simp [show other_bucket ≤ g.lastBucket from deep, List.count_cons]
  · have apart : (⟨bucket, index⟩ : Block) ≠ ⟨other_bucket, other_index⟩ :=
      fun equal => same (congrArg Block.bucket equal).symm
    simp [Function.update_of_ne same, apart]

theorem blocks_drop (member : block ∈ book) (deep : block.bucket ≤ g.lastBucket) :
    (book.blocks g).Perm (block :: (book.drop block).blocks g) := by
  rw [List.perm_iff_count]
  intro other
  obtain ⟨bucket, index⟩ := block
  obtain ⟨other_bucket, other_index⟩ := other
  rw [List.count_cons, count_blocks, count_blocks]
  simp only [drop]
  by_cases same : other_bucket = bucket
  · subst same
    have here : 0 < (book.free other_bucket).count index := List.count_pos_iff.mpr member
    simp only [show other_bucket ≤ g.lastBucket from deep, if_true, Function.update_self,
      List.count_erase, beq_iff_eq, Block.mk.injEq, true_and]
    split
    · rename_i same
      subst same
      omega
    · rfl
  · have apart : (⟨bucket, index⟩ : Block) ≠ ⟨other_bucket, other_index⟩ :=
      fun equal => same (congrArg Block.bucket equal).symm
    simp [Function.update_of_ne same, apart]

end Book

end Nucleus.Buddy
