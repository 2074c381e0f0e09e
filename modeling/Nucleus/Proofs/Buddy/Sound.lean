import Nucleus.Proofs.Buddy.Book

/-! Sound books: the free blocks and the blocks that are taken tile the tree, and no two halves of a
block are both free. Each small change of a book keeps it sound, with the blocks it takes or frees. -/
namespace Nucleus.Buddy
variable {g : Geometry}

namespace Block
variable {block : Block}

theorem buddy_left : block.left.buddy = block.right := by
  simp [left, right, buddy]

theorem buddy_right : block.right.buddy = block.left := by
  simp [left, right, buddy]

/-- A block and its buddy are the two halves of their parent. -/
theorem halves_of_parent (inner : block.bucket ≠ 0) :
    (block = block.parent.left ∧ block.buddy = block.parent.right) ∨
      (block = block.parent.right ∧ block.buddy = block.parent.left) := by
  obtain ⟨bucket, index⟩ := block
  obtain ⟨above, rfl⟩ := Nat.exists_eq_succ_of_ne_zero inner
  simp only [left, right, parent, buddy, Nat.succ_sub_one, Block.mk.injEq, true_and]
  split <;> omega

/-- Of one bucket, only one block holds a byte. -/
theorem eq_of_covers {other : Block} (level : block.bucket = other.bucket) {offset : Nat}
    (covers : block.Covers g offset) (other_covers : other.Covers g offset) : block = other := by
  obtain ⟨bucket, index⟩ := block
  obtain ⟨other_bucket, other_index⟩ := other
  obtain rfl : bucket = other_bucket := level
  rw [Covers] at covers other_covers
  rw [show index = other_index from covers.symm.trans other_covers]

end Block

theorem Tiles.index_eq_zero {root : Nat} {blocks : List Block} {block : Block}
    (tiles : Tiles g root blocks) (member : block ∈ blocks) (top : block.bucket = root) :
    block.index = 0 := by
  have inside := tiles.inside member
  have positive : 0 < g.blockSize root := g.blockSize_pos _
  rw [Block.offset, Block.size, top, ← Nat.succ_mul] at inside
  have bound := Nat.le_of_mul_le_mul_right (inside.trans_eq (Nat.one_mul _).symm) positive
  omega

/-- A tree of twice the size; its right half is new. -/
def Book.raise (book : Book) : Book := { book with root := book.root - 1 }

structure Sound (g : Geometry) (book : Book) (taken : List Block) : Prop where
  root_le : book.root ≤ g.lastBucket
  deep : ∀ block ∈ book, block.bucket ≤ g.lastBucket
  tiles : Tiles g book.root (book.blocks g ++ taken)
  coalesced : ∀ block : Block, ¬ (block.left ∈ book ∧ block.right ∈ book)
  /-- The link words of free blocks are granted. -/
  linked : ∀ block ∈ book, block.offset g + linkSize ≤ book.granted
  granted_le : book.granted ≤ g.blockSize book.root

namespace Sound
variable {book : Book} {taken others : List Block} {block other : Block}

theorem mem_tiles (sound : Sound g book taken) (member : block ∈ book) :
    block ∈ book.blocks g ++ taken :=
  List.mem_append_left _ (Book.mem_blocks.mpr ⟨member, sound.deep block member⟩)

theorem fits (sound : Sound g book taken) (member : block ∈ book) : block.Fits g :=
  sound.tiles.fits (sound.mem_tiles member)

theorem taken_fits (sound : Sound g book taken) (member : block ∈ taken) : block.Fits g :=
  sound.tiles.fits (List.mem_append_right _ member)

theorem root_le_free (sound : Sound g book taken) (member : block ∈ book) :
    book.root ≤ block.bucket :=
  sound.tiles.root_le (sound.mem_tiles member)

theorem root_le_taken (sound : Sound g book taken) (member : block ∈ taken) :
    book.root ≤ block.bucket :=
  sound.tiles.root_le (List.mem_append_right _ member)

/-- Only the root itself lies in its bucket. -/
theorem not_mem_beside (sound : Sound g book taken) : (⟨book.root, 1⟩ : Block) ∉ book :=
  fun member => absurd (sound.tiles.index_eq_zero (sound.mem_tiles member) rfl) (by simp)

theorem buddy_not_mem_of_root (sound : Sound g book (block :: taken)) (top : block.bucket = book.root) :
    block.buddy ∉ book := by
  have first := sound.tiles.index_eq_zero (List.mem_append_right _ List.mem_cons_self) top
  have beside : block.buddy = ⟨book.root, 1⟩ := by simp [Block.buddy, first, top]
  rw [beside]
  exact sound.not_mem_beside

theorem not_mem_of_taken (sound : Sound g book taken) (member : block ∈ taken) : block ∉ book :=
  fun free => (List.nodup_append.mp sound.tiles.nodup).2.2 block
    (Book.mem_blocks.mpr ⟨free, sound.deep block free⟩) block member rfl

theorem apart_of_taken (sound : Sound g book taken) (free : block ∈ book) (member : other ∈ taken) :
    block.Apart g other :=
  sound.tiles.apart (sound.mem_tiles free) (List.mem_append_right _ member)
    fun same => sound.not_mem_of_taken member (same ▸ free)

theorem apart_of_cons (sound : Sound g book (block :: taken)) (member : other ∈ taken) :
    block.Apart g other := by
  have own := (List.nodup_append.mp sound.tiles.nodup).2.1
  refine sound.tiles.apart (List.mem_append_right _ List.mem_cons_self)
    (List.mem_append_right _ (List.mem_cons_of_mem _ member)) ?_
  rintro rfl
  exact (List.nodup_cons.mp own).1 member

/-- Two free buddies would have been joined. -/
theorem buddy_not_mem (sound : Sound g book taken) (member : block ∈ book) : block.buddy ∉ book := by
  intro free
  by_cases top : block.bucket = 0
  · have own := (sound.fits member).index_lt
    have other := (sound.fits free).index_lt
    simp only [Block.buddy, top, Nat.pow_zero, Nat.lt_one_iff] at own other
    simp [own] at other
  · rcases Block.halves_of_parent top with ⟨left, right⟩ | ⟨right, left⟩
    · exact sound.coalesced block.parent ⟨left ▸ member, right ▸ free⟩
    · exact sound.coalesced block.parent ⟨left ▸ free, right ▸ member⟩

theorem nodup_free (sound : Sound g book taken) (bucket : Nat) : (book.free bucket).Nodup := by
  by_cases deep : bucket ≤ g.lastBucket
  · rw [List.nodup_iff_count_le_one]
    intro index
    have nodup := (List.nodup_append.mp sound.tiles.nodup).1
    have count := List.nodup_iff_count_le_one.mp nodup ⟨bucket, index⟩
    rwa [Book.count_blocks, if_pos deep] at count
  · have empty : book.free bucket = [] :=
      List.eq_nil_iff_forall_not_mem.mpr fun index free => deep (sound.deep ⟨bucket, index⟩ free)
    rw [empty]
    exact .nil

theorem perm (sound : Sound g book taken) (same : taken.Perm others) : Sound g book others :=
  { sound with tiles := sound.tiles.perm (same.append_left _) }

theorem drop (sound : Sound g book taken) (member : block ∈ book) :
    Sound g (book.drop block) (block :: taken) where
  root_le := sound.root_le
  deep other free := sound.deep other (Book.mem_of_mem_drop free)
  tiles := by
    have split := Book.blocks_drop member (sound.deep block member)
    exact sound.tiles.perm ((split.append_right taken).trans List.perm_middle.symm)
  coalesced other both :=
    sound.coalesced other (both.imp Book.mem_of_mem_drop Book.mem_of_mem_drop)
  linked other free := sound.linked other (Book.mem_of_mem_drop free)
  granted_le := sound.granted_le

theorem push (sound : Sound g book (block :: taken))
    (linked : block.offset g + linkSize ≤ book.granted) (alone : block.buddy ∉ book) :
    Sound g (book.push block) taken := by
  have deep := (sound.taken_fits List.mem_cons_self).bucket_le
  refine ⟨sound.root_le, ?_, ?_, ?_, ?_, sound.granted_le⟩
  · intro other free
    rcases Book.mem_push.mp free with rfl | free
    · exact deep
    · exact sound.deep other free
  · have joined := @Book.blocks_push g book block deep
    exact sound.tiles.perm (List.perm_middle.trans (joined.append_right taken).symm)
  · rintro other ⟨left, right⟩
    rcases Book.mem_push.mp left with left | left
    · rcases Book.mem_push.mp right with right | right
      · have same : 2 * other.index = 2 * other.index + 1 :=
          congrArg Block.index (left.trans right.symm)
        omega
      · exact alone (left ▸ Block.buddy_left ▸ right)
    · rcases Book.mem_push.mp right with right | right
      · exact alone (right ▸ Block.buddy_right ▸ left)
      · exact sound.coalesced other ⟨left, right⟩
  · intro other free
    rcases Book.mem_push.mp free with rfl | free
    · exact linked
    · exact sound.linked other free

theorem halve (sound : Sound g book (block :: taken)) (inner : block.bucket < g.lastBucket) :
    Sound g book (block.left :: block.right :: taken) := by
  have split := (sound.tiles.perm List.perm_middle).halve inner
  have order : (block.left :: block.right :: (book.blocks g ++ taken)).Perm
      (book.blocks g ++ block.left :: block.right :: taken) :=
    (List.perm_middle.symm.cons _).trans List.perm_middle.symm
  exact { sound with tiles := split.perm order }

theorem join (sound : Sound g book (block.buddy :: block :: taken)) (inner : block.bucket ≠ 0) :
    Sound g book (block.parent :: taken) := by
  have halves : (block.buddy :: block :: taken).Perm
      (block.parent.left :: block.parent.right :: taken) := by
    rcases Block.halves_of_parent inner with ⟨left, right⟩ | ⟨right, left⟩
    · rw [right, ← left]
      exact .swap _ _ _
    · rw [left, ← right]
  have order : (book.blocks g ++ block.parent.left :: block.parent.right :: taken).Perm
      (block.parent.left :: block.parent.right :: (book.blocks g ++ taken)) :=
    List.perm_middle.trans (List.perm_middle.cons _)
  have joined := (sound.tiles.perm ((halves.append_left _).trans order)).join
  exact { sound with tiles := joined.perm List.perm_middle.symm }

theorem grant (sound : Sound g book taken) {top : Nat} (more : book.granted ≤ top)
    (inside : top ≤ g.blockSize book.root) : Sound g { book with granted := top } taken :=
  ⟨sound.root_le, sound.deep, sound.tiles, sound.coalesced,
    fun block free => (sound.linked block free).trans more, inside⟩

theorem raise (sound : Sound g book taken) (inner : book.root ≠ 0) :
    Sound g book.raise (⟨book.root, 1⟩ :: taken) := by
  obtain ⟨root, free, granted⟩ := book
  obtain ⟨above, rfl⟩ := Nat.exists_eq_succ_of_ne_zero inner
  have below : above < g.lastBucket := sound.root_le
  have larger : g.blockSize (above + 1) ≤ g.blockSize above := Geometry.blockSize_anti (by omega)
  refine ⟨Nat.le_of_lt below, sound.deep, ?_, sound.coalesced, sound.linked, ?_⟩
  · exact (sound.tiles.double below).perm List.perm_middle.symm
  · exact sound.granted_le.trans larger

/-- A place in the tree that no taken block overlaps lies inside a free block: if both halves of a
place were free, they would have been joined. -/
theorem exists_free (sound : Sound g book taken) (deep : block.bucket ≤ g.lastBucket)
    (inside : ∀ offset, block.Covers g offset → offset < g.blockSize book.root)
    (apart : ∀ other ∈ taken, block.Apart g other) :
    ∃ other ∈ book, other.bucket ≤ block.bucket ∧
      ∀ offset, block.Covers g offset → other.Covers g offset := by
  obtain ⟨depth, level⟩ : ∃ depth, block.bucket + depth = g.lastBucket :=
    ⟨_, Nat.add_sub_of_le deep⟩
  induction depth generalizing block with
  | zero =>
    obtain ⟨tile, member, covers⟩ := sound.tiles.exists_covers (inside _ Block.covers_offset)
    have order : tile.bucket ≤ block.bucket := (sound.tiles.deep tile member).trans_eq level.symm
    rcases List.mem_append.mp member with free | taken
    · exact ⟨tile, (Book.mem_blocks.mp free).1, order, fun offset covered =>
        Block.covers_of_shared order deep Block.covers_offset covers covered⟩
    · exact absurd ⟨Block.covers_offset, covers⟩ (apart tile taken _)
  | succ depth ih =>
    have inner : block.bucket < g.lastBucket := by omega
    have halves := Block.covers_halves (g := g) inner
    -- A half lies inside a free block: the half itself, or one that holds the whole place.
    have half_free : ∀ half : Block, half.bucket = block.bucket + 1 →
        (∀ offset, half.Covers g offset → block.Covers g offset) →
        half ∈ book ∨ ∃ other ∈ book, other.bucket ≤ block.bucket ∧
          ∀ offset, block.Covers g offset → other.Covers g offset := by
      intro half bucket within
      obtain ⟨other, free, order, covers⟩ := @ih half (by omega)
        (fun offset covered => inside offset (within offset covered))
        (fun taken member offset both => apart taken member offset ⟨within offset both.1, both.2⟩)
        (by omega)
      by_cases larger : other.bucket ≤ block.bucket
      · exact .inr ⟨other, free, larger, fun offset covered => Block.covers_of_shared larger deep
          (within _ Block.covers_offset) (covers _ Block.covers_offset) covered⟩
      · have same : other = half :=
          Block.eq_of_covers (by omega) (covers _ Block.covers_offset) Block.covers_offset
        exact .inl (same ▸ free)
    rcases half_free block.left rfl fun offset covered => (halves offset).mpr (.inl covered) with
      left | found
    · rcases half_free block.right rfl fun offset covered => (halves offset).mpr (.inr covered) with
        right | found
      · exact absurd ⟨left, right⟩ (sound.coalesced block)
      · exact found
    · exact found

end Sound

end Nucleus.Buddy
