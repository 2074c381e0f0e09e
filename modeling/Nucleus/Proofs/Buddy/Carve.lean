import Nucleus.Proofs.Buddy.Search

/-! Halving a free block down to the wanted size, and joining a block that is given back with its free
buddies. -/
namespace Nucleus.Buddy.Plan
variable {g : Geometry} {ceiling : Nat} {book : Book} {taken : List Block} {block : Block}

@[simp] theorem splitDown_granted (times : Nat) (block : Block) (book : Book) :
    (splitDown times block book).granted = book.granted := by
  induction times generalizing block book with
  | zero => rfl
  | succ times ih => exact ih _ _

@[simp] theorem splitDown_root (times : Nat) (block : Block) (book : Book) :
    (splitDown times block book).root = book.root := by
  induction times generalizing block book with
  | zero => rfl
  | succ times ih => exact ih _ _

theorem leftmost_bucket (times : Nat) (block : Block) :
    (leftmost times block).bucket = block.bucket + times := by
  induction times generalizing block with
  | zero => rfl
  | succ times ih =>
    rw [leftmost, ih]
    simp only [Block.left]
    omega

theorem leftmost_offset {times : Nat} (deep : block.bucket + times ≤ g.lastBucket) :
    (leftmost times block).offset g = block.offset g := by
  induction times generalizing block with
  | zero => rfl
  | succ times ih =>
    rw [leftmost, ih (by simp only [Block.left]; omega), Block.offset_left (by omega)]

theorem half_size (inner : block.bucket < g.lastBucket) :
    block.size g / 2 = g.blockSize (block.bucket + 1) := by
  rw [Block.size, ← Geometry.two_mul_blockSize inner]
  omega

/-- What suffices to halve a block suffices to halve its left half. -/
theorem left_linked (inner : block.bucket < g.lastBucket) {granted : Nat}
    (linked : block.offset g + block.size g / 2 + linkSize ≤ granted) :
    block.left.offset g + block.left.size g / 2 + linkSize ≤ granted := by
  have smaller : block.left.size g ≤ block.size g := Geometry.blockSize_anti (Nat.le_succ _)
  rw [Block.offset_left inner]
  omega

/-- One halving: the right half is free and the left half stays taken. -/
theorem sound_split (sound : Sound g book (block :: taken)) (inner : block.bucket < g.lastBucket)
    (linked : block.offset g + block.size g / 2 + linkSize ≤ book.granted) :
    Sound g (book.push block.right) (block.left :: taken) := by
  have halved := (sound.halve inner).perm (List.Perm.swap _ _ _)
  apply halved.push
  · rw [Block.offset_right inner, ← half_size inner]
    exact linked
  · rw [Block.buddy_right]
    exact halved.not_mem_of_taken (List.mem_cons_of_mem _ List.mem_cons_self)

theorem splitDown_sound {times : Nat} (sound : Sound g book (block :: taken))
    (deep : block.bucket + times ≤ g.lastBucket)
    (linked : times ≠ 0 → block.offset g + block.size g / 2 + linkSize ≤ book.granted) :
    Sound g (splitDown times block book) (leftmost times block :: taken) := by
  induction times generalizing block book with
  | zero => exact sound
  | succ times ih =>
    have inner : block.bucket < g.lastBucket := by omega
    have linked := linked (Nat.succ_ne_zero _)
    exact ih (sound_split sound inner linked) (by simp only [Block.left]; omega)
      fun _ => left_linked inner linked

/-- What is committed of a block lies in the tree and suffices to halve the block. -/
theorem touched_le {wanted : Nat} (sound : Sound g book (block :: taken)) (deep : wanted ≤ g.lastBucket) :
    block.offset g + touched g wanted block ≤ g.blockSize book.root := by
  have inside := sound.tiles.inside (List.mem_append_right _ List.mem_cons_self)
  unfold touched
  split
  · rename_i inner
    have half := half_size (inner.trans_le deep)
    have small := Geometry.linkSize_le_blockSize (show block.bucket + 1 ≤ g.lastBucket by omega)
    omega
  · exact inside

theorem touched_linked {wanted : Nat} (inner : wanted - block.bucket ≠ 0) :
    block.offset g + block.size g / 2 + linkSize = block.offset g + touched g wanted block := by
  rw [touched, if_pos (by omega), Nat.add_assoc]

/-- What is committed of a block covers the part that is kept. -/
theorem kept_le_touched {wanted : Nat} (order : block.bucket ≤ wanted) (deep : wanted ≤ g.lastBucket) :
    g.blockSize wanted ≤ touched g wanted block := by
  unfold touched
  split
  · rename_i inner
    have smaller : g.blockSize wanted ≤ g.blockSize (block.bucket + 1) := Geometry.blockSize_anti inner
    rw [half_size (inner.trans_le deep)]
    omega
  · exact Geometry.blockSize_anti order

theorem carve_sound {wanted : Nat} (sound : Sound g book (block :: taken))
    (order : block.bucket ≤ wanted) (deep : wanted ≤ g.lastBucket) {more : Book}
    (granted : book.grant ceiling (block.offset g + touched g wanted block) = some more) :
    Sound g (splitDown (wanted - block.bucket) block more)
        (leftmost (wanted - block.bucket) block :: taken) ∧
      (leftmost (wanted - block.bucket) block).offset g + g.blockSize wanted ≤ more.granted := by
  have enough : block.offset g + touched g wanted block ≤ more.granted := by
    rw [Book.grant_eq_some granted]
    exact Nat.le_max_right _ _
  have kept := kept_le_touched (g := g) order deep
  refine ⟨splitDown_sound (sound_grant sound granted (touched_le sound deep)) (by omega) ?_, ?_⟩
  · exact fun inner => (touched_linked inner).trans_le enough
  · rw [leftmost_offset (by omega)]
    omega

/-- How an allocation can end. -/
def Allocated (g : Geometry) (ceiling request : Nat) (taken : List Block) :
    Except AllocError Block → Book → Prop
  | .ok block, book => Sound g book (block :: taken) ∧ block.bucket = g.bucketOf request ∧
      block.offset g + block.size g ≤ book.granted
  | .error error, book => Sound g book taken ∧
      (error = .reservationDenied ∧ ceiling < g.maxBlock ∨
        error = .outOfMemory ∧ book.root = 0 ∧ ∀ bucket ≤ g.bucketOf request, book.free bucket = [])

theorem carve_allocated {request : Nat} (sound : Sound g book (block :: taken))
    (order : block.bucket ≤ g.bucketOf request) (linked : block.offset g + linkSize ≤ book.granted)
    (alone : block.buddy ∉ book) :
    Allocated g ceiling request taken (carve g ceiling (g.bucketOf request) block book).1
      (carve g ceiling (g.bucketOf request) block book).2 := by
  have deep := g.bucketOf_le request
  unfold carve
  cases granted : book.grant ceiling (block.offset g + touched g (g.bucketOf request) block) with
  | some more =>
    obtain ⟨carved, kept⟩ := carve_sound sound order deep granted
    have bucket : (leftmost (g.bucketOf request - block.bucket) block).bucket = g.bucketOf request := by
      rw [leftmost_bucket, Nat.add_sub_of_le order]
    refine ⟨carved, bucket, ?_⟩
    rw [Block.size, bucket, splitDown_granted]
    exact kept
  | none =>
    have inside := touched_le sound deep
    have small := g.blockSize_le_maxBlock book.root
    exact ⟨sound.push linked alone,
      .inl ⟨rfl, (Book.grant_eq_none granted).trans_le (inside.trans small)⟩⟩

theorem allocate_allocated (ceiling request : Nat) (sound : Sound g book taken) :
    Allocated g ceiling request taken (allocate g ceiling request book).1
      (allocate g ceiling request book).2 := by
  have found := search_wanted_found ceiling (g.bucketOf request) sound
  rw [allocate]
  rcases ran : search g ceiling (g.bucketOf request) book with ⟨error | value, searched⟩
  · rw [ran] at found
    rw [bind_error ran]
    exact ⟨found.1, .inl found.2⟩
  · rw [ran] at found
    rw [bind_ok ran]
    cases value with
    | none => exact ⟨found.1, .inr ⟨rfl, found.2⟩⟩
    | some block =>
      obtain ⟨carved, order, linked, alone⟩ := found
      exact carve_allocated carved order linked alone

/-- Taking the buddy back in joins it with the block. -/
theorem sound_join (sound : Sound g book (block :: taken)) (inner : block.bucket ≠ 0)
    (free : block.buddy ∈ book) : Sound g (book.drop block.buddy) (block.parent :: taken) :=
  (sound.drop free).join inner

theorem parent_linked (sound : Sound g book (block :: taken))
    (linked : block.offset g + linkSize ≤ book.granted) (inner : block.bucket ≠ 0)
    (free : block.buddy ∈ book) : block.parent.offset g + linkSize ≤ book.granted := by
  have shallow : block.parent.bucket < g.lastBucket := by
    have deep := (sound.taken_fits List.mem_cons_self).bucket_le
    simp only [Block.parent]
    omega
  rcases Block.halves_of_parent inner with ⟨left, -⟩ | ⟨-, left⟩
  · rw [← Block.offset_left shallow, ← left]
    exact linked
  · rw [← Block.offset_left shallow, ← left]
    exact sound.linked _ free

/-- The block that joining ends with has no free buddy, so it can be freed. -/
theorem joinUp_sound {bucket index : Nat} (sound : Sound g book (⟨bucket, index⟩ :: taken))
    (linked : (⟨bucket, index⟩ : Block).offset g + linkSize ≤ book.granted) :
    Sound g (joinUp bucket index book).2 ((joinUp bucket index book).1 :: taken) ∧
      (joinUp bucket index book).1.offset g + linkSize ≤ (joinUp bucket index book).2.granted ∧
      (joinUp bucket index book).1.buddy ∉ (joinUp bucket index book).2 := by
  induction bucket generalizing index book with
  | zero =>
    refine ⟨sound, linked, fun free => ?_⟩
    have only := (sound.fits free).index_lt
    have own := (sound.taken_fits List.mem_cons_self).index_lt
    obtain rfl : index = 0 := by simpa using own
    simp [joinUp, Block.buddy] at only
  | succ above ih =>
    rw [joinUp]
    split
    · rename_i free
      exact ih (sound_join sound (Nat.succ_ne_zero _) free)
        (parent_linked sound linked (Nat.succ_ne_zero _) free)
    · rename_i used
      exact ⟨sound, linked, used⟩

theorem release_sound (sound : Sound g book (block :: taken))
    (linked : block.offset g + linkSize ≤ book.granted) : Sound g (release block book) taken := by
  obtain ⟨joined, joined_linked, alone⟩ := joinUp_sound sound linked
  exact joined.push joined_linked alone

end Nucleus.Buddy.Plan
