import Nucleus.Proofs.Buddy.Carving

/-! Taking a block back follows the plan: the block is joined with its free buddies, and what results goes
on its list. -/
namespace Nucleus.Buddy.Heap
variable {site : Site} {heap : Heap} {book : Book} {taken : List Block} {block : Block}
variable {header : Nat → Nat → Prop}

/-- The parent's bit, once turned over, tells whether the buddy is in use. -/
theorem tryJoin_returns (shows : heap.Shows site book book.mark)
    (sound : Sound site.geometry book (block :: taken)) (inner : block.bucket ≠ 0) :
    Op.Returns (Alters header (site.Outside taken)) (tryJoin block.node block.bucket) heap fun joined after =>
      if block.buddy ∈ book then joined = some block.parent.node ∧
        after.Shows site (book.drop block.buddy) (book.drop block.buddy).mark
      else joined = none ∧ after.Shows site book (Book.turned book.mark block) := by
  have composes := alters_composes header (site.Outside taken)
  have fits := sound.taken_fits List.mem_cons_self
  have fresh := sound.not_mem_of_taken List.mem_cons_self
  have own : Book.turned book.mark block block.parent = !book.mark block.parent :=
    if_pos ⟨inner, rfl⟩
  rw [tryJoin]
  refine .bind composes (flipParent_returns shows fits inner) fun _ after shows => ?_
  refine .get_bind (.bind composes (parentIsSplit_returns shows fits inner) ?_)
  rintro _ _ ⟨rfl, rfl⟩
  rw [shows.root, own]
  by_cases top : block.bucket = book.root
  · have used := sound.buddy_not_mem_of_root top
    rw [if_pos (by simp [top])]
    simp only [if_neg used]
    exact .pure composes ⟨rfl, shows⟩
  · rw [Book.mark_parent fresh inner top]
    by_cases free : block.buddy ∈ book
    · rw [if_neg (by simp [free, top])]
      simp only [if_pos free]
      have marks : (book.drop block.buddy).mark = Book.turned book.mark block := by
        rw [Book.mark_drop sound free, Book.turned_buddy _ inner]
      refine .check_bind (Geometry.buddy_node fits inner) ?_
      refine .bind composes (addressOf_returns shows (fits.buddy inner)) ?_
      rintro _ _ ⟨rfl, rfl⟩
      refine .bind composes ((remove_returns shows sound free).widen fun _ _ alters =>
        alters.mono fun _ outside => outside.mono (List.subset_cons_self _ _)) fun _ after shows => ?_
      refine .check_bind (Geometry.parent_node fits inner) ?_
      exact .pure composes ⟨rfl, marks ▸ shows⟩
    · rw [if_pos (by simp [free])]
      simp only [if_neg free]
      exact .pure composes ⟨rfl, shows⟩

theorem joinUp_returns {bucket index : Nat} (shows : heap.Shows site book book.mark)
    (sound : Sound site.geometry book (⟨bucket, index⟩ :: taken)) :
    Op.Returns (Alters header (site.Outside taken)) (joinUp bucket (⟨bucket, index⟩ : Block).node) heap
      fun found after =>
        found = ((Plan.joinUp bucket index book).1.node, (Plan.joinUp bucket index book).1.bucket) ∧
        after.Shows site (Plan.joinUp bucket index book).2
          (Book.turned (Plan.joinUp bucket index book).2.mark (Plan.joinUp bucket index book).1) := by
  have composes := alters_composes header (site.Outside taken)
  have fits := sound.taken_fits List.mem_cons_self
  induction bucket generalizing heap book index with
  | zero =>
    have first := fits.node_eq_zero.mpr rfl
    rw [joinUp, if_pos first]
    refine .pure composes ⟨rfl, ?_⟩
    rwa [Plan.joinUp, Book.turned_of_top _ rfl]
  | succ above ih =>
    have inner : (⟨above + 1, index⟩ : Block).bucket ≠ 0 := Nat.succ_ne_zero _
    have below : ¬ (⟨above + 1, index⟩ : Block).node = 0 := fun zero => inner (fits.node_eq_zero.mp zero)
    rw [joinUp, if_neg below, Plan.joinUp]
    refine .bind composes (tryJoin_returns shows sound inner) fun joined after holds => ?_
    by_cases free : (⟨above + 1, index⟩ : Block).buddy ∈ book
    · rw [if_pos free] at holds ⊢
      obtain ⟨rfl, shows⟩ := holds
      exact ih shows (Plan.sound_join sound inner free) (Plan.sound_join sound inner free |>.taken_fits
        List.mem_cons_self)
    · rw [if_neg free] at holds ⊢
      obtain ⟨rfl, shows⟩ := holds
      exact .pure composes ⟨rfl, shows⟩

theorem release_returns {request : Nat} (ready : heap.ready = true)
    (shows : heap.Shows site book book.mark) (sound : Sound site.geometry book (block :: taken))
    (granted : block.offset site.geometry + block.size site.geometry ≤ book.granted)
    (small : request + headerSize ≤ site.geometry.maxBlock)
    (level : block.bucket = site.geometry.bucketOf request)
    (asked : heap.window.memory.readWord (site.addressOf block) = request) :
    Op.Returns (Alters header (site.Outside taken)) (release (site.addressOf block + headerSize)) heap
      fun _ after => after.Shows site (Plan.release block book) (Plan.release block book).mark := by
  have composes := alters_composes header (site.Outside taken)
  have fits := sound.taken_fits List.mem_cons_self
  have size : linkSize ≤ block.size site.geometry := Geometry.linkSize_le_blockSize fits.bucket_le
  have link : linkSize = 16 := rfl
  have word : headerSize = 8 := rfl
  have own : ¬ (!heap.ready || decide (site.addressOf block + headerSize < heap.window.base + headerSize) ||
      decide (heap.highWater ≤ site.addressOf block + headerSize)) = true := by
    simp only [ready, shows.base, shows.granted, Site.addressOf, Bool.not_true, Bool.false_or,
      Bool.or_eq_true, decide_eq_true_eq]
    omega
  have large : ¬ heap.geometry.maxBlock - headerSize < request := by
    rw [shows.geometry]
    omega
  have bucket : heap.geometry.bucketFor (request + headerSize) =
      .ok (site.geometry.bucketOf request) := by
    rw [shows.geometry]
    exact Geometry.bucketFor_eq small
  have aligned : ¬ (decide (site.geometry.bucketOf request < heap.rootBucket) ||
      decide ((site.addressOf block - heap.window.base) %
        heap.geometry.blockSize (site.geometry.bucketOf request) ≠ 0)) = true := by
    have order := sound.root_le_taken List.mem_cons_self
    rw [← level, shows.root, shows.base, shows.geometry, Site.addressOf, Nat.add_sub_cancel_left, Block.offset]
    simp only [Nat.mul_mod_left, Bool.or_eq_true, decide_eq_true_eq]
    omega
  have own_linked : block.offset site.geometry + linkSize ≤ book.granted := by omega
  obtain ⟨joined, linked, alone⟩ := Plan.joinUp_sound sound own_linked
  have top_fits := joined.taken_fits List.mem_cons_self
  have top := joined.tiles.index_eq_zero (List.mem_append_right _ List.mem_cons_self)
  have marks := Book.mark_push (joined.not_mem_of_taken List.mem_cons_self) top
  rw [release, if_neg (by omega)]
  refine .get_bind ?_
  simp only [if_neg own, Nat.add_sub_cancel]
  refine .bind composes (fetch_returns shows fits granted) ?_
  rintro found _ ⟨read, rfl⟩
  obtain rfl : found = request := read.trans asked
  rw [if_neg large]
  refine .check_bind bucket ?_
  rw [if_neg aligned, ← level]
  refine .bind composes (nodeAt_returns shows fits) ?_
  rintro _ _ ⟨rfl, rfl⟩
  refine .bind composes (joinUp_returns shows sound) ?_
  rintro _ after ⟨rfl, shows⟩
  refine .bind composes (addressOf_returns shows top_fits) ?_
  rintro _ _ ⟨rfl, rfl⟩
  refine (push_returns shows joined linked).mono fun _ _ shows => ?_
  rwa [← marks] at shows

end Nucleus.Buddy.Heap
