import Nucleus.Proofs.Buddy.Carve
import Nucleus.Proofs.Buddy.Growing

/-! Handing out a block follows the plan: what is left of a halved block gets a header with the size asked
for, and every right half is free. -/
namespace Nucleus.Buddy.Heap
variable {site : Site} {heap : Heap} {book : Book} {marks : Block → Bool} {taken : List Block}
variable {block : Block} {region : Nat → Prop} {request : Nat} {header : Nat → Nat → Prop}

theorem splitDown_returns (header : Nat → Nat → Prop) {times : Nat} (shows : heap.Shows site book book.mark)
    (sound : Sound site.geometry book (block :: taken))
    (deep : block.bucket + times ≤ site.geometry.lastBucket)
    (linked : times ≠ 0 →
      block.offset site.geometry + block.size site.geometry / 2 + linkSize ≤ book.granted) :
    Op.Returns (Alters header (site.Outside taken)) (splitDown times block.node block.bucket) heap
      fun _ after => after.Shows site (Plan.splitDown times block book)
        (Plan.splitDown times block book).mark := by
  have composes := alters_composes header (site.Outside taken)
  induction times generalizing heap book block with
  | zero => exact .pure composes shows
  | succ times ih =>
    have inner : block.bucket < site.geometry.lastBucket := by omega
    have linked := linked (Nat.succ_ne_zero _)
    have halved := sound.halve inner
    have left_fits := halved.taken_fits List.mem_cons_self
    have right_fits := halved.taken_fits (List.mem_cons_of_mem _ List.mem_cons_self)
    have small := right_fits.node_lt
    have right_number := block.node_right
    have double : Word.add block.node block.node = .ok (block.node + block.node) :=
      Word.add_eq_ok (by unfold Word.bound; omega)
    have left : Word.add (block.node + block.node) 1 = .ok block.left.node := by
      rw [Word.add_eq_ok (by unfold Word.bound; omega), block.node_left, Nat.two_mul]
    have right : Word.add block.left.node 1 = .ok block.right.node := by
      have left_number := block.node_left
      rw [Word.add_eq_ok (by unfold Word.bound; omega), left_number, right_number]
    have right_linked : block.right.offset site.geometry + linkSize ≤ book.granted := by
      rw [Block.offset_right inner, ← Plan.half_size inner]
      exact linked
    have fresh : block.right ∉ book :=
      halved.not_mem_of_taken (List.mem_cons_of_mem _ List.mem_cons_self)
    have below : block.right.bucket ≠ book.root := by
      have order := sound.root_le_taken List.mem_cons_self
      simp only [Block.right]
      omega
    have marks : (book.push block.right).mark = Book.turned book.mark block.left := by
      rw [Book.mark_push fresh fun same => absurd same below, Book.turned_right]
    refine .check_bind double (.check_bind left ?_)
    refine .bind composes (flipParent_returns shows left_fits (Nat.succ_ne_zero _)) fun _ after shows => ?_
    refine .check_bind right (.bind composes (addressOf_returns shows right_fits) ?_)
    rintro _ _ ⟨rfl, rfl⟩
    have order := halved.perm (List.Perm.swap _ _ _)
    refine .bind composes ((push_returns shows order right_linked).widen fun _ _ alters =>
      alters.mono fun _ outside => outside.mono (List.subset_cons_self _ _)) fun _ after shows => ?_
    rw [← marks] at shows
    exact ih shows (Plan.sound_split sound inner linked) (by simp only [Block.left]; omega)
      fun _ => Plan.left_linked inner linked

/-- A heap whose free blocks keep their link words shows the same book. -/
theorem Shows.of_memory (shows : heap.Shows site book marks) {memory : Memory}
    (same : ∀ free ∈ book, ∀ addr, site.addressOf free ≤ addr → addr < site.addressOf free + linkSize →
      memory.get addr = heap.window.memory.get addr) :
    ({ heap with window := { heap.window with memory } } : Heap).Shows site book marks := by
  refine { shows with window := ?_, lists := ?_ }
  · have window := shows.window
    simp only
    rw [window]
  · intro bucket valid
    refine (shows.lists bucket valid).frame fun addr area => ?_
    obtain ⟨free, member, above, below⟩ := Site.linkArea_map area
    exact same free (Book.mem_level.mp member).1 addr above below

theorem Shows.header_inside (shows : heap.Shows site book marks) (fits : block.Fits site.geometry) :
    heap.window.contains (site.addressOf block) 8 = .ok true := by
  have small : linkSize ≤ block.size site.geometry := Geometry.linkSize_le_blockSize fits.bucket_le
  have word : linkSize = 16 := rfl
  have inside := fits.offset_add_size_le
  have large := site.large
  have window_fits := shows.window_fits
  apply Window.contains_of_inside window_fits
  · rw [shows.base]
    exact Nat.le_add_right _ _
  · rw [shows.base, shows.capacity, Site.addressOf]
    omega

/-- The header of a taken block. -/
theorem store_returns (shows : heap.Shows site book marks)
    (sound : Sound site.geometry book (block :: taken))
    (granted : block.offset site.geometry + block.size site.geometry ≤ book.granted) {value : Nat}
    (allowed : header (site.addressOf block) value) :
    Op.Returns (Alters header (site.Outside taken)) (store (site.addressOf block) value) heap fun _ after =>
      after.Shows site book marks ∧
        after.window.memory = heap.window.memory.writeWord (site.addressOf block) value := by
  have fits := sound.taken_fits List.mem_cons_self
  have small : linkSize ≤ block.size site.geometry := Geometry.linkSize_le_blockSize fits.bucket_le
  have word : linkSize = 16 := rfl
  have top := shows.granted
  have ran : (store (site.addressOf block) value).run heap =
      ([.stored (site.addressOf block) value], .ok ((), { heap with window :=
        { heap.window with memory := heap.window.memory.writeWord (site.addressOf block) value } })) := by
    have ran := Window.run_store value (shows.header_inside fits)
    simp only [Op.run] at ran
    simp only [store, onWindow, Op.onPart, Op.run, ran]
  have writes := (Step.head allowed ran).writes
  refine ⟨_, (), _, ran, ⟨id, ?_, ?_, writes, ⟨?_, rfl⟩, Nat.le_refl _, (·.withMemory _), by simp⟩,
    shows.of_memory ?_, rfl⟩
  · intro addr outside
    apply Memory.get_writeWord_of_outside _ _
    by_contra inner
    refine outside fun other member => ?_
    have apart := Site.apart_iff.mp (sound.apart_of_cons member)
    omega
  · intro addr written stored i below other member
    have apart := Site.apart_iff.mp (sound.apart_of_cons member)
    obtain ⟨rfl, rfl⟩ := Event.stored.inj (List.mem_singleton.mp stored)
    omega
  · rw [top, Site.addressOf]
    omega
  · intro free member addr above below
    have apart := Site.apart_iff.mp (sound.apart_of_taken member List.mem_cons_self)
    have free_small : linkSize ≤ free.size site.geometry :=
      Geometry.linkSize_le_blockSize (sound.fits member).bucket_le
    exact Memory.get_writeWord_of_outside _ _ (by omega)

theorem run_fetch {addr : Nat} (inside : heap.window.contains addr 8 = .ok true) :
    (fetch addr).run heap = ([.fetched addr], .ok (heap.window.memory.readWord addr, heap)) := by
  have ran := Window.run_fetch inside
  simp only [Op.run] at ran
  simp only [fetch, onWindow, Op.onPart, Op.run, ran]

theorem fetch_returns {region : Nat → Prop} (shows : heap.Shows site book marks)
    (fits : block.Fits site.geometry)
    (granted : block.offset site.geometry + block.size site.geometry ≤ book.granted) :
    Op.Returns (Alters header region) (fetch (site.addressOf block)) heap fun word after =>
      word = heap.window.memory.readWord (site.addressOf block) ∧ after = heap := by
  have small : linkSize ≤ block.size site.geometry := Geometry.linkSize_le_blockSize fits.bucket_le
  have word : linkSize = 16 := rfl
  have top := shows.granted
  refine ⟨_, _, _, run_fetch (shows.header_inside fits), ⟨id, fun _ _ => rfl, by simp, .aside rfl rfl (by simp), ⟨?_, rfl⟩, le_rfl, id,
    by simp⟩, rfl, rfl⟩
  rw [top, Site.addressOf]
  omega

/-- Commits what is needed of a block; the block goes back on its list when that is denied. -/
theorem commitOrPutBack_returns (header : Nat → Nat → Prop) (shows : heap.Shows site book (Book.turned book.mark block))
    (sound : Sound site.geometry book (block :: taken))
    (linked : block.offset site.geometry + linkSize ≤ book.granted) (alone : block.bucket = book.root →
      block.index = 0) (size : Nat) :
    Op.Returns (Alters header (site.Outside taken))
      (ExceptT.run (tryCatch (commit (site.window.base + size)) fun error => do
        push block.bucket (site.addressOf block)
        throw error)) heap fun result after =>
      match book.grant site.window.ceiling size with
      | some more => result = .ok () ∧ after.Shows site more (Book.turned more.mark block)
      | none => result = .error .reservationDenied ∧
          after.Shows site (book.push block) (book.push block).mark := by
  have composes := alters_composes header (site.Outside taken)
  have fresh := sound.not_mem_of_taken List.mem_cons_self
  refine .tryCatch composes (commit_returns header _ shows size) ?_ ?_
  · intro _ after holds
    cases granted : book.grant site.window.ceiling size with
    | none =>
      rw [granted] at holds
      cases holds.1
    | some more =>
      rw [granted] at holds
      refine ⟨rfl, ?_⟩
      rw [Book.grant_eq_some granted] at holds ⊢
      exact holds.2
  · intro error after holds
    cases granted : book.grant site.window.ceiling size with
    | none =>
      rw [granted] at holds
      obtain ⟨failed, rfl⟩ := holds
      obtain rfl := Except.error.inj failed
      refine .lift_bind composes (push_returns shows sound linked) fun _ after shows => ?_
      rw [← Book.mark_push fresh alone] at shows
      exact .pure composes ⟨rfl, shows⟩
    | some more =>
      rw [granted] at holds
      cases holds.1

/-- An allocation follows its plan, and the block it hands out starts with the size asked for. -/
def HandsOut (site : Site) (request : Nat) (plan : Except AllocError Block × Book)
    (result : Except AllocError Nat) (after : Heap) : Prop :=
  Follows site (fun block => site.addressOf block + headerSize) settled plan result after ∧
    ∀ block, plan.1 = .ok block → after.window.memory.readWord (site.addressOf block) = request

theorem HandsOut.of_error {error : AllocError} (shows : heap.Shows site book book.mark) :
    HandsOut site request (.error error, book) (.error error) heap := by
  refine ⟨⟨rfl, shows⟩, fun block found => ?_⟩
  cases found

/-- What is left of a block after halving gets its header. -/
theorem finish_returns {wanted : Nat} (shows : heap.Shows site book book.mark)
    (sound : Sound site.geometry book (block :: taken)) (order : block.bucket ≤ wanted)
    (deep : wanted ≤ site.geometry.lastBucket) (word : request < Word.bound)
    (allowed : header (site.addressOf (Plan.leftmost (wanted - block.bucket) block)) request)
    (touched : block.offset site.geometry + Plan.touched site.geometry wanted block ≤ book.granted) :
    Op.Returns (Alters header (site.Outside taken))
      (ExceptT.run (do
        splitDown (wanted - block.bucket) block.node block.bucket
        store (site.addressOf block) request
        return (← Word.add (site.addressOf block) headerSize) : Alloc Nat)) heap
      (HandsOut site request (.ok (Plan.leftmost (wanted - block.bucket) block),
        Plan.splitDown (wanted - block.bucket) block book)) := by
  have composes := alters_composes header (site.Outside taken)
  have kept := Plan.kept_le_touched (g := site.geometry) order deep
  have halved := Plan.splitDown_sound sound (show block.bucket + (wanted - block.bucket) ≤ _ by omega)
    fun inner => (Plan.touched_linked inner).trans_le touched
  have split := splitDown_returns header shows sound (show block.bucket + (wanted - block.bucket) ≤ _ by omega)
    fun inner => (Plan.touched_linked inner).trans_le touched
  have same : site.addressOf (Plan.leftmost (wanted - block.bucket) block) = site.addressOf block := by
    rw [Site.addressOf, Plan.leftmost_offset (by omega), Site.addressOf]
  refine .lift_bind composes split fun _ after shows => ?_
  have stored := store_returns shows halved (by
    rw [Plan.leftmost_offset (by omega), Block.size, Plan.leftmost_bucket, Plan.splitDown_granted,
      Nat.add_sub_of_le order]
    omega) allowed
  rw [same] at stored
  refine .lift_bind composes stored ?_
  rintro _ after ⟨shows, memory⟩
  have room := site.room
  have inside := (sound.taken_fits List.mem_cons_self).offset_add_size_le
  have large : headerSize ≤ block.size site.geometry :=
    (show headerSize ≤ linkSize by decide).trans
      (Geometry.linkSize_le_blockSize (sound.taken_fits List.mem_cons_self).bucket_le)
  have payload : Word.add (site.addressOf block) headerSize = .ok (site.addressOf block + headerSize) := by
    apply Word.add_eq_ok
    rw [Site.addressOf]
    omega
  refine .lift_check composes payload ⟨⟨?_, shows⟩, fun left found => ?_⟩
  · simp only [same]
  · rw [← Except.ok.inj found, same, memory, Memory.readWord_writeWord _ _ word]

end Nucleus.Buddy.Heap
