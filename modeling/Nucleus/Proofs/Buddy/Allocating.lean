import Nucleus.Proofs.Buddy.Carving

/-! Allocating on a prepared heap and on one that is not: preparing either fails and touches no memory,
or frees the first block. -/
namespace Nucleus.Buddy

/-- The book of a heap that was just prepared: the first block is free. -/
def Book.start (g : Geometry) : Book :=
  (⟨g.lastBucket, fun _ => [], linkSize⟩ : Book).push ⟨g.lastBucket, 0⟩

theorem Sound.first (g : Geometry) :
    Sound g ⟨g.lastBucket, fun _ => [], linkSize⟩ [⟨g.lastBucket, 0⟩] := by
  have none : ∀ block : Block, block ∉ (⟨g.lastBucket, fun _ => [], linkSize⟩ : Book) :=
    fun block member => nomatch (show block.index ∈ [] from member)
  have blocks : (⟨g.lastBucket, fun _ => [], linkSize⟩ : Book).blocks g = [] :=
    List.eq_nil_iff_forall_not_mem.mpr fun block member => none block (Book.mem_blocks.mp member).1
  refine ⟨le_rfl, fun block member => absurd member (none block), ?_,
    fun block both => none _ both.1, fun block member => absurd member (none block),
    Geometry.linkSize_le_blockSize le_rfl⟩
  rw [blocks]
  refine ⟨fun block member => (List.mem_singleton.mp member) ▸ le_rfl, fun offset => ?_⟩
  simp only [List.nil_append, tally_cons, Block.covers_iff, Block.offset, Block.size, Nat.zero_mul,
    Nat.zero_le, true_and, Nat.zero_add]
  simp [tally]

theorem Sound.start (g : Geometry) : Sound g (Book.start g) [] := by
  refine (Sound.first g).push ?_ (fun member => nomatch (show _ ∈ [] from member))
  simp [Block.offset]

theorem Book.mark_start (g : Geometry) : (Book.start g).mark = fun _ => false := by
  funext node
  have only : ∀ block, block ∈ Book.start g ↔ block = ⟨g.lastBucket, 0⟩ := fun block =>
    Book.mem_push.trans (or_iff_left fun member => nomatch (show block.index ∈ [] from member))
  have odd : node.right ≠ ⟨g.lastBucket, 0⟩ := fun same => by
    have index := congrArg Block.index same
    simp [Block.right] at index
  have root : (Book.start g).root = g.lastBucket := rfl
  simp only [Book.mark, only, root, odd]
  split <;> simp_all

namespace Heap
variable {site : Site} {heap : Heap} {book : Book} {marks : Block → Bool} {taken : List Block}
variable {geometry : Geometry} {window : Window} {splitSize request : Nat} {header : Nat → Nat → Prop}

/-- A heap that is not prepared yet. -/
structure Idle (geometry : Geometry) (window : Window) (splitSize : Nat) (heap : Heap) : Prop where
  geometry : heap.geometry = geometry
  window : heap.window = window
  splitSize : heap.split.size = splitSize
  lists : ∀ bucket (valid : bucket < maxBuckets), heap.lists[bucket] = FreeList.empty
  ready : heap.ready = false
  low : heap.highWater ≤ heap.window.base

theorem idle_fresh (geometry : Geometry) (window : Window) (split : BitArray) :
    Idle geometry window split.size (fresh geometry window split) where
  geometry := rfl
  window := rfl
  splitSize := rfl
  lists bucket valid := by simp [fresh]
  ready := rfl
  low := Nat.zero_le _

/-- What preparing does first, once the sizes are checked. -/
def cleared (heap : Heap) : Heap :=
  { heap with split := heap.split.clear, highWater := heap.window.base }

theorem Idle.cleared (idle : Idle geometry window splitSize heap) :
    Idle geometry window splitSize heap.cleared :=
  { idle with low := Nat.le_refl _ }

/-- The lists of a heap that is not prepared are empty, and reading them touches no memory. -/
theorem Idle.walks (idle : Idle geometry window splitSize heap) {bucket : Nat} (valid : bucket < maxBuckets) :
    (freeBlocks bucket).run heap = ([], .ok ([], heap)) := by
  have same := idle.lists bucket valid
  simp only [freeBlocks, onList, Op.run, dif_pos valid, same]
  change ([], Except.ok (_, { heap with lists := heap.lists.set bucket FreeList.empty })) = _
  rw [← same, Vector.set_getElem_self]

theorem prepare_ready (ready : heap.ready = true) : prepare.run heap = ([], .ok (.ok (), heap)) := by
  rw [prepare, Op.Returns.run_getThe_bind, if_pos ready]
  rfl

theorem prepare_splitTooSmall (idle : heap.ready = false)
    (small : heap.split.size < heap.geometry.splitBytes) :
    prepare.run heap = ([], .ok (.error .splitStorageTooSmall, heap)) := by
  rw [prepare, Op.Returns.run_getThe_bind, if_neg (by simp [idle])]
  simp only [if_pos small]
  rfl

theorem prepare_windowTooSmall (idle : heap.ready = false)
    (enough : heap.geometry.splitBytes ≤ heap.split.size)
    (small : heap.window.capacity < heap.geometry.maxBlock) :
    prepare.run heap = ([], .ok (.error .invalidConfig, heap)) := by
  rw [prepare, Op.Returns.run_getThe_bind, if_neg (by simp [idle])]
  simp only [if_neg (Nat.not_lt.mpr enough), if_pos small]
  rfl

/-- Whether a heap that is not prepared can be. -/
structure Preparable (heap : Heap) : Prop where
  enough : heap.geometry.splitBytes ≤ heap.split.size
  large : heap.geometry.maxBlock ≤ heap.window.capacity

theorem Idle.preparable (idle : Idle site.geometry site.window site.splitSize heap) : heap.Preparable where
  enough := by
    rw [idle.geometry, idle.splitSize]
    exact site.splitBytes_le
  large := by
    rw [idle.geometry, idle.window]
    exact site.large

/-- A heap that can be prepared is prepared as if it were cleared. -/
theorem Preparable.prepare_cleared (preparable : heap.Preparable) (idle : heap.ready = false) :
    prepare.run heap = prepare.run heap.cleared := by
  have enough : ¬ heap.split.size < heap.geometry.splitBytes := Nat.not_lt.mpr preparable.enough
  have large : ¬ heap.window.capacity < heap.geometry.maxBlock := Nat.not_lt.mpr preparable.large
  have still_idle : heap.cleared.ready = false := idle
  have same_size : heap.cleared.split.size = heap.split.size := rfl
  have same_geometry : heap.cleared.geometry = heap.geometry := rfl
  have same_window : heap.cleared.window = heap.window := rfl
  rw [prepare, Op.Returns.run_getThe_bind, Op.Returns.run_getThe_bind]
  simp only [idle, still_idle, same_size, same_geometry, same_window, Bool.false_eq_true, if_false, if_neg enough,
    if_neg large]
  rfl

theorem Idle.shows (idle : Idle site.geometry site.window site.splitSize heap) :
    heap.cleared.Shows site ⟨heap.rootBucket, fun _ => [], 0⟩ fun _ => false where
  geometry := idle.geometry
  window := by
    change heap.window = { site.window.reserving site.window.base with memory := heap.window.memory }
    rw [Window.reserving_nothing, idle.window]
  splitSize := idle.splitSize
  root := rfl
  granted := congrArg Window.base idle.window
  lists bucket valid := by
    change heap.lists[bucket].Holds _ []
    rw [idle.lists bucket valid]
    exact FreeList.empty_holds _
  bits block _ _ := heap.split.bit_clear _

theorem prepare_returns (header : Nat → Nat → Prop)
    (idle : Idle site.geometry site.window site.splitSize heap) :
    Op.Returns (Alters header (site.Outside [])) prepare.run heap.cleared fun result after =>
      if linkSize ≤ site.window.ceiling then result = .ok () ∧ after.ready = true ∧
        after.Shows site (Book.start site.geometry) (Book.start site.geometry).mark
      else result = .error .reservationDenied ∧ after = heap.cleared := by
  have composes := alters_composes header (site.Outside [])
  have shows := idle.shows
  have enough : ¬ heap.cleared.split.size < heap.cleared.geometry.splitBytes := by
    rw [shows.splitSize, shows.geometry]
    exact Nat.not_lt.mpr site.splitBytes_le
  have large : ¬ heap.cleared.window.capacity < heap.cleared.geometry.maxBlock := by
    rw [shows.capacity, shows.geometry]
    exact Nat.not_lt.mpr site.large
  have still_idle : heap.cleared.ready = false := idle.ready
  have base : heap.cleared.window.base = site.addressOf ⟨site.geometry.lastBucket, 0⟩ := by
    simp [shows.base, Site.addressOf, Block.offset]
  have geometry : heap.cleared.geometry = site.geometry := shows.geometry
  have top : Word.add (site.addressOf ⟨site.geometry.lastBucket, 0⟩) linkSize =
      .ok (site.window.base + linkSize) := by
    have small := (Geometry.linkSize_le_blockSize (g := site.geometry) le_rfl).trans
      (site.geometry.blockSize_le_maxBlock _)
    have room := site.room
    simp only [Site.addressOf, Block.offset, Nat.zero_mul, Nat.add_zero]
    exact Word.add_eq_ok (by omega)
  have committed := commit_returns header (site.Outside []) shows linkSize
  have empty : (⟨site.geometry.lastBucket, fun _ => [], linkSize⟩ : Book).free
      site.geometry.lastBucket = [] := rfl
  rw [prepare]
  refine .getThe_bind ?_
  rw [if_neg (by simp [still_idle])]
  simp only [if_neg enough, if_neg large]
  refine .set_bind composes (composes.refl heap.cleared) ?_
  change Op.Returns _ _ heap.cleared _
  simp only [base, geometry]
  refine .lift_check_bind top ?_
  by_cases allowed : linkSize ≤ site.window.ceiling
  · have grant : Book.grant site.window.ceiling linkSize ⟨heap.rootBucket, fun _ => [], 0⟩ =
        some ⟨heap.rootBucket, fun _ => [], linkSize⟩ := by
      rw [Book.grant, if_pos (show 0 < linkSize by decide), if_pos allowed]
    rw [grant] at committed
    simp only [if_pos allowed]
    refine .ok_bind composes committed fun granted shows => ?_
    have rooted : ({ granted with rootBucket := site.geometry.lastBucket } : Heap).Shows site
        ⟨site.geometry.lastBucket, fun _ => [], linkSize⟩ fun _ => false := { shows with root := rfl }
    refine .modify_bind composes (alters_of_same id rfl rfl rfl) ?_
    refine .lift_bind composes (emptyList_returns rooted (valid_of_deep le_rfl) empty) ?_
    rintro _ _ rfl
    have linked : (⟨site.geometry.lastBucket, 0⟩ : Block).offset site.geometry + linkSize ≤ linkSize := by
      simp [Block.offset]
    refine .lift_bind composes (push_returns rooted (Sound.first site.geometry) linked) ?_
    intro _ first shows
    have settled : ({ first with ready := true } : Heap).Shows site (Book.start site.geometry)
        (Book.start site.geometry).mark := by
      rw [Book.mark_start]
      exact { shows with }
    refine .modify_bind composes (alters_of_same (fun _ => rfl) rfl rfl rfl) ?_
    refine .lift composes (note_returns _) ?_
    rintro _ _ rfl
    exact ⟨rfl, rfl, settled⟩
  · have grant : Book.grant site.window.ceiling linkSize ⟨heap.rootBucket, fun _ => [], 0⟩ = none := by
      rw [Book.grant, if_pos (show 0 < linkSize by decide), if_neg allowed]
    rw [grant] at committed
    simp only [if_neg allowed]
    exact .error_bind composes committed fun _ same => ⟨rfl, same⟩

theorem allocate_tooLarge (large : heap.geometry.maxBlock < request + headerSize) :
    (allocate request).run heap = ([], .ok (.error .requestTooLarge, heap)) := by
  rw [allocate, Op.Returns.run_getThe_bind]
  simp only [if_pos large]
  rfl

/-- An allocation on a heap that cannot be prepared ends there. -/
theorem allocate_unprepared {error : AllocError} (small : ¬ heap.geometry.maxBlock < request + headerSize)
    (failed : prepare.run heap = ([], .ok (.error error, heap))) :
    (allocate request).run heap = ([], .ok (.error error, heap)) := by
  have failed : (ExceptT.run prepare).run heap = _ := failed
  rw [allocate, Op.Returns.run_getThe_bind]
  simp only [if_neg small]
  rw [ExceptT.run_bind]
  change Op.run _ heap = _
  rw [Op.run_bind_ok _ failed]
  rfl

theorem Preparable.allocate_cleared (preparable : heap.Preparable) (idle : heap.ready = false)
    (small : request + headerSize ≤ heap.geometry.maxBlock) :
    (allocate request).run heap = (allocate request).run heap.cleared := by
  have prepared : (ExceptT.run prepare).run heap = (ExceptT.run prepare).run heap.cleared :=
    preparable.prepare_cleared idle
  have same_geometry : heap.cleared.geometry = heap.geometry := rfl
  rw [allocate, Op.Returns.run_getThe_bind, Op.Returns.run_getThe_bind]
  simp only [same_geometry, if_neg (Nat.not_lt.mpr small)]
  rw [ExceptT.run_bind]
  change Op.run _ heap = Op.run _ heap.cleared
  rw [Op.run_bind, Op.run_bind, prepared]

theorem Idle.allocate_cleared (idle : Idle site.geometry site.window site.splitSize heap)
    (small : request + headerSize ≤ site.geometry.maxBlock) :
    (allocate request).run heap = (allocate request).run heap.cleared :=
  idle.preparable.allocate_cleared idle.ready (idle.geometry ▸ small)

/-- From a block taken off its list to its payload. -/
theorem carve_returns {wanted : Nat} {block : Block}
    (shows : heap.Shows site book (Book.turned book.mark block))
    (sound : Sound site.geometry book (block :: taken)) (order : block.bucket ≤ wanted)
    (deep : wanted ≤ site.geometry.lastBucket)
    (linked : block.offset site.geometry + linkSize ≤ book.granted) (word : request < Word.bound)
    (allowed : ∀ left more, Plan.carve site.geometry site.window.ceiling wanted block book = (.ok left, more) →
      header (site.addressOf left) request) :
    Op.Returns (Alters header (site.Outside taken)) (ExceptT.run (do
        let top ← Word.add (site.addressOf block) (Plan.touched site.geometry wanted block)
        tryCatch (commit top) fun error => do
          push block.bucket (site.addressOf block)
          throw error
        let node ← nodeAt (site.addressOf block) block.bucket
        if node ≠ 0 then flipParent node
        splitDown (wanted - block.bucket) node block.bucket
        store (site.addressOf block) request
        return (← Word.add (site.addressOf block) headerSize) : Alloc Nat)) heap
      (HandsOut site request (Plan.carve site.geometry site.window.ceiling wanted block book)) := by
  have composes := alters_composes header (site.Outside taken)
  have fits := sound.taken_fits List.mem_cons_self
  have alone : block.bucket = book.root → block.index = 0 :=
    sound.tiles.index_eq_zero (List.mem_append_right _ List.mem_cons_self)
  have inside := Plan.touched_le sound deep
  have top : Word.add (site.addressOf block) (Plan.touched site.geometry wanted block) =
      .ok (site.window.base + (block.offset site.geometry + Plan.touched site.geometry wanted block)) := by
    have small := site.geometry.blockSize_le_maxBlock book.root
    have room := site.room
    rw [Site.addressOf, Word.add_eq_ok (by omega), Nat.add_assoc]
  have committed := commitOrPutBack_returns header shows sound linked alone
    (block.offset site.geometry + Plan.touched site.geometry wanted block)
  refine .lift_check_bind top ?_
  cases granted : book.grant site.window.ceiling
      (block.offset site.geometry + Plan.touched site.geometry wanted block) with
  | none =>
    have plan : Plan.carve site.geometry site.window.ceiling wanted block book =
        (.error .reservationDenied, book.push block) := by simp only [Plan.carve, granted]
    rw [granted] at committed
    rw [plan]
    exact .error_bind composes committed fun after shows => .of_error shows
  | some more =>
    have plan : Plan.carve site.geometry site.window.ceiling wanted block book =
        (.ok (Plan.leftmost (wanted - block.bucket) block),
          Plan.splitDown (wanted - block.bucket) block more) := by simp only [Plan.carve, granted]
    have enough : block.offset site.geometry + Plan.touched site.geometry wanted block ≤ more.granted := by
      rw [Book.grant_eq_some granted]
      exact Nat.le_max_right _ _
    have carved := Plan.sound_grant sound granted inside
    have allowed := allowed _ _ plan
    rw [plan]
    rw [granted] at committed
    refine .ok_bind composes committed fun after shows => ?_
    refine .lift_bind composes (nodeAt_returns shows fits) ?_
    rintro _ _ ⟨rfl, rfl⟩
    by_cases first : block.node = 0
    · rw [Book.turned_of_top _ (fits.node_eq_zero.mp first)] at shows
      rw [if_neg (not_not_intro first)]
      exact finish_returns shows carved order deep word allowed enough
    · rw [if_pos first]
      refine .lift_bind composes (flipParent_returns shows fits
        fun level => first (fits.node_eq_zero.mpr level)) fun _ after shows => ?_
      rw [Book.turned_turned] at shows
      exact finish_returns shows carved order deep word allowed enough

theorem allocate_returns (small : request + headerSize ≤ site.geometry.maxBlock)
    (geometry : heap.geometry = site.geometry) (sound : Sound site.geometry book taken)
    (allowed : ∀ handed more,
      Plan.allocate site.geometry site.window.ceiling request book = (.ok handed, more) →
      header (site.addressOf handed) request)
    (prepared : Op.Returns (Alters header (site.Outside taken)) prepare.run heap fun result after =>
      result = .ok () ∧ after.ready = true ∧ after.Shows site book book.mark) :
    Op.Returns (Alters header (site.Outside taken)) (allocate request).run heap fun result after =>
      after.ready = true ∧ HandsOut site request
        (Plan.allocate site.geometry site.window.ceiling request book) result after := by
  have composes := alters_composes header (site.Outside taken)
  have deep := site.geometry.bucketOf_le request
  have bucket := Geometry.bucketFor_eq small
  have word : request < Word.bound := by
    have small_window := site.geometry.maxBlock_lt
    omega
  have found := Plan.search_wanted_found site.window.ceiling (site.geometry.bucketOf request) sound
  rw [allocate]
  refine .getThe_bind ?_
  simp only [geometry, if_neg (Nat.not_lt.mpr small)]
  refine .ok_bind composes prepared ?_
  rintro after ⟨ready, shows⟩
  refine .remember ?_ fun _ _ alters => alters.ready ready
  refine .lift_check_bind bucket ?_
  apply follows_cases (search_returns header shows sound deep)
  · intro value grown after ran shows
    rw [ran] at found
    rw [Plan.allocate, Plan.bind_ok ran]
    cases value with
    | none =>
      refine .lift_bind composes (note_returns _) ?_
      rintro _ _ rfl
      exact .pure composes (.of_error shows)
    | some block =>
      obtain ⟨carved, order, linked, -⟩ := found
      refine carve_returns shows carved order deep linked word fun left more handed => allowed left more ?_
      rw [Plan.allocate, Plan.bind_ok ran]
      exact handed
  · intro error grown after ran shows
    rw [Plan.allocate, Plan.bind_error ran]
    exact .of_error shows

end Heap

end Nucleus.Buddy
