import Nucleus.Proofs.Buddy.Undoing

/-! Which block an allocation takes, and how far the tree grows for it. Of the free blocks that are large enough it
takes the newest of the smallest; the tree grows only when there is none, and no further than until there is one. -/
namespace Nucleus.Buddy
variable {g : Geometry} {ceiling wanted : Nat} {book after : Book} {taken : List Block} {block : Block}

namespace Book

/-- No free block is as large as those of a bucket. -/
def Lacks (book : Book) (wanted : Nat) : Prop := ∀ bucket ≤ wanted, book.free bucket = []

/-- The newest of the smallest free blocks that are as large as those of a bucket. -/
structure Fittest (book : Book) (wanted : Nat) (block : Block) : Prop where
  nearest : IsGreatest {bucket | bucket ≤ wanted ∧ book.free bucket ≠ []} block.bucket
  newest : book.newest block.bucket = some block

theorem Fittest.of_newest {bucket : Nat} (order : bucket ≤ wanted) (last : book.newest bucket = some block)
    (empty : ∀ other, bucket < other → other ≤ wanted → book.free other = []) : book.Fittest wanted block := by
  obtain ⟨free, rfl⟩ := mem_of_newest last
  refine ⟨⟨⟨order, List.ne_nil_of_mem free⟩, ?_⟩, last⟩
  rintro other ⟨below, listed⟩
  by_contra beyond
  exact listed (empty other (Nat.not_le.mp beyond) below)

theorem Fittest.not_lacks (fittest : book.Fittest wanted block) : ¬ book.Lacks wanted :=
  fun lacks => fittest.nearest.1.2 (lacks _ fittest.nearest.1.1)

theorem dropNewest_eq {bucket : Nat} (last : book.newest bucket = some block) :
    book.dropNewest bucket = book.drop block := by
  simp only [dropNewest, last]

end Book

theorem Sound.lacks (sound : Sound g book taken) (small : wanted < book.root) : book.Lacks wanted := by
  refine fun bucket order => List.eq_nil_iff_forall_not_mem.mpr fun index free => ?_
  have deep := sound.root_le_free (show (⟨bucket, index⟩ : Block) ∈ book from free)
  exact absurd (deep.trans order) (Nat.not_le.mpr small)

namespace Plan
variable {grown : Book}

theorem growTo_reached {bucket : Nat} (reached : book.root ≤ bucket) :
    growTo g ceiling bucket book = (.ok (), book) := by
  change growTimes g ceiling (book.root - bucket) book = _
  rw [Nat.sub_eq_zero_of_le reached]
  rfl

theorem search_grown {bucket : Nat} (grew : growTo g ceiling bucket book = (.ok (), grown))
    (reached : grown.root ≤ bucket) : search g ceiling bucket book = search g ceiling bucket grown := by
  have same : take g ceiling bucket book = take g ceiling bucket grown :=
    (take_eq grew).trans (take_eq (growTo_reached reached)).symm
  cases bucket with
  | zero => exact same
  | succ above =>
    rw [search]
    simp only [Bind.bind, same]

/-- Beside a tree in use its right half is freed, and nothing else. -/
theorem grow_used (used : (⟨book.root, 0⟩ : Block) ∉ book) (ran : grow g ceiling book = (.ok (), grown)) :
    grown.newest book.root = some ⟨book.root, 1⟩ ∧
      ∀ other, other ≠ book.root → grown.free other = book.free other := by
  rcases grow_cases g ceiling book with ⟨free, -⟩ | ⟨-, more, granted, grew⟩ | ⟨-, -, grew⟩
  · exact absurd free used
  · cases ran.symm.trans grew
    rw [Book.grant_eq_some granted]
    refine ⟨by simp [Book.newest, Book.push, Book.raise], fun other distinct => ?_⟩
    exact Function.update_of_ne distinct _ _
  · cases ran.symm.trans grew

theorem takeBeside_grow {above : Nat} (root : book.root = above + 1) (empty : book.free (above + 1) = [])
    (ran : takeBeside g ceiling (above + 1) above book = (.ok block, after)) :
    ∃ grown, grow g ceiling book = (.ok (), grown) ∧ grown.newest (above + 1) = some block ∧
      after = grown.drop block ∧ ∀ other, other ≠ above + 1 → grown.free other = book.free other := by
  have used : (⟨book.root, 0⟩ : Block) ∉ book := by
    intro member
    have listed : 0 ∈ book.free book.root := member
    rw [root, empty] at listed
    cases listed
  have once : growTo g ceiling above book = growTimes g ceiling 1 book := by
    change growTimes g ceiling (book.root - above) book = _
    rw [show book.root - above = 1 by omega]
  rcases grew : grow g ceiling book with ⟨error | _, grown⟩
  · rw [takeBeside, bind_error (once.trans (bind_error grew _))] at ran
    cases ran
  · obtain ⟨newest, others⟩ := grow_used used grew
    rw [root] at newest others
    rw [takeBeside, bind_ok (once.trans (bind_ok grew _))] at ran
    simp only [pop, newest, Book.dropNewest_eq newest, Bind.bind, Pure.pure, Prod.mk.injEq, Except.ok.injEq] at ran
    obtain ⟨rfl, rfl⟩ := ran
    exact ⟨grown, rfl, newest, rfl, others⟩

/-- A search up from a bucket that the tree has reached takes the fittest block, or there is none and the tree
grows once. -/
theorem search_fits {bucket : Nat} (sound : Sound g book taken) (reached : book.root ≤ bucket)
    (order : bucket ≤ wanted) (empty : ∀ other, bucket < other → other ≤ wanted → book.free other = [])
    (ran : search g ceiling bucket book = (.ok (some block), after)) :
    book.Fittest wanted block ∧ after = book.drop block ∨
      book.Lacks wanted ∧ book.root ≠ 0 ∧ ∃ grown, grow g ceiling book = (.ok (), grown) ∧
        grown.Fittest wanted block ∧ after = grown.drop block := by
  induction bucket with
  | zero =>
    rw [search, take_eq (growTo_reached reached), Prod.mk.injEq, Except.ok.injEq] at ran
    obtain ⟨newest, rfl⟩ := ran
    exact .inl ⟨.of_newest order newest empty, Book.dropNewest_eq newest⟩
  | succ above ih =>
    rw [search, bind_ok (take_eq (growTo_reached reached))] at ran
    cases newest : book.newest (above + 1) with
    | some popped =>
      rw [newest] at ran
      cases ran
      exact .inl ⟨.of_newest order newest empty, Book.dropNewest_eq newest⟩
    | none =>
      have here := Book.newest_eq_none.mp newest
      have rest : ∀ other, above < other → other ≤ wanted → book.free other = [] := by
        intro other beyond below
        rcases Nat.eq_or_lt_of_le (show above + 1 ≤ other from beyond) with rfl | further
        · exact here
        · exact empty other further below
      simp only [newest, Book.dropNewest, bind_ok (read_ok book)] at ran
      split at ran
      · rename_i top
        rcases beside : takeBeside g ceiling (above + 1) above book with ⟨error | popped, last⟩
        · rw [bind_error beside] at ran
          cases ran
        · rw [bind_ok beside] at ran
          cases ran
          obtain ⟨grown, grew, fresh, rfl, others⟩ := takeBeside_grow top.symm here beside
          refine .inr ⟨fun other below => ?_, by omega, grown, grew, .of_newest order fresh ?_, rfl⟩
          · by_cases beyond : above < other
            · exact rest other beyond below
            · exact sound.lacks (show other < book.root by omega) other le_rfl
          · intro other beyond below
            rw [others other (by omega)]
            exact empty other beyond below
      · exact ih (by omega) (by omega) rest ran

/-- Growing has one outcome for each root. -/
theorem Grows.unique {middle : Book} (grows : Grows g ceiling book middle) (other : Grows g ceiling book after)
    (root : middle.root = after.root) : middle = after := by
  have same := other.growTo
  rw [← root, grows.growTo] at same
  exact congrArg Prod.snd same

/-- A search takes the fittest block of a tree that has grown only until there was one. -/
theorem search_wanted_fits (sound : Sound g book taken)
    (ran : search g ceiling wanted book = (.ok (some block), after)) :
    ∃ grown, Grows g ceiling book grown ∧ grown.Fittest wanted block ∧ after = grown.drop block ∧
      ∀ middle, Grows g ceiling book middle → grown.root < middle.root → middle.Lacks wanted := by
  obtain ⟨first_sound, done⟩ := growTo_sound ceiling sound wanted
  rcases grew : growTo g ceiling wanted book with ⟨error | _, first⟩
  · cases wanted with
    | zero =>
      rw [search, take, bind_error grew] at ran
      cases ran
    | succ above =>
      rw [search, bind_error (by rw [take, bind_error grew])] at ran
      cases ran
  rw [grew] at first_sound done
  simp only at first_sound
  have root : first.root = min wanted book.root := by
    rcases done with ⟨-, root⟩ | ⟨failed, -⟩
    · exact root
    · cases failed
  have grows := growTo_grows grew
  -- A tree that has grown less than `first` has not come to the wanted bucket.
  have small : ∀ middle, Grows g ceiling book middle → first.root < middle.root → middle.Lacks wanted := by
    intro middle between larger
    have order := between.root_le
    refine (between.sound sound).lacks ?_
    omega
  have reached : first.root ≤ wanted := root.trans_le (Nat.min_le_left _ _)
  rw [search_grown grew reached] at ran
  rcases search_fits first_sound reached le_rfl (fun _ beyond below => absurd below (Nat.not_le.mpr beyond)) ran with
    ⟨fittest, rfl⟩ | ⟨lacks, inner, grown, once, fittest, rfl⟩
  · exact ⟨first, grows, fittest, rfl, small⟩
  · refine ⟨grown, grows.trans (.step inner once (.refl _)), fittest, rfl, fun middle between larger => ?_⟩
    have lower := grow_root once
    rcases Nat.eq_or_lt_of_le (show first.root ≤ middle.root by omega) with same | further
    · rw [between.unique grows same.symm]
      exact lacks
    · exact small middle between further

theorem allocate_fits {request : Nat} {handed : Block} (sound : Sound g book taken)
    (ran : allocate g ceiling request book = (.ok handed, after)) :
    ∃ grown block, Grows g ceiling book grown ∧ grown.Fittest (g.bucketOf request) block ∧
      handed.offset g = block.offset g ∧ after.root = grown.root ∧
      ∀ middle, Grows g ceiling book middle → grown.root < middle.root → middle.Lacks (g.bucketOf request) := by
  rw [allocate] at ran
  rcases searched : search g ceiling (g.bucketOf request) book with ⟨error | _ | popped, middle⟩
  · rw [bind_error searched] at ran
    cases ran
  · rw [bind_ok searched] at ran
    cases ran
  · rw [bind_ok searched] at ran
    obtain ⟨grown, grows, fittest, rfl, least⟩ := search_wanted_fits sound searched
    have order := fittest.nearest.1.1
    have deep := g.bucketOf_le request
    simp only [carve] at ran
    split at ran
    · rename_i more granted
      cases ran
      refine ⟨grown, popped, grows, fittest, leftmost_offset (by omega), ?_, least⟩
      rw [splitDown_root, Book.grant_eq_some granted]
      rfl
    · cases ran

end Plan

/-- When the tree is grown alone until its root lies in a bucket, it has a free block as large as those of the
wanted bucket. -/
def Heap.GrowsRoom (heap : Heap) (wanted root : Nat) : Prop :=
  ∃ growing grown bucket walking found, (growTo root).run heap = (growing, .ok (.ok (), grown)) ∧
    bucket ≤ wanted ∧ (freeBlocks bucket).run grown = (walking, .ok (found, grown)) ∧ found ≠ []

namespace Heap
variable {site : Site} {heap allocated : Heap} {live : List Loan} {request addr : Nat} {events : List Event}

theorem listed_eq_nil {bucket : Nat} : listed site book bucket = [] ↔ book.free bucket = [] := by
  simp [listed, Book.level]

theorem newest_listed {bucket : Nat} (last : book.newest bucket = some block) :
    (listed site book bucket).getLast? = some (site.addressOf block) := by
  obtain ⟨index, found, rfl⟩ := Option.map_eq_some_iff.mp last
  simp [listed, Book.level, found]

theorem Serving.growsRoom_iff (serving : heap.Serving site live book) (deep : wanted ≤ site.geometry.lastBucket)
    {root : Nat} (order : root ≤ book.root) : heap.GrowsRoom wanted root ↔
      ∃ grown, Plan.Grows site.geometry site.window.ceiling book grown ∧ grown.root = root ∧
        ¬ grown.Lacks wanted := by
  have valid : ∀ {bucket}, bucket ≤ wanted → bucket < maxBuckets := fun below => valid_of_deep (below.trans deep)
  constructor
  · rintro ⟨growing, grown, bucket, walking, found, grew, below, walked, listed⟩
    have followed : Op.Returns (Alters (fun _ _ => False) (site.Outside (live.map (Loan.block site))))
        (Heap.growTo root).run heap _ := growTo_returns serving.shows serving.sound root
    obtain ⟨grown_sound, done⟩ := Plan.growTo_sound site.window.ceiling serving.sound root
    obtain ⟨_, _, _, same, -, follows⟩ := followed
    cases grew.symm.trans same
    rcases plan : Plan.growTo site.geometry site.window.ceiling root book with ⟨error | _, more⟩
    · rw [plan] at follows
      cases follows.1
    · rw [plan] at follows grown_sound done
      obtain ⟨_, _, _, same, -, rfl, rfl⟩ :=
        freeBlocks_returns (fun _ _ => False) follows.2 grown_sound (valid below)
      cases walked.symm.trans same
      refine ⟨more, Plan.growTo_grows plan, ?_, fun lacks => listed (listed_eq_nil.mpr (lacks bucket below))⟩
      exact (done.resolve_right nofun).2.trans (Nat.min_eq_left order)
  · rintro ⟨more, grows, rfl, room⟩
    obtain ⟨growing, grown, grew, shows⟩ := serving.grows grows
    simp only [Book.Lacks, not_forall] at room
    obtain ⟨bucket, below, listed⟩ := room
    obtain ⟨walking, _, _, walked, -, rfl, rfl⟩ :=
      freeBlocks_returns (fun _ _ => False) shows (grows.sound serving.sound) (valid below)
    exact ⟨growing, _, bucket, walking, _, grew, below, walked, fun nil => listed (listed_eq_nil.mp nil)⟩

theorem Serving.hands (serving : heap.Serving site live book)
    (ran : (allocate request).run heap = (events, .ok (.ok addr, allocated))) :
    ∃ handed after, Plan.allocate site.geometry site.window.ceiling request book = (.ok handed, after) ∧
      addr = site.addressOf handed + headerSize ∧ allocated.rootBucket = after.root := by
  have small : request + headerSize ≤ site.geometry.maxBlock := by
    by_contra large
    rw [← serving.shows.geometry, Nat.not_le] at large
    cases ran.symm.trans (allocate_tooLarge large)
  obtain ⟨_, _, _, same, -, served⟩ := serving.serves small
  cases ran.symm.trans same
  rcases plan : Plan.allocate site.geometry site.window.ceiling request book with ⟨error | handed, after⟩
  · rw [plan] at served
    cases served.1
  · rw [plan] at served
    obtain ⟨result, handing⟩ := served
    exact ⟨handed, after, rfl, Except.ok.inj result, handing.shows.root⟩

end Heap

namespace Session
variable {geometry : Geometry} {window : Window} {split : BitArray} {session : Session}
variable {request addr : Nat} {allocated : Heap} {events : List Event}

/-- An allocation takes the newest of the smallest free blocks that are large enough, and keeps its left end. Only
when there is none does the tree grow, and no further than until it has one. -/
theorem best_fit (reached : Reached geometry window split session) (ready : session.heap.ready = true)
    (ran : (Heap.allocate request).run session.heap = (events, .ok (.ok addr, allocated))) :
    ∃ free : Nat → List Nat,
      (∀ bucket < maxBuckets, ∃ walking,
        (Heap.freeBlocks bucket).run session.heap = (walking, .ok (free bucket, session.heap))) ∧
      ((∃ bucket, session.heap.rootBucket ≤ bucket ∧ bucket ≤ geometry.bucketOf request ∧ free bucket ≠ []) →
        allocated.rootBucket = session.heap.rootBucket ∧ ∃ bucket block,
          IsGreatest {bucket | session.heap.rootBucket ≤ bucket ∧ bucket ≤ geometry.bucketOf request ∧
            free bucket ≠ []} bucket ∧
          (free bucket).getLast? = some block ∧ addr = block + headerSize) ∧
      ((∀ bucket, session.heap.rootBucket ≤ bucket → bucket ≤ geometry.bucketOf request → free bucket = []) →
        IsGreatest {root | root < session.heap.rootBucket ∧
          session.heap.GrowsRoom (geometry.bucketOf request) root} allocated.rootBucket) := by
  obtain ⟨site, book, rfl, rfl, serving⟩ := reached.stands.serving_of_ready ready
  obtain ⟨handed, after, plan, rfl, root⟩ := serving.hands ran
  obtain ⟨grown, block, grows, fittest, left, same, least⟩ := Plan.allocate_fits serving.sound plan
  refine ⟨Heap.listed site book, fun _ valid => serving.freeBlocks valid, ?_, ?_⟩
  all_goals rw [serving.shows.root, root, same]
  · rintro ⟨bucket, -, order, listed⟩
    have level : grown.root = book.root := by
      refine le_antisymm grows.root_le (Nat.not_lt.mp fun lower => listed ?_)
      exact Heap.listed_eq_nil.mpr (least book (.refl _) lower bucket order)
    obtain rfl := grows.unique (.refl book) level
    refine ⟨rfl, block.bucket, site.addressOf block, ⟨⟨?_, ?_, ?_⟩, ?_⟩, Heap.newest_listed fittest.newest, ?_⟩
    · exact serving.sound.root_le_free (Book.mem_of_newest fittest.newest).1
    · exact fittest.nearest.1.1
    · exact fun nil => fittest.nearest.1.2 (Heap.listed_eq_nil.mp nil)
    · exact fun other ⟨_, below, found⟩ => fittest.nearest.2 ⟨below, fun nil => found (Heap.listed_eq_nil.mpr nil)⟩
    · rw [Site.addressOf, Site.addressOf, left]
  · intro none
    have lacks : book.Lacks (site.geometry.bucketOf request) := by
      intro bucket order
      by_cases low : bucket < book.root
      · exact serving.sound.lacks low bucket le_rfl
      · exact Heap.listed_eq_nil.mp (none bucket (Nat.not_lt.mp low) order)
    have lower : grown.root < book.root := by
      refine lt_of_le_of_ne grows.root_le fun level => fittest.not_lacks ?_
      rwa [grows.unique (.refl book) level]
    have deep := site.geometry.bucketOf_le request
    refine ⟨⟨lower, (serving.growsRoom_iff deep lower.le).mpr ⟨grown, grows, rfl, fittest.not_lacks⟩⟩, ?_⟩
    rintro other ⟨below, room⟩
    obtain ⟨middle, between, rfl, enough⟩ := (serving.growsRoom_iff deep below.le).mp room
    exact Nat.not_lt.mp fun larger => enough (least middle between larger)

/-- With one block of 16 bytes in use, a tree of 32 bytes would not do for 20 bytes and their header. -/
theorem small_grows_to_fit : ∃ session events addr allocated,
    small.follow [.allocate 8] = some session ∧ session.heap.ready = true ∧ session.heap.rootBucket = 2 ∧
    (Heap.allocate 20).run session.heap = (events, .ok (.ok addr, allocated)) ∧
    IsGreatest {root | root < 2 ∧ session.heap.GrowsRoom 1 root} 0 := by
  have wanted : Geometry.small.bucketOf 20 = 1 := by decide +kernel
  have evaluated : (small.follow [.allocate 8]).map (fun session =>
      (session.heap.ready, session.heap.rootBucket, ((Heap.allocate 20).run session.heap).2.toOption.map
        fun answer => (answer.1.toOption, answer.2.rootBucket))) = some (true, 2, some (some 4136, 0)) := by
    decide +kernel
  obtain ⟨session, ended, seen⟩ := Option.map_eq_some_iff.mp evaluated
  simp only [Prod.mk.injEq] at seen
  obtain ⟨ready, root, answered⟩ := seen
  obtain ⟨events, result, allocated, ran, answer⟩ := Op.ran_of_seen answered
  simp only [Prod.mk.injEq] at answer
  cases result with
  | error _ => cases answer.1
  | ok addr =>
    obtain ⟨free, -, -, grown⟩ := best_fit (Reached.start.follow ended) ready ran
    rw [wanted, root, answer.2] at grown
    exact ⟨session, events, addr, allocated, ended, ready, root, ran, grown fun bucket low high => by omega⟩

end Session

end Nucleus.Buddy
