import Nucleus.Proofs.Buddy.Standing

/-! Giving back what was just handed out. Joining up retraces the halving level by level and ends at the block
that was taken off a list; that block was the newest of its list, and is again. What stays is how far the tree
has grown. -/
namespace Nucleus.Buddy
variable {g : Geometry} {ceiling : Nat} {book middle after : Book} {taken : List Block} {block : Block}

namespace Book

theorem drop_push (fresh : block ∉ book) : (book.push block).drop block = book := by
  have rest : (book.free block.bucket ++ [block.index]).erase block.index = book.free block.bucket := by
    rw [List.erase_append_right _ fresh, List.erase_cons_head, List.append_nil]
  simp only [drop, push, Function.update_self, Function.update_idem, rest, Function.update_eq_self]

/-- The newest block is the newest again when it comes back. -/
theorem push_drop_newest {bucket : Nat} (nodup : (book.free bucket).Nodup) (last : book.newest bucket = some block) :
    (book.drop block).push block = book := by
  obtain ⟨index, found, rfl⟩ := Option.map_eq_some_iff.mp last
  obtain ⟨older, level⟩ := List.getLast?_eq_some_iff.mp found
  let rest : Book := { book with free := Function.update book.free bucket older }
  have whole : rest.push ⟨bucket, index⟩ = book := by
    simp only [rest, push, Function.update_self, Function.update_idem, ← level, Function.update_eq_self]
  have fresh : (⟨bucket, index⟩ : Block) ∉ rest := by
    intro member
    have listed : index ∈ older := by simpa only [rest, Membership.mem, Function.update_self] using member
    rw [level] at nodup
    exact (List.nodup_append.mp nodup).2.2 index listed index List.mem_cons_self rfl
  rw [← whole, drop_push fresh]

end Book

namespace Plan

/-- The tree of a book has grown a number of times. -/
inductive Grows (g : Geometry) (ceiling : Nat) : Book → Book → Prop
  | refl (book : Book) : Grows g ceiling book book
  | step {book middle after : Book} : book.root ≠ 0 → grow g ceiling book = (.ok (), middle) →
      Grows g ceiling middle after → Grows g ceiling book after

theorem grow_root (ran : grow g ceiling book = (.ok (), middle)) : middle.root = book.root - 1 := by
  rcases grow_cases g ceiling book with ⟨-, grew⟩ | ⟨-, more, granted, grew⟩ | ⟨-, -, grew⟩
  · cases ran.symm.trans grew
    rfl
  · cases ran.symm.trans grew
    rw [Book.grant_eq_some granted]
    rfl
  · cases ran.symm.trans grew

namespace Grows

theorem trans (first : Grows g ceiling book middle) (rest : Grows g ceiling middle after) :
    Grows g ceiling book after := by
  induction first with
  | refl => exact rest
  | step inner once _ ih => exact .step inner once (ih rest)

theorem root_le (grows : Grows g ceiling book after) : after.root ≤ book.root := by
  induction grows with
  | refl => exact le_rfl
  | step _ once _ ih =>
    have lower := grow_root once
    omega

theorem sound (grows : Grows g ceiling book after) (before : Sound g book taken) : Sound g after taken := by
  induction grows with
  | refl => exact before
  | step inner once _ ih =>
    have grown := (grow_sound ceiling before inner).1
    rw [once] at grown
    exact ih grown

/-- Growing alone to where the root has come leads to the same book. -/
theorem growTo (grows : Grows g ceiling book after) : Plan.growTo g ceiling after.root book = (.ok (), after) := by
  change growTimes g ceiling (book.root - after.root) book = _
  induction grows with
  | refl book =>
    rw [Nat.sub_self]
    rfl
  | @step book middle after inner once grows ih =>
    have lower := grow_root once
    have order := grows.root_le
    rw [show book.root - after.root = middle.root - after.root + 1 by omega, growTimes, bind_ok once, ih]

end Grows

theorem growTimes_grows {times : Nat} (inner : times ≤ book.root)
    (ran : growTimes g ceiling times book = (.ok (), after)) : Grows g ceiling book after := by
  induction times generalizing book with
  | zero =>
    cases ran
    exact .refl _
  | succ times ih =>
    rw [growTimes] at ran
    rcases once : grow g ceiling book with ⟨error | _, middle⟩
    · rw [bind_error once] at ran
      cases ran
    · rw [bind_ok once] at ran
      have lower := grow_root once
      exact .step (by omega) once (ih (by omega) ran)

theorem growTo_grows {bucket : Nat} (ran : growTo g ceiling bucket book = (.ok (), after)) :
    Grows g ceiling book after := growTimes_grows (Nat.sub_le _ _) ran

/-- After the tree has grown some times, the newest block of a bucket was taken off its list. -/
def Pops (g : Geometry) (ceiling : Nat) (book : Book) (block : Block) (after : Book) : Prop :=
  ∃ grown, Grows g ceiling book grown ∧ grown.newest block.bucket = some block ∧ after = grown.drop block

theorem Pops.of_newest {grown : Book} {bucket : Nat} (grows : Grows g ceiling book grown)
    (newest : grown.newest bucket = some block) : Pops g ceiling book block (grown.drop block) := by
  obtain ⟨-, rfl⟩ := Book.mem_of_newest newest
  exact ⟨grown, grows, newest, rfl⟩

theorem Pops.of_grows (first : Grows g ceiling book middle) (pops : Pops g ceiling middle block after) :
    Pops g ceiling book block after := by
  obtain ⟨grown, grows, rest⟩ := pops
  exact ⟨grown, first.trans grows, rest⟩

theorem take_grows {bucket : Nat} {found : Option Block}
    (ran : take g ceiling bucket book = (.ok found, after)) :
    ∃ grown, Grows g ceiling book grown ∧ found = grown.newest bucket ∧ after = grown.dropNewest bucket := by
  rcases grew : growTo g ceiling bucket book with ⟨error | _, grown⟩
  · rw [take, bind_error grew] at ran
    cases ran
  · cases ran.symm.trans (take_eq grew)
    exact ⟨grown, growTo_grows grew, rfl, rfl⟩

theorem take_pops {bucket : Nat} (ran : take g ceiling bucket book = (.ok (some block), after)) :
    Pops g ceiling book block after := by
  obtain ⟨grown, grows, newest, rfl⟩ := take_grows ran
  simp only [Book.dropNewest, ← newest]
  exact .of_newest grows newest.symm

theorem take_none_grows {bucket : Nat} (ran : take g ceiling bucket book = (.ok none, after)) :
    Grows g ceiling book after := by
  obtain ⟨grown, grows, newest, rfl⟩ := take_grows ran
  simpa only [Book.dropNewest, ← newest] using grows

theorem takeBeside_pops {bucket above : Nat}
    (ran : takeBeside g ceiling bucket above book = (.ok block, after)) : Pops g ceiling book block after := by
  rcases grew : growTo g ceiling above book with ⟨error | _, grown⟩
  · rw [takeBeside, bind_error grew] at ran
    cases ran
  · rw [takeBeside, bind_ok grew] at ran
    cases newest : grown.newest bucket with
    | none => simp [pop, newest, Bind.bind, fail] at ran
    | some popped =>
      simp only [pop, newest, Book.dropNewest, Bind.bind, Pure.pure, Prod.mk.injEq, Except.ok.injEq] at ran
      obtain ⟨rfl, rfl⟩ := ran
      exact .of_newest (growTo_grows grew) newest

/-- A search that finds a block has grown the tree, and has changed nothing else before it takes the block. -/
theorem search_pops {bucket : Nat} (ran : search g ceiling bucket book = (.ok (some block), after)) :
    Pops g ceiling book block after := by
  induction bucket generalizing book with
  | zero => exact take_pops ran
  | succ above ih =>
    rw [search] at ran
    rcases found : take g ceiling (above + 1) book with ⟨error | _ | popped, grown⟩
    · rw [bind_error found] at ran
      cases ran
    · rw [bind_ok found] at ran
      simp only [bind_ok (read_ok grown)] at ran
      -- The list of this bucket is empty: the block comes from what growing once more adds, or from above.
      have grows := take_none_grows found
      split at ran
      · rcases beside : takeBeside g ceiling (above + 1) above grown with ⟨error | popped, last⟩
        · rw [bind_error beside] at ran
          cases ran
        · rw [bind_ok beside] at ran
          cases ran
          exact (takeBeside_pops beside).of_grows grows
      · exact (ih ran).of_grows grows
    · rw [bind_ok found] at ran
      cases ran
      exact take_pops found

/-- Joining up takes every right half back in that halving has freed. -/
theorem joinUp_splitDown {times : Nat} (sound : Sound g book (block :: taken))
    (deep : block.bucket + times ≤ g.lastBucket)
    (linked : times ≠ 0 → block.offset g + block.size g / 2 + linkSize ≤ book.granted) :
    joinUp (leftmost times block).bucket (leftmost times block).index (splitDown times block book) =
      joinUp block.bucket block.index book := by
  induction times generalizing block book with
  | zero => rfl
  | succ times ih =>
    have inner : block.bucket < g.lastBucket := by omega
    have linked := linked (Nat.succ_ne_zero _)
    have fresh : block.right ∉ book :=
      (sound.halve inner).not_mem_of_taken (List.mem_cons_of_mem _ List.mem_cons_self)
    have free : block.left.buddy ∈ book.push block.right := by
      rw [Block.buddy_left]
      exact Book.mem_push.mpr (.inl rfl)
    -- The left half is joined up to the block first; then its buddy, the right half, is there to be joined.
    rw [leftmost, splitDown, ih (sound_split sound inner linked) (by simp only [Block.left]; omega) fun _ =>
      left_linked inner linked]
    change joinUp (block.bucket + 1) (2 * block.index) _ = _
    change (⟨block.bucket + 1, 2 * block.index⟩ : Block).buddy ∈ book.push block.right at free
    rw [joinUp, if_pos free, show 2 * block.index / 2 = block.index by omega]
    have right : (⟨block.bucket + 1, 2 * block.index⟩ : Block).buddy = block.right := Block.buddy_left
    rw [right, Book.drop_push fresh]

theorem release_alone (alone : block.buddy ∉ book) : release block book = book.push block := by
  obtain ⟨bucket, index⟩ := block
  cases bucket with
  | zero => rfl
  | succ above => simp only [release, joinUp, if_neg alone]

/-- Giving back what was carved from a block frees the whole block. -/
theorem release_carved {wanted : Nat} {more : Book} (sound : Sound g book (block :: taken))
    (order : block.bucket ≤ wanted) (deep : wanted ≤ g.lastBucket) (alone : block.buddy ∉ book)
    (granted : book.grant ceiling (block.offset g + touched g wanted block) = some more) :
    release (leftmost (wanted - block.bucket) block) (splitDown (wanted - block.bucket) block more) =
      more.push block := by
  have same := Book.grant_eq_some granted
  have enough : block.offset g + touched g wanted block ≤ more.granted := by
    rw [same]
    exact Nat.le_max_right _ _
  have joined : joinUp (leftmost (wanted - block.bucket) block).bucket _ _ = joinUp block.bucket block.index more :=
    joinUp_splitDown (sound_grant sound granted (touched_le sound deep)) (by omega)
      fun inner => (touched_linked inner).trans_le enough
  have still_alone : block.buddy ∉ more := by
    rw [same]
    exact alone
  rw [release, joined, ← release, release_alone still_alone]

/-- Giving a block back that was just handed out leaves the tree as growing alone would have left it. Only more
memory is granted than before. -/
theorem release_allocate {request : Nat} (sound : Sound g book taken)
    (ran : allocate g ceiling request book = (.ok block, after)) :
    ∃ grown, Grows g ceiling book grown ∧ after.root = grown.root ∧
      release block after = { grown with granted := after.granted } := by
  have found := search_wanted_found ceiling (g.bucketOf request) sound
  rw [allocate] at ran
  rcases searched : search g ceiling (g.bucketOf request) book with ⟨error | _ | popped, middle⟩
  · rw [bind_error searched] at ran
    cases ran
  · rw [bind_ok searched] at ran
    cases ran
  · rw [searched] at found
    rw [bind_ok searched] at ran
    obtain ⟨carved, order, -, alone⟩ := found
    obtain ⟨grown, grows, newest, rfl⟩ := search_pops searched
    have back := Book.push_drop_newest ((grows.sound sound).nodup_free _) newest
    simp only [carve] at ran
    split at ran
    · rename_i more granted
      cases ran
      have whole := release_carved carved order (g.bucketOf_le request) alone granted
      have same := Book.grant_eq_some granted
      have pushed : more.push popped = { (grown.drop popped).push popped with granted := more.granted } := by
        rw [same]
        rfl
      rw [back] at pushed
      refine ⟨grown, grows, ?_, ?_⟩
      · rw [splitDown_root, same]
        rfl
      · rw [whole, pushed, splitDown_granted]
    · cases ran

end Plan

/-- Two heaps with the same tree: its root, its split bits and its free lists in their order. -/
structure Heap.SameTree (heap other : Heap) : Prop where
  root : other.rootBucket = heap.rootBucket
  split : other.split.bytes = heap.split.bytes
  free : ∀ bucket < maxBuckets, ∃ events more found,
    (Heap.freeBlocks bucket).run heap = (events, .ok (found, heap)) ∧
    (Heap.freeBlocks bucket).run other = (more, .ok (found, other))

theorem Heap.SameTree.of_shows {site : Site} {heap other : Heap} {granted : Nat} {others : List Block}
    (shows : heap.Shows site book book.mark) (sound : Sound site.geometry book taken)
    (other_shows : other.Shows site { book with granted } ({ book with granted } : Book).mark)
    (other_sound : Sound site.geometry { book with granted } others) : heap.SameTree other := by
  constructor
  case root => exact other_shows.root.trans shows.root.symm
  case split =>
    have marks : ({ book with granted } : Book).mark = book.mark := Book.mark_congr rfl fun _ => Iff.rfl
    rw [marks] at other_shows
    exact shows.split_eq other_shows rfl
  case free =>
    intro bucket valid
    obtain ⟨events, _, _, walked, -, rfl, rfl⟩ := freeBlocks_returns (fun _ _ => False) shows sound valid
    obtain ⟨more, _, _, other_walked, -, rfl, rfl⟩ :=
      freeBlocks_returns (fun _ _ => False) other_shows other_sound valid
    exact ⟨events, more, _, walked, other_walked⟩

namespace Heap.Serving
variable {site : Site} {heap allocated : Heap} {live : List Loan} {request addr : Nat} {events : List Event}

theorem grows (serving : heap.Serving site live book)
    (plan : Plan.Grows site.geometry site.window.ceiling book after) :
    ∃ events grown, (Heap.growTo after.root).run heap = (events, .ok (.ok (), grown)) ∧
      grown.Shows site after after.mark := by
  have followed : Op.Returns (Alters (fun _ _ => False) (site.Outside (live.map (Loan.block site))))
      (Heap.growTo after.root).run heap _ := growTo_returns serving.shows serving.sound after.root
  rw [plan.growTo] at followed
  obtain ⟨events, _, grown, ran, -, rfl, shows⟩ := followed
  exact ⟨events, grown, ran, shows⟩

/-- The heap from which a payload is taken back right away shows the book of a tree that has grown, with more
memory granted. -/
theorem releases_allocated (serving : heap.Serving site live book)
    (ran : (allocate request).run heap = (events, .ok (.ok addr, allocated))) :
    ∃ grown, Plan.Grows site.geometry site.window.ceiling book grown ∧ allocated.rootBucket = grown.root ∧
      ∃ releasing released granted, (release addr).run allocated = (releasing, .ok ((), released)) ∧
        released.Serving site live { grown with granted } := by
  have small : request + headerSize ≤ site.geometry.maxBlock := by
    by_contra large
    rw [← serving.shows.geometry, Nat.not_le] at large
    cases ran.symm.trans (allocate_tooLarge large)
  obtain ⟨_, _, _, same, -, served⟩ := serving.serves small
  cases ran.symm.trans same
  have handed := Plan.allocate_allocated site.window.ceiling request serving.sound
  rcases plan : Plan.allocate site.geometry site.window.ceiling request book with ⟨error | block, more⟩
  · rw [plan] at served
    cases served.1
  · rw [plan] at served handed
    obtain ⟨result, allocated_serving⟩ := served
    cases result
    obtain ⟨grown, grows, root, undone⟩ := Plan.release_allocate serving.sound plan
    obtain ⟨releasing, _, released, freed, -, released_serving⟩ :=
      allocated_serving.releases fun _ _ => False
    rw [Loan.block_eq small handed.2.1, undone] at released_serving
    exact ⟨grown, grows, allocated_serving.shows.root.trans root, releasing, released, _, freed, released_serving⟩

end Heap.Serving

namespace Session
variable {geometry : Geometry} {window : Window} {split : BitArray} {session : Session}
variable {request addr : Nat} {allocated : Heap} {events : List Event}

/-- Releasing a payload that was just handed out leads to the tree that growing alone leads to. When the tree has
not grown that is the tree before. -/
theorem release_undoes_allocate (reached : Reached geometry window split session)
    (ready : session.heap.ready = true)
    (ran : (Heap.allocate request).run session.heap = (events, .ok (.ok addr, allocated))) :
    ∃ growing grown releasing released,
      (Heap.growTo allocated.rootBucket).run session.heap = (growing, .ok (.ok (), grown)) ∧
      (Heap.release addr).run allocated = (releasing, .ok ((), released)) ∧
      released.rootBucket = allocated.rootBucket ∧ grown.SameTree released ∧
      (allocated.rootBucket = session.heap.rootBucket → grown = session.heap) := by
  obtain ⟨site, book, rfl, rfl, serving⟩ := reached.stands.serving_of_ready ready
  obtain ⟨more, grows, root, releasing, released, granted, freed, released_serving⟩ :=
    serving.releases_allocated ran
  obtain ⟨growing, grown, grew, shows⟩ := serving.grows grows
  rw [← root] at grew
  refine ⟨growing, grown, releasing, released, grew, freed, ?_, ?_, ?_⟩
  · exact released_serving.shows.root.trans root.symm
  · exact .of_shows shows (grows.sound serving.sound) released_serving.shows released_serving.sound
  · intro level
    cases grew.symm.trans (Heap.growTo_root level)
    rfl

/-- A request for which the tree grows from its smallest block to the whole window. -/
theorem small_undoes_growth : ∃ session events addr allocated,
    small.follow [.allocate 8] = some session ∧ session.heap.ready = true ∧ session.heap.rootBucket = 2 ∧
    (Heap.allocate 20).run session.heap = (events, .ok (.ok addr, allocated)) ∧ allocated.rootBucket = 0 ∧
    ∃ growing grown releasing released,
      (Heap.growTo allocated.rootBucket).run session.heap = (growing, .ok (.ok (), grown)) ∧
      (Heap.release addr).run allocated = (releasing, .ok ((), released)) ∧
      released.rootBucket = allocated.rootBucket ∧ grown.SameTree released := by
  have evaluated : (small.follow [.allocate 8]).map (fun session =>
      (session.heap.ready, session.heap.rootBucket, ((Heap.allocate 20).run session.heap).2.toOption.map
        fun answer => (answer.1.toOption, answer.2.rootBucket))) = some (true, 2, some (some 4136, 0)) := by
    decide +kernel
  obtain ⟨session, ended, seen⟩ := Option.map_eq_some_iff.mp evaluated
  simp only [Prod.mk.injEq, Option.map_eq_some_iff] at seen
  obtain ⟨ready, root, ⟨result, allocated⟩, answered, addr, level⟩ := seen
  rcases ran : (Heap.allocate 20).run session.heap with ⟨events, fault | ⟨error | handed, after⟩⟩
  · rw [ran] at answered
    cases answered
  · rw [ran] at answered
    cases answered
    cases addr
  · rw [ran] at answered
    cases answered
    have reached : Reached Geometry.small (Window.raw 4096 64) (BitArray.filled 1 0) session :=
      Reached.start.follow ended
    obtain ⟨growing, grown, releasing, released, grew, freed, lower, same, -⟩ :=
      release_undoes_allocate reached ready ran
    exact ⟨session, events, handed, allocated, ended, ready, root, ran, level, growing, grown, releasing, released,
      grew, freed, lower, same⟩

end Session

end Nucleus.Buddy
