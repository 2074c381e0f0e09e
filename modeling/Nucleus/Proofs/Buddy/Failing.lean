import Nucleus.Proofs.Buddy.Standing

/-! What an allocation that fails leaves behind. A request that is too large changes nothing. Any other that fails
on a prepared heap leaves what growing the tree alone would have left: a block that was taken off its list goes
back, and its link words and those of its neighbour are as before. A heap that could not be prepared answers later
requests like a fresh one. -/
namespace Nucleus.Buddy

namespace FreeList
variable {list shorter longer : FreeList} {window middle after : Window} {entries : List Nat} {block : Nat}
variable {popping pushing : List Event}

/-- The newest entry is pushed back: the list is as before, and so is every byte. -/
theorem push_popped (room : LinkRoom window entries) (holds : list.Holds window.memory entries)
    (popped : list.pop.run window = (popping, .ok ((some block, shorter), middle)))
    (pushed : (shorter.push block).run middle = (pushing, .ok (longer, after))) :
    longer = list ∧ after = { window with memory := after.memory } ∧
      ∀ addr, after.memory.get addr = window.memory.get addr := by
  obtain ⟨_, ⟨found, rest⟩, _, ran, pop_touches, last, rest_holds⟩ := pop_returns room holds
  cases popped.symm.trans ran
  have last : some block = entries.getLast? := last
  obtain ⟨older, rfl⟩ := List.getLast?_eq_some_iff.mp last.symm
  rw [List.dropLast_concat] at rest_holds
  have room_middle : LinkRoom middle (block :: older) := by
    rw [pop_touches.only_memory]
    exact (room.of_memory _).perm (List.perm_append_singleton _ _)
  have near : ∀ addr, linkWords (block :: older.getLast?.toList) addr → linkWords (older ++ [block]) addr := by
    rintro addr ⟨entry, member, word⟩
    refine ⟨entry, ?_, word⟩
    rcases List.mem_cons.mp member with rfl | member
    · exact List.mem_append_right _ List.mem_cons_self
    · exact List.mem_append_left _ (List.mem_of_getLast? (Option.mem_toList.mp member))
  obtain ⟨_, _, _, back, push_touches, restored⟩ := push_returns room_middle rest_holds near
  cases pushed.symm.trans back
  refine ⟨restored.unique holds, ?_, fun addr => ?_⟩
  · rw [push_touches.only_memory, pop_touches.only_memory]
  · -- The links of the same entries are the same words; outside them neither operation writes.
    by_cases area : linkArea (older ++ [block]) addr
    · exact holds.linked.get_congr restored.linked area
    · have outside := outside_words area
      rw [push_touches.bytes addr outside, pop_touches.bytes addr outside]

end FreeList

namespace Heap
variable {site : Site} {heap grown popped after : Heap} {book : Book} {taken : List Block} {bucket block : Nat}
variable {popping pushing : List Event} {geometry : Geometry} {window : Window} {split : BitArray}

/-- The same heap, byte for byte. -/
structure Same (heap other : Heap) : Prop where
  rest : other = { heap with window := { heap.window with memory := other.window.memory } }
  bytes : ∀ addr, other.window.memory.get addr = heap.window.memory.get addr

theorem Same.refl (heap : Heap) : heap.Same heap := ⟨rfl, fun _ => rfl⟩

theorem Shows.push_popped (shows : heap.Shows site book book.mark) (sound : Sound site.geometry book taken)
    (pops : (pop bucket).run heap = (popping, .ok (some block, popped)))
    (pushes : (push bucket block).run popped = (pushing, .ok ((), after))) : heap.Same after := by
  obtain ⟨valid, shorter, middle, acted, rfl⟩ := onList_ran pops
  obtain ⟨_, longer, last, pushed, rfl⟩ := onList_ran pushes
  obtain ⟨_, _, _, _, back, ends⟩ := Op.bind_ran pushed
  cases ends
  simp only [Vector.getElem_set_self] at back
  obtain ⟨rfl, place, bytes⟩ :=
    FreeList.push_popped (level_linkRoom shows sound bucket) (shows.lists bucket valid) acted back
  constructor
  case rest =>
    rw [Vector.set_set, Vector.set_getElem_self]
    simp only [Heap.mk.injEq, true_and, and_true]
    exact place
  case bytes => exact bytes

/-- What a failed allocation leaves of a prepared heap: the heap that growing the tree alone leads to. When the tree
has not grown, that is the heap before. -/
structure Regrown (heap after : Heap) : Prop where
  grown : ∃ events grown, (growTo after.rootBucket).run heap = (events, .ok (.ok (), grown)) ∧ grown.Same after
  unchanged : after.rootBucket = heap.rootBucket → heap.Same after

theorem Grows.regrown (grows : Grows heap grown) (same : grown.Same after) : heap.Regrown after := by
  obtain ⟨events, ran⟩ := grows.growTo
  have level : after.rootBucket = grown.rootBucket := by rw [same.rest]
  rw [← level] at ran
  constructor
  case grown => exact ⟨events, grown, ran, same⟩
  case unchanged =>
    intro still
    cases ran.symm.trans (growTo_root still)
    exact same

theorem Grows.shows (grows : Grows heap grown) (shows : heap.Shows site book book.mark)
    (sound : Sound site.geometry book taken) :
    ∃ more : Book, grown.Shows site more more.mark ∧ Sound site.geometry more taken := by
  obtain ⟨_, ran⟩ := grows.growTo
  have followed : Op.Returns (Alters (fun _ _ => False) (site.Outside taken))
      (Heap.growTo grown.rootBucket).run heap _ :=
    growTo_returns shows sound grown.rootBucket
  obtain ⟨_, result, after, same, -, follows⟩ := followed
  cases ran.symm.trans same
  have more_sound := (Plan.growTo_sound site.window.ceiling sound grown.rootBucket).1
  rcases planned : Plan.growTo site.geometry site.window.ceiling grown.rootBucket book with ⟨error | _, more⟩
  · rw [planned] at follows
    cases follows.1
  · rw [planned] at follows more_sound
    exact ⟨more, follows.2, more_sound⟩

/-- A heap whose preparation failed, and which started so: nothing is listed, nothing was reserved or written, and
every request is answered as at the start. -/
structure Unprepared (start heap : Heap) : Prop where
  ready : heap.ready = false
  window : heap.window = start.window
  free : ∀ bucket < maxBuckets, (freeBlocks bucket).run heap = ([], .ok ([], heap))
  later : ∀ request, if start.geometry.maxBlock < request + headerSize then
      (allocate request).run heap = ([], .ok (.error .requestTooLarge, heap)) ∧
      (allocate request).run start = ([], .ok (.error .requestTooLarge, start))
    else (allocate request).run heap = (allocate request).run start

theorem Untouched.unprepared (untouched : heap.Untouched geometry window split) :
    (Heap.fresh geometry window split).Unprepared heap := by
  have idle := untouched.idle
  constructor
  case ready => exact idle.ready
  case window => exact idle.window
  case free => exact fun bucket valid => idle.walks valid
  case later =>
    intro request
    split
    · rename_i large
      exact ⟨allocate_tooLarge (idle.geometry ▸ large), allocate_tooLarge large⟩
    · rename_i small
      cases untouched with
      | fresh => rfl
      | cleared preparable => exact (preparable.allocate_cleared rfl (Nat.not_lt.mp small)).symm

end Heap

namespace Session
variable {geometry : Geometry} {window : Window} {split : BitArray} {session : Session} {prepared after : Heap}
variable {request : Nat} {error : AllocError} {events : List Event}

theorem Stands.prepares (stands : Stands geometry window split session)
    (ran : Heap.prepare.run session.heap = (events, .ok (.ok (), prepared))) :
    ∃ (site : Site) (book : Book) (taken : List Block),
      prepared.Shows site book book.mark ∧ Sound site.geometry book taken := by
  cases stands with
  | @serving site heap live book same_geometry same_window serving =>
    cases ran.symm.trans (Heap.prepare_ready serving.ready)
    exact ⟨site, book, _, serving.shows, serving.sound⟩
  | @idle heap untouched =>
    have idle := untouched.idle
    obtain ⟨preparable, fits⟩ := (Heap.prepare_gives idle.ready).ran ran
    obtain ⟨site, rfl, rfl, size⟩ := untouched.site preparable fits
    rw [← size] at idle
    obtain ⟨_, result, last, same, -, ends⟩ := Heap.prepare_returns (fun _ _ => False) idle
    rw [preparable.prepare_cleared idle.ready] at ran
    cases ran.symm.trans same
    split at ends
    · exact ⟨site, Book.start site.geometry, [], ends.2.2, Sound.start _⟩
    · cases ends.1

theorem Stands.fails (stands : Stands geometry window split session)
    (ran : (Heap.allocate request).run session.heap = (events, .ok (.error error, after))) :
    error = .requestTooLarge ∧ after = session.heap ∨
    error ≠ .requestTooLarge ∧
      ((∃ preparing prepared, Heap.prepare.run session.heap = (preparing, .ok (.ok (), prepared)) ∧
          prepared.Regrown after) ∨
        (∃ preparing, Heap.prepare.run session.heap = (preparing, .ok (.error error, after))) ∧
          (Heap.fresh geometry window split).Unprepared after) := by
  cases (Heap.allocate_attempts request).ran ran with
  | tooLarge _ => exact .inl ⟨rfl, rfl⟩
  | refused prepares other grows =>
    exact .inr ⟨other, .inl ⟨_, _, prepares, grows.regrown (.refl after)⟩⟩
  | putBack prepares grows pops pushes =>
    obtain ⟨site, book, taken, shows, sound⟩ := stands.prepares prepares
    obtain ⟨more, grown_shows, grown_sound⟩ := grows.shows shows sound
    have same := grown_shows.push_popped grown_sound pops pushes
    exact .inr ⟨nofun, .inl ⟨_, _, prepares, grows.regrown same⟩⟩
  | unprepared _ failed =>
    cases stands with
    | serving _ _ serving => cases failed.symm.trans (Heap.prepare_ready serving.ready)
    | idle untouched =>
      obtain ⟨other, ends⟩ := (Heap.prepare_gives untouched.idle.ready).ran failed
      refine .inr ⟨other, .inr ⟨⟨_, failed⟩, ?_⟩⟩
      rcases ends with rfl | ⟨preparable, rfl⟩
      · exact untouched.unprepared
      · exact (untouched.clear preparable).unprepared

/-- A failed allocation loses nothing. A request that is too large changes nothing. After any other failure the
tree may have grown, on a heap that is prepared or was prepared in the course of the request; else nothing has
changed. Where preparing failed, the heap goes on as if it were fresh. -/
theorem failure_loses_nothing (reached : Reached geometry window split session)
    (ran : (Heap.allocate request).run session.heap = (events, .ok (.error error, after))) :
    (error = .requestTooLarge → after = session.heap) ∧
    (error ≠ .requestTooLarge → session.heap.ready = true → session.heap.Regrown after) ∧
    (error ≠ .requestTooLarge → session.heap.ready = false →
      (∃ preparing prepared, Heap.prepare.run session.heap = (preparing, .ok (.ok (), prepared)) ∧
          prepared.Regrown after) ∨
        (∃ preparing, Heap.prepare.run session.heap = (preparing, .ok (.error error, after))) ∧
          (Heap.fresh geometry window split).Unprepared after) := by
  rcases reached.stands.fails ran with ⟨rfl, same⟩ | ⟨other, ends⟩
  · exact ⟨fun _ => same, fun other => absurd rfl other, fun other => absurd rfl other⟩
  refine ⟨fun large => absurd large other, fun _ ready => ?_, fun _ _ => ends⟩
  rcases ends with ⟨_, prepared, prepares, regrown⟩ | ⟨⟨_, failed⟩, -⟩
  · cases prepares.symm.trans (Heap.prepare_ready ready)
    exact regrown
  · cases failed.symm.trans (Heap.prepare_ready ready)

def tight : Session :=
  ⟨Heap.fresh Geometry.small ((Window.buffer 4096 64).withLimit 50) (BitArray.filled 1 0), []⟩

/-- The tree grows to the whole window, a block of 32 bytes is taken off its list, and the last of its bytes are
denied. -/
theorem tight_regrown : ∃ session events after,
    tight.follow [.allocate 8] = some session ∧ session.heap.ready = true ∧ session.heap.rootBucket = 2 ∧
    (Heap.allocate 20).run session.heap = (events, .ok (.error .reservationDenied, after)) ∧
    after.rootBucket = 0 ∧ session.heap.Regrown after := by
  have evaluated : (tight.follow [.allocate 8]).map (fun session =>
      (session.heap.ready, session.heap.rootBucket, ((Heap.allocate 20).run session.heap).2.toOption.map
        fun answer => (answer.1, answer.2.rootBucket))) =
          some (true, 2, some (.error .reservationDenied, 0)) := by
    decide +kernel
  obtain ⟨session, ended, seen⟩ := Option.map_eq_some_iff.mp evaluated
  simp only [Prod.mk.injEq, Option.map_eq_some_iff] at seen
  obtain ⟨ready, root, ⟨result, after⟩, answered, rfl, level⟩ := seen
  rcases ran : (Heap.allocate 20).run session.heap with ⟨events, fault | answer⟩
  · rw [ran] at answered
    cases answered
  · rw [ran] at answered
    cases answered
    have reached : Reached Geometry.small ((Window.buffer 4096 64).withLimit 50) (BitArray.filled 1 0) session :=
      Reached.start.follow ended
    obtain ⟨-, regrown, -⟩ := failure_loses_nothing reached ran
    exact ⟨session, events, after, ended, ready, root, ran, level, regrown nofun ready⟩

end Session

end Nucleus.Buddy
