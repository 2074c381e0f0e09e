import Nucleus.Proofs.Buddy.Exhaustion

/-! When a window denies the heap memory. In no session is a reservation denied if the window grants all of the largest
block; if it does not, the request for that block is denied at once. A raw region grants all it has. A buffer has whole
words but grants only the bytes that were asked for, so it may hold the largest block and still deny its last bytes. -/
namespace Nucleus.Buddy.Session
variable {geometry : Geometry} {window : Window} {split : BitArray} {session : Session} {request : Nat}

/-- In no session does an allocation fail because the window refuses memory. -/
def NeverDenied (geometry : Geometry) (window : Window) (split : BitArray) : Prop :=
  ∀ session, Reached geometry window split session → ∀ request events after,
    (Heap.allocate request).run session.heap ≠ (events, .ok (.error .reservationDenied, after))

theorem Good.geometry_eq {splitSize : Nat} (good : Good geometry window splitSize session) :
    session.heap.geometry = geometry := by
  cases good with
  | idle idle => exact idle.geometry
  | serving same_geometry _ _ serving => exact serving.shows.geometry.trans same_geometry

theorem Good.idle_of_short {splitSize : Nat} (good : Good geometry window splitSize session)
    (short : splitSize < geometry.splitBytes) : session.heap.Idle geometry window splitSize := by
  cases good with
  | idle idle => exact idle
  | @serving site heap live book same_geometry _ same_size _ =>
    subst same_geometry same_size
    exact absurd site.splitBytes_le (Nat.not_le.mpr short)

/-- Without storage for the split bits the window is never asked. -/
theorem neverDenied_of_short (fits : window.base + window.capacity < Word.bound)
    (short : split.size < geometry.splitBytes) : NeverDenied geometry window split := by
  intro session reached request events after ran
  have idle := (reached.good fits).idle_of_short short
  by_cases small : session.heap.geometry.maxBlock < request + headerSize
  · cases ran.symm.trans (Heap.allocate_tooLarge small)
  · have few : session.heap.split.size < session.heap.geometry.splitBytes := by
      rwa [idle.splitSize, idle.geometry]
    cases ran.symm.trans (Heap.allocate_unprepared small (Heap.prepare_splitTooSmall idle.ready few))

theorem neverDenied_of_whole (built : window.Built) (fits : window.base + window.capacity < Word.bound)
    (whole : geometry.maxBlock ≤ window.ceiling) : NeverDenied geometry window split := by
  by_cases enough : geometry.splitBytes ≤ split.size
  · intro session reached request events after ran
    by_cases small : request + headerSize ≤ geometry.maxBlock
    · obtain ⟨site, rfl, rfl, -, answered⟩ := reached.answers fits built whole enough small
      rcases (answered.ran ran).complete small whole |>.2 with failed | ⟨addr, handed⟩
      · cases failed
      · cases handed
    · have large : session.heap.geometry.maxBlock < request + headerSize := by
        rw [(reached.good fits).geometry_eq]
        exact Nat.not_le.mp small
      cases ran.symm.trans (Heap.allocate_tooLarge large)
  · exact neverDenied_of_short fits (Nat.not_le.mp enough)

theorem roomFor_maxBlock (geometry : Geometry) :
    geometry.maxBlock - headerSize + headerSize = geometry.maxBlock ∧
      geometry.roomFor (geometry.maxBlock - headerSize) = geometry.maxBlock := by
  have large : linkSize ≤ geometry.maxBlock :=
    (Geometry.linkSize_le_blockSize le_rfl).trans (geometry.blockSize_le_maxBlock _)
  have header : headerSize ≤ linkSize := by decide
  have whole : geometry.maxBlock - headerSize + headerSize = geometry.maxBlock := by omega
  refine ⟨whole, le_antisymm ?_ ?_⟩
  · rw [← Geometry.blockSize_bucketOf whole.le]
    exact geometry.blockSize_le_maxBlock _
  · exact whole.symm.le.trans (geometry.le_roomFor _)

/-- A window that does not grant all of the largest block denies it on a fresh heap. -/
theorem denied_of_partial (fits : window.base + window.capacity < Word.bound)
    (large : geometry.maxBlock ≤ window.capacity) (enough : geometry.splitBytes ≤ split.size)
    (short : window.ceiling < geometry.maxBlock) :
    ∃ events after, (Heap.allocate (geometry.maxBlock - headerSize)).run (Heap.fresh geometry window split) =
      (events, .ok (.error .reservationDenied, after)) := by
  obtain ⟨whole, room⟩ := roomFor_maxBlock geometry
  let site : Site := ⟨geometry, window, split.size, fits, large, enough⟩
  have idle : (Heap.fresh geometry window split).Idle site.geometry site.window site.splitSize :=
    Heap.idle_fresh _ _ _
  by_cases granted : linkSize ≤ site.window.ceiling
  · obtain ⟨events, result, after, ran, -, answers⟩ := idle.allocates whole.le granted
    cases result with
    | ok addr =>
      obtain ⟨book, serving⟩ := answers
      have kept := serving.kept _ List.mem_cons_self
      -- All of the block is granted, and it is as large as the tree can be.
      have size : (Loan.block site ⟨addr, geometry.maxBlock - headerSize⟩).size geometry = geometry.maxBlock :=
        kept.size.trans room
      have within := serving.within
      have top := kept.granted
      rw [Heap.Within, serving.shows.base, serving.shows.ceiling] at within
      rw [Site.addressOf] at top
      change after.highWater ≤ window.base + window.ceiling at within
      change window.base + _ + (Loan.block site _).size geometry ≤ after.highWater at top
      omega
    | error error =>
      obtain ⟨book, serving, ⟨rfl, -⟩ | ⟨-, root, none⟩⟩ := answers
      · exact ⟨events, after, ran⟩
      · obtain ⟨_, member, -⟩ := serving.exhausted whole.le root none 0 (by rw [Nat.zero_add, Nat.one_mul, room])
        cases member
  · obtain ⟨events, ran, -⟩ := idle.refuses (fun _ _ => False) whole.le granted
    exact ⟨events, _, ran⟩

theorem neverDenied_iff (built : window.Built) (fits : window.base + window.capacity < Word.bound)
    (large : geometry.maxBlock ≤ window.capacity) : NeverDenied geometry window split ↔
      geometry.maxBlock ≤ window.ceiling ∨ split.size < geometry.splitBytes := by
  constructor
  · intro never
    by_contra both
    push Not at both
    obtain ⟨events, after, ran⟩ := denied_of_partial fits large both.2 both.1
    exact never _ .start _ _ _ ran
  · rintro (whole | short)
    · exact neverDenied_of_whole built fits whole
    · exact neverDenied_of_short fits short

/-- Over a raw region that is large enough no reservation is ever denied. Over a buffer none is denied exactly if the
bytes it was set up for, not the whole words that hold them, are as many as the largest block has, or if the heap has
too little storage for its split bits and hands out nothing. -/
theorem denied_only_past_the_bytes (geometry : Geometry) (split : BitArray) :
    (∀ base capacity memory, base + capacity < Word.bound → geometry.maxBlock ≤ capacity →
      NeverDenied geometry { Window.raw base capacity with memory } split) ∧
    ∀ base bytes, base + (Window.buffer base bytes).capacity < Word.bound →
      geometry.maxBlock ≤ (Window.buffer base bytes).capacity →
      (NeverDenied geometry (Window.buffer base bytes) split ↔
        geometry.maxBlock ≤ bytes ∨ split.size < geometry.splitBytes) := by
  constructor
  · intro base capacity memory fits large
    exact neverDenied_of_whole (.withMemory memory (.raw base capacity)) fits large
  · intro base bytes fits large
    exact neverDenied_iff (.buffer base bytes) fits large

theorem small_denied_past_57 :
    NeverDenied Geometry.small (Window.raw 4096 64) (BitArray.filled 1 0) ∧
    NeverDenied Geometry.small (Window.buffer 4096 64) (BitArray.filled 1 0) ∧
    ¬ NeverDenied Geometry.small (Window.buffer 4096 57) (BitArray.filled 1 0) := by
  obtain ⟨raw, buffer⟩ := denied_only_past_the_bytes Geometry.small (BitArray.filled 1 0)
  refine ⟨raw 4096 64 _ (by decide) (by decide), ?_, ?_⟩
  · exact (buffer 4096 64 (by decide) (by decide)).mpr (.inl (by decide))
  · rw [buffer 4096 57 (by decide) (by decide)]
    decide

/-- A buffer for 57 bytes has the 64 bytes of the largest block and no limit was set for it, but it denies that block. -/
theorem last_bytes_denied : ∃ events after,
    (Window.buffer 4096 57).capacity = Geometry.small.maxBlock ∧
    4096 + (Window.buffer 4096 57).capacity < Word.bound ∧
    (Heap.allocate 56).run (Heap.fresh Geometry.small (Window.buffer 4096 57) (BitArray.filled 1 0)) =
      (events, .ok (.error .reservationDenied, after)) := by
  have answered : ((Heap.allocate 56).run
      (Heap.fresh Geometry.small (Window.buffer 4096 57) (BitArray.filled 1 0))).2.toOption.map Prod.fst =
        some (.error .reservationDenied) := by decide +kernel
  obtain ⟨events, result, after, ran, rfl⟩ := Op.ran_of_seen answered
  exact ⟨events, after, by decide, by decide, ran⟩

end Nucleus.Buddy.Session
