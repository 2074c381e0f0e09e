import Nucleus.Proofs.Buddy.Shows

/-! The single steps of a heap operation: each returns, and the heap then shows the changed book or the
changed split bits. -/
namespace Nucleus.Buddy.Heap
variable {site : Site} {heap after : Heap} {book : Book} {marks : Block → Bool}
variable {block : Block} {taken others : List Block} {region words : Nat → Prop} {bucket top : Nat}
variable {header : Nat → Nat → Prop}

theorem onList_returns {α : Type} {act : FreeList → Op Window (α × FreeList)}
    (header : Nat → Nat → Prop) (known : ListAct act)
    (valid : bucket < maxBuckets) (granted : ∀ addr, words addr → addr + 8 ≤ heap.highWater)
    {post : α × FreeList → Window → Prop}
    (links : ∀ value list memory, post (value, list) { heap.window with memory } → ∀ addr, words addr →
      LinksFree heap { heap with
        lists := heap.lists.set bucket list, window := { heap.window with memory } } addr)
    (returns : Op.Returns (Window.Touches words) (act heap.lists[bucket]) heap.window post) :
    Op.Returns (Alters header fun addr => ∃ word, words word ∧ word ≤ addr ∧ addr < word + 8)
      (onList bucket act) heap fun value after => ∃ list memory,
        after = { heap with
          lists := heap.lists.set bucket list, window := { heap.window with memory } } ∧
        (∀ addr, (∀ word, words word → addr < word ∨ word + 8 ≤ addr) →
          memory.get addr = heap.window.memory.get addr) ∧
        post (value, list) { heap.window with memory } := by
  obtain ⟨events, ⟨value, list⟩, window, ran, touches, holds⟩ := returns
  obtain ⟨memory, rfl⟩ : ∃ memory, window = { heap.window with memory } := ⟨_, touches.only_memory⟩
  have whole : (onList bucket act).run heap = (events, .ok (value, { heap with
      lists := heap.lists.set bucket list, window := { heap.window with memory } })) := by
    have ran : act heap.lists[bucket] heap.window = _ := ran
    simp only [onList, Op.run, dif_pos valid, ran]
  have stored : ∀ addr value, .stored addr value ∈ events → words addr := fun _ _ member =>
    touches.within _ member
  refine ⟨events, value, _, whole, ⟨id, ?_, ?_, ?_, Event.below_of_within granted touches.within,
    Nat.le_refl _, id, ?_⟩, list, memory, rfl, touches.bytes, holds⟩
  · intro addr outside
    refine touches.bytes addr fun word touched => ?_
    by_contra inside
    exact outside ⟨word, touched, by omega⟩
  · intro addr value member i inside
    exact ⟨addr, stored addr value member, by omega⟩
  · exact (Step.list known whole fun addr value member =>
      links _ _ _ holds addr (stored addr value member)).writes
  · intro line member
    exact (touches.within _ member).elim

theorem links_granted {touched : List Block} (shows : heap.Shows site book marks)
    (linked : ∀ block ∈ touched, block.offset site.geometry + linkSize ≤ book.granted) (addr : Nat)
    (word : linkWords (touched.map site.addressOf) addr) : addr + 8 ≤ heap.highWater := by
  obtain ⟨_, mapped, within⟩ := word
  obtain ⟨block, member, rfl⟩ := List.mem_map.mp mapped
  have top := linked block member
  have size : linkSize = 16 := rfl
  rw [shows.granted]
  unfold Site.addressOf at within
  omega

/-- The entries of the list of a bucket are free. -/
theorem Shows.linksFree {after : Heap} (shows : heap.Shows site book marks) (valid : bucket < maxBuckets)
    {addr : Nat} (word : linkWords (listed site book bucket) addr) : LinksFree heap after addr := by
  obtain ⟨start, member, within⟩ := word
  exact ⟨start, .inl ⟨bucket, valid, _, shows.lists bucket valid, member⟩, within⟩

/-- A list operation that touches blocks of its own bucket only. The tree may be about to grow, so the
root of the sound book is any. -/
theorem onList_shows {α : Type} {act : FreeList → Op Window (α × FreeList)} {touched : List Block}
    (known : ListAct act) (changed : Book) (post : α → Prop) (shows : heap.Shows site book marks)
    (sound : Sound site.geometry { book with root := top } others)
    (valid : bucket < maxBuckets) (level : ∀ block ∈ touched, block.bucket = bucket)
    (members : ∀ block ∈ touched, block ∈ book ∨ block ∈ others)
    (linked : ∀ block ∈ touched, block.offset site.geometry + linkSize ≤ book.granted)
    (apart : ∀ block ∈ touched, ∀ other ∈ taken, block.Apart site.geometry other)
    (root : changed.root = book.root) (granted : changed.granted = book.granted)
    (entries : ∀ block ∈ touched, block ∈ book.level bucket ∨ block ∈ changed.level bucket)
    (free : ∀ other, other ≠ bucket → changed.free other = book.free other)
    (returns : Op.Returns (Window.Touches (linkWords (touched.map site.addressOf)))
      (act heap.lists[bucket]) heap.window fun result window =>
        post result.1 ∧ result.2.Holds window.memory (listed site changed bucket)) :
    Op.Returns (Alters header (site.Outside taken)) (onList bucket act) heap fun value after =>
      post value ∧ after.Shows site changed marks := by
  have tile : ∀ block ∈ touched, block ∈ book.blocks site.geometry ++ others := fun block member =>
    (members block member).elim sound.mem_tiles fun taken => List.mem_append_right _ taken
  have deep : ∀ block ∈ touched, block.bucket ≤ site.geometry.lastBucket := fun block member =>
    sound.tiles.deep block (tile block member)
  refine ((onList_returns header known valid (links_granted shows linked) ?_ returns).widen ?_).mono ?_
  · rintro _ list memory ⟨-, list_holds⟩ addr ⟨_, mapped, within⟩
    obtain ⟨block, member, rfl⟩ := List.mem_map.mp mapped
    refine ⟨_, (entries block member).imp (fun before => ?_) fun after => ?_, within⟩
    · exact ⟨bucket, valid, _, shows.lists bucket valid, List.mem_map_of_mem before⟩
    · exact ⟨bucket, valid, listed site changed bucket, by simpa using list_holds, List.mem_map_of_mem after⟩
  · exact fun events after alters => alters.mono fun addr inside =>
      Site.links_outside deep apart (linkArea_of_word inside)
  · rintro value _ ⟨list, memory, rfl, bytes, holds, list_holds⟩
    refine ⟨holds, shows.geometry, ?_, shows.splitSize, shows.root.trans root.symm, ?_, ?_, shows.bits⟩
    · have window := shows.window
      simp only [granted]
      rw [window]
    · simp only [granted, shows.granted]
    · intro other other_valid
      by_cases same : other = bucket
      · subst same
        simpa using list_holds
      · have distinct : bucket ≠ other := fun equal => same equal.symm
        simp only [Vector.getElem_set_ne _ _ distinct]
        have entries : listed site changed other = listed site book other := by
          rw [listed, Book.level, free other same, listed, Book.level]
        rw [entries]
        refine (shows.lists other other_valid).frame fun addr area => bytes addr (outside_words fun here => ?_)
        have elsewhere : ∀ block ∈ touched, ∀ free ∈ book.level other,
            block.Apart site.geometry free := by
          intro block member free member_free
          obtain ⟨free_member, free_bucket⟩ := Book.mem_level.mp member_free
          refine sound.tiles.apart (tile block member) (sound.mem_tiles free_member) fun equal => ?_
          exact distinct ((level block member).symm.trans ((congrArg Block.bucket equal).trans free_bucket))
        obtain ⟨free, member_free, within⟩ := Site.linkArea_map area
        have outside := Site.links_outside deep elsewhere here free member_free
        have size : linkSize ≤ free.size site.geometry :=
          Geometry.linkSize_le_blockSize (sound.deep free (Book.mem_level.mp member_free).1)
        omega

/-- Every bucket of the geometry has a list. -/
theorem valid_of_deep (deep : bucket ≤ site.geometry.lastBucket) : bucket < maxBuckets := by
  have few := site.geometry.lastBucket_lt
  unfold maxBuckets
  omega

theorem level_nodup (sound : Sound site.geometry book taken) (bucket : Nat) :
    (book.level bucket).Nodup :=
  (sound.nodup_free bucket).map fun _ _ same => congrArg Block.index same

theorem push_returns (shows : heap.Shows site book marks)
    (sound : Sound site.geometry { book with root := top } (block :: taken))
    (linked : block.offset site.geometry + linkSize ≤ book.granted) :
    Op.Returns (Alters header (site.Outside taken)) (push block.bucket (site.addressOf block)) heap
      fun _ after => after.Shows site (book.push block) marks := by
  have valid := valid_of_deep (sound.taken_fits List.mem_cons_self).bucket_le
  have fresh := sound.not_mem_of_taken List.mem_cons_self
  have own := (List.nodup_append.mp sound.tiles.nodup).2.1
  let touched := block :: book.level block.bucket
  have split : ∀ other ∈ touched, other = block ∨ other ∈ book ∧ other.bucket = block.bucket :=
    fun other member => (List.mem_cons.mp member).imp_right Book.mem_level.mp
  have members : ∀ other ∈ touched, other ∈ book ∨ other ∈ block :: taken := by
    intro other member
    rcases split other member with rfl | ⟨free, -⟩
    · exact .inr List.mem_cons_self
    · exact .inl free
  have tile : ∀ other ∈ touched, other ∈ book.blocks site.geometry ++ block :: taken :=
    fun other member => (members other member).elim sound.mem_tiles
      fun taken => List.mem_append_right _ taken
  have nodup : touched.Nodup :=
    List.nodup_cons.mpr ⟨fun member => fresh (Book.mem_level.mp member).1, level_nodup sound block.bucket⟩
  have room := Site.linkRoom shows.base shows.capacity sound.tiles tile nodup
  have composes := Window.touches_composes (linkWords (touched.map site.addressOf))
  have pushed : Op.Returns (Window.Touches (linkWords (touched.map site.addressOf)))
      (do return ((), ← heap.lists[block.bucket].push (site.addressOf block))) heap.window
      fun result after => True ∧ result.2.Holds after.memory
        (listed site (book.push block) block.bucket) := by
    refine .bind composes (FreeList.push_returns room (shows.lists _ valid) ?_) ?_
    · rintro addr ⟨entry, member, within⟩
      refine ⟨entry, ?_, within⟩
      rcases List.mem_cons.mp member with rfl | member
      · exact List.mem_cons_self
      · exact List.mem_cons_of_mem _ (List.mem_of_getLast? (Option.mem_toList.mp member))
    · intro longer after holds
      refine .pure composes ⟨trivial, ?_⟩
      simpa [listed, Book.level, Book.push] using holds
  refine (onList_shows (.push _) (book.push block) (fun _ => True) shows sound valid ?_ members ?_ ?_ rfl rfl
    ?_ ?_ pushed).mono fun _ _ shown => shown.2
  · intro other member
    rcases split other member with rfl | ⟨-, level⟩
    · rfl
    · exact level
  · intro other member
    rcases split other member with rfl | ⟨free, -⟩
    · exact linked
    · exact sound.linked other free
  · intro other member kept kept_member
    refine sound.tiles.apart (tile other member)
      (List.mem_append_right _ (List.mem_cons_of_mem _ kept_member)) ?_
    rintro rfl
    rcases split other member with rfl | ⟨free, -⟩
    · exact (List.nodup_cons.mp own).1 kept_member
    · exact sound.not_mem_of_taken (List.mem_cons_of_mem _ kept_member) free
  · intro other member
    rcases split other member with rfl | free
    · exact .inr (Book.mem_level.mpr ⟨Book.mem_push.mpr (.inl rfl), rfl⟩)
    · exact .inl (Book.mem_level.mpr free)
  · intro other distinct
    exact Function.update_of_ne distinct _ _

/-- A list operation that touches free blocks of its own bucket only. -/
theorem onLevel_shows {α : Type} {act : FreeList → Op Window (α × FreeList)} (known : ListAct act)
    (changed : Book) (post : α → Prop)
    (shows : heap.Shows site book marks) (sound : Sound site.geometry book taken)
    (valid : bucket < maxBuckets) (root : changed.root = book.root)
    (granted : changed.granted = book.granted)
    (free : ∀ other, other ≠ bucket → changed.free other = book.free other)
    (returns : Op.Returns (Window.Touches (linkWords (listed site book bucket)))
      (act heap.lists[bucket]) heap.window fun result window =>
        post result.1 ∧ result.2.Holds window.memory (listed site changed bucket)) :
    Op.Returns (Alters header (site.Outside taken)) (onList bucket act) heap fun value after =>
      post value ∧ after.Shows site changed marks :=
  onList_shows known changed post shows sound valid (fun _ member => (Book.mem_level.mp member).2)
    (fun _ member => .inl (Book.mem_level.mp member).1)
    (fun block member => sound.linked block (Book.mem_level.mp member).1)
    (fun _ member _ kept => sound.apart_of_taken (Book.mem_level.mp member).1 kept) root granted
    (fun _ => .inl) free returns

theorem level_linkRoom (shows : heap.Shows site book marks) (sound : Sound site.geometry book taken)
    (bucket : Nat) : LinkRoom heap.window (listed site book bucket) :=
  Site.linkRoom shows.base shows.capacity sound.tiles
    (fun _ member => sound.mem_tiles (Book.mem_level.mp member).1) (level_nodup sound bucket)

theorem remove_returns (shows : heap.Shows site book marks)
    (sound : Sound site.geometry book taken) (member : block ∈ book) :
    Op.Returns (Alters header (site.Outside taken)) (remove block.bucket (site.addressOf block)) heap
      fun _ after => after.Shows site (book.drop block) marks := by
  have valid := valid_of_deep (sound.deep block member)
  have room := level_linkRoom shows sound block.bucket
  have holds := shows.lists _ valid
  have composes := Window.touches_composes (linkWords (listed site book block.bucket))
  obtain ⟨older, newer, entries⟩ := List.append_of_mem (show block.index ∈ _ from member)
  have fresh : block.index ∉ older := by
    have nodup := sound.nodup_free block.bucket
    rw [entries] at nodup
    exact fun here => (List.nodup_append.mp nodup).2.2 _ here _ List.mem_cons_self rfl
  have before : listed site book block.bucket =
      (older.map (Block.mk block.bucket)).map site.addressOf ++
        site.addressOf block :: (newer.map (Block.mk block.bucket)).map site.addressOf := by
    simp [listed, Book.level, entries]
  have after : listed site (book.drop block) block.bucket =
      (older.map (Block.mk block.bucket)).map site.addressOf ++
        (newer.map (Block.mk block.bucket)).map site.addressOf := by
    simp [listed, Book.level, Book.drop, entries, List.erase_append_right _ fresh]
  have removed : Op.Returns (Window.Touches (linkWords (listed site book block.bucket)))
      (do return ((), ← heap.lists[block.bucket].remove (site.addressOf block))) heap.window
      fun result after => True ∧ result.2.Holds after.memory
        (listed site (book.drop block) block.bucket) := by
    rw [before] at room holds
    refine .bind composes (FreeList.remove_returns room holds ?_) ?_
    · rintro addr ⟨entry, near, within⟩
      refine ⟨entry, ?_, within⟩
      rw [before, List.mem_append, List.mem_cons]
      rcases List.mem_cons.mp near with rfl | near
      · exact .inr (.inl rfl)
      rcases List.mem_append.mp near with near | near
      · exact .inl (List.mem_of_getLast? (Option.mem_toList.mp near))
      · exact .inr (.inr (List.mem_of_head? (Option.mem_toList.mp near)))
    · intro shorter window holds
      exact .pure composes ⟨trivial, after ▸ holds⟩
  refine (onLevel_shows (.remove _) (book.drop block) (fun _ => True) shows sound valid rfl rfl ?_ removed).mono
    fun _ _ shown => shown.2
  intro other distinct
  exact Function.update_of_ne distinct _ _

theorem pop_returns (shows : heap.Shows site book marks) (sound : Sound site.geometry book taken)
    (valid : bucket < maxBuckets) :
    Op.Returns (Alters header (site.Outside taken)) (pop bucket) heap fun found after =>
      found = (book.newest bucket).map site.addressOf ∧
        after.Shows site (book.dropNewest bucket) marks := by
  have room := level_linkRoom shows sound bucket
  have popped := FreeList.pop_returns room (shows.lists bucket valid)
  refine onLevel_shows .pop (book.dropNewest bucket) (· = (book.newest bucket).map site.addressOf) shows
    sound valid ?_ ?_ ?_ (popped.mono ?_)
  · unfold Book.dropNewest
    split <;> rfl
  · unfold Book.dropNewest
    split <;> rfl
  · intro other distinct
    unfold Book.dropNewest
    split
    · rfl
    · rename_i block newest
      rw [Book.drop, (Book.mem_of_newest newest).2]
      exact Function.update_of_ne distinct _ _
  · rintro ⟨found, shorter⟩ window ⟨last, holds⟩
    have entries : listed site (book.dropNewest bucket) bucket =
        (listed site book bucket).dropLast := by
      rcases List.eq_nil_or_concat (book.free bucket) with empty | ⟨older, index, level⟩
      · simp [listed, Book.level, Book.dropNewest, Book.newest, empty]
      · rw [List.concat_eq_append] at level
        have fresh : index ∉ older := by
          have nodup := sound.nodup_free bucket
          rw [level] at nodup
          exact fun here => (List.nodup_append.mp nodup).2.2 _ here _ (by simp) rfl
        simp [listed, Book.level, Book.dropNewest, Book.newest, Book.drop, level, List.erase_append_right _ fresh]
    refine ⟨?_, entries ▸ holds⟩
    simp only at last
    simp [last, listed, Book.level, Book.newest, Function.comp_def]

/-- A list without entries is as good as new. -/
theorem emptyList_returns (shows : heap.Shows site book marks)
    (valid : bucket < maxBuckets) (empty : book.free bucket = []) :
    Op.Returns (Alters header region) (emptyList bucket) heap fun _ after => after = heap := by
  have holds := shows.lists bucket valid
  rw [listed, Book.level, empty] at holds
  have same : heap.lists[bucket] = FreeList.empty := holds.eq_empty
  refine ⟨[], (), heap, ?_, (alters_composes header region).refl heap, rfl⟩
  simp only [emptyList, onList, Op.run, dif_pos valid]
  change ([], Except.ok ((), { heap with lists := heap.lists.set bucket FreeList.empty })) = _
  rw [← same, Vector.set_getElem_self]

/-- Walking along a list yields the free blocks of its bucket and changes nothing. -/
theorem freeBlocks_returns (header : Nat → Nat → Prop) (shows : heap.Shows site book marks)
    (sound : Sound site.geometry book taken) (valid : bucket < maxBuckets) :
    Op.Returns (Alters header (site.Outside taken)) (freeBlocks bucket) heap fun found after =>
      found = listed site book bucket ∧ after = heap := by
  have room := level_linkRoom shows sound bucket
  have composes := Window.touches_composes (linkWords (listed site book bucket))
  have walked : Op.Returns (Window.Touches (linkWords (listed site book bucket)))
      (do return (← heap.lists[bucket].entries, heap.lists[bucket])) heap.window
      fun result after => result = (listed site book bucket, heap.lists[bucket]) ∧
        after = heap.window := by
    refine .bind composes (FreeList.entries_returns room (shows.lists bucket valid)) ?_
    rintro _ _ ⟨rfl, rfl⟩
    exact .pure composes ⟨rfl, rfl⟩
  have apart : ∀ block ∈ book.level bucket, ∀ other ∈ taken,
      block.Apart site.geometry other := fun _ member _ kept =>
    sound.apart_of_taken (Book.mem_level.mp member).1 kept
  have deep : ∀ block ∈ book.level bucket,
      block.bucket ≤ site.geometry.lastBucket := fun block member => sound.deep block (Book.mem_level.mp member).1
  have linked : ∀ block ∈ book.level bucket, block.offset site.geometry + linkSize ≤ book.granted :=
    fun block member => sound.linked block (Book.mem_level.mp member).1
  refine .mono (.widen (onList_returns header .walk valid (links_granted shows linked)
    (fun _ _ _ _ _ word => shows.linksFree valid word) walked) fun _ _ alters =>
    alters.mono fun _ inside => Site.links_outside deep apart (linkArea_of_word inside)) ?_
  rintro value _ ⟨list, memory, rfl, -, same, window⟩
  obtain ⟨rfl, rfl⟩ := Prod.mk.inj same
  exact ⟨rfl, by rw [window, Vector.set_getElem_self]⟩

end Nucleus.Buddy.Heap
