import Nucleus.Proofs.Buddy.Search
import Nucleus.Proofs.Buddy.SplitSteps
import Nucleus.Proofs.Buddy.Steps

/-! Growing the tree and searching for a free block follow the plan: the heap ends with the result and
the book that the plan ends with, and its split bits agree with its lists. -/
namespace Nucleus.Buddy.Heap
variable {site : Site} {heap : Heap} {book : Book} {marks : Block → Bool} {taken : List Block}
variable {header : Nat → Nat → Prop} {region : Nat → Prop}

/-- The result and the book are those that a plan ends with. When it ends well, the split bits are as
given; after an error they agree with the lists. -/
def Follows {α β : Type} (site : Site) (view : α → β) (bits : α → Book → Block → Bool) :
    Except AllocError α × Book → Except AllocError β → Heap → Prop
  | (.ok value, book), result, after => result = .ok (view value) ∧ after.Shows site book (bits value book)
  | (.error error, book), result, after => result = .error error ∧ after.Shows site book book.mark

/-- The split bits agree with the lists. -/
def settled {α : Type} (_ : α) (book : Book) : Block → Bool := book.mark

/-- The split bits as they were before a block was taken off its list. -/
def pending : Option Block → Book → Block → Bool
  | none, book => book.mark
  | some block, book => Book.turned book.mark block

theorem note_returns (text : String) :
    Op.Returns (Alters header region) (note text) heap fun _ after => after = heap :=
  ⟨_, (), heap, rfl, ⟨id, fun _ _ => rfl, by simp, .aside rfl rfl (by simp), rfl, Nat.le_refl _, id,
    by simp⟩, rfl⟩

theorem commit_returns (header : Nat → Nat → Prop) (region : Nat → Prop)
    (shows : heap.Shows site book marks) (size : Nat) :
    Op.Returns (Alters header region) (commit (site.window.base + size)).run heap fun result after =>
      match book.grant site.window.ceiling size with
      | none => result = .error .reservationDenied ∧ after = heap
      | some more => result = .ok () ∧ after.Shows site more marks := by
  have composes := alters_composes header region
  refine .lift_bind composes (tryCommit_returns shows size) fun granted after holds => ?_
  cases answer : book.grant site.window.ceiling size with
  | none =>
    rw [answer] at holds
    obtain ⟨rfl, same⟩ := holds
    exact .pure composes ⟨rfl, same⟩
  | some more =>
    rw [answer] at holds
    obtain ⟨rfl, shows⟩ := holds
    exact .pure composes ⟨rfl, shows⟩

theorem Shows.raise {above : Nat} (shows : heap.Shows site book marks) (root : book.root = above + 1) :
    ({ heap with rootBucket := above } : Heap).Shows site book.raise marks :=
  { shows with root := by simp [Book.raise, root] }

/-- The bucket of the new root has no free blocks yet. -/
theorem raise_returns {above : Nat} (shows : heap.Shows site book marks) (root : book.root = above + 1)
    (deep : above ≤ site.geometry.lastBucket) (empty : book.free above = []) :
    Op.Returns (Alters header region) (emptyList above) { heap with rootBucket := above }
      fun _ after => after.Shows site book.raise marks := by
  apply (emptyList_returns (shows.raise root) (valid_of_deep deep) empty).mono
  rintro _ _ rfl
  exact shows.raise root

/-- The root's bucket is not used above the root. -/
theorem above_root_empty (sound : Sound site.geometry book taken) {above : Nat}
    (root : book.root = above + 1) : book.free above = [] := by
  refine List.eq_nil_iff_forall_not_mem.mpr fun index member => ?_
  have order : book.root ≤ above := sound.root_le_free (show (⟨above, index⟩ : Block) ∈ book from member)
  omega

/-- A tree that is free as a whole becomes a free block of twice the size. -/
theorem growFree_returns {above : Nat} (shows : heap.Shows site book book.mark)
    (sound : Sound site.geometry book taken) (root : book.root = above + 1)
    (free : (⟨above + 1, 0⟩ : Block) ∈ book) :
    Op.Returns (Alters header (site.Outside taken)) (ExceptT.run (do
        remove (above + 1) (site.addressOf ⟨above + 1, 0⟩)
        let lower ← Word.sub (above + 1) 1
        modify fun heap => { heap with rootBucket := lower }
        emptyList lower
        push lower (site.addressOf ⟨above + 1, 0⟩) : Alloc Unit)) heap fun result after =>
      result = .ok () ∧ after.Shows site ((book.drop ⟨above + 1, 0⟩).raise.push ⟨above, 0⟩)
        ((book.drop ⟨above + 1, 0⟩).raise.push ⟨above, 0⟩).mark := by
  have composes := alters_composes header (site.Outside taken)
  have inner : book.root ≠ 0 := by omega
  have deep : above ≤ site.geometry.lastBucket := (Nat.le_succ _).trans (root.symm.trans_le sound.root_le)
  have same : site.addressOf ⟨above + 1, 0⟩ = site.addressOf ⟨above, 0⟩ := by
    simp [Site.addressOf, Block.offset]
  have dropped := Plan.sound_raise_free sound inner (root ▸ free)
  have linked := Plan.root_linked sound (root ▸ free)
  have lowered : Word.sub (above + 1) 1 = .ok above := Word.sub_eq_ok (by omega)
  have no_list : (book.drop ⟨above + 1, 0⟩).free above = [] := by
    simp [Book.drop, above_root_empty sound root]
  simp only [root, Nat.add_sub_cancel] at dropped linked
  refine .lift_bind composes (remove_returns shows sound free) fun _ after shows => ?_
  refine .lift_check_bind lowered (.modify_bind composes (alters_of_same id rfl rfl rfl) ?_)
  refine .lift_bind composes (raise_returns shows root deep no_list) fun _ after shows => ?_
  rw [same]
  refine .lift composes (push_returns shows dropped linked) fun _ after shows => ⟨rfl, ?_⟩
  rwa [Book.mark_grow_free sound root free]

/-- The right half beside a tree in use becomes free, and the new root is marked in its parent. -/
theorem raiseBeside_returns {above granted : Nat} {text : Nat → String}
    (shows : heap.Shows site { book with granted } book.mark)
    (sound : Sound site.geometry ({ book with granted } : Book).raise (⟨above + 1, 1⟩ :: taken))
    (old : Sound site.geometry book taken) (root : book.root = above + 1)
    (linked : (⟨above + 1, 1⟩ : Block).offset site.geometry + linkSize ≤ granted) :
    Op.Returns (Alters header (site.Outside taken)) (ExceptT.run (do
        push (above + 1) (site.addressOf ⟨above + 1, 1⟩)
        let lower ← Word.sub (above + 1) 1
        modify fun heap => { heap with rootBucket := lower }
        emptyList lower
        let parent ← Geometry.parent (⟨above + 1, 0⟩ : Block).node
        if parent ≠ 0 then flipParent parent
        note (text lower) : Alloc Unit)) heap fun result after =>
      result = .ok () ∧ after.Shows site (({ book with granted } : Book).raise.push ⟨above + 1, 1⟩)
        (({ book with granted } : Book).raise.push ⟨above + 1, 1⟩).mark := by
  have composes := alters_composes header (site.Outside taken)
  have deep : above + 1 ≤ site.geometry.lastBucket := root.symm.trans_le old.root_le
  have fits : (⟨above + 1, 0⟩ : Block).Fits site.geometry := ⟨deep, Nat.two_pow_pos _⟩
  have root_fits : (⟨above, 0⟩ : Block).Fits site.geometry := ⟨Nat.le_of_lt deep, Nat.two_pow_pos _⟩
  have lowered : Word.sub (above + 1) 1 = .ok above := Word.sub_eq_ok (by omega)
  have no_list : (({ book with granted } : Book).push ⟨above + 1, 1⟩).free above = [] := by
    simp [Book.push, above_root_empty old root]
  have marks : (({ book with granted } : Book).raise.push ⟨above + 1, 1⟩).mark =
      Book.turned book.mark ⟨above, 0⟩ := Book.mark_grow_used old root
  have parent := Geometry.parent_node fits (Nat.succ_ne_zero _)
  have parent_eq : (⟨above + 1, 0⟩ : Block).parent = ⟨above, 0⟩ := by simp [Block.parent]
  rw [parent_eq] at parent
  refine .lift_bind composes (push_returns shows sound linked) fun _ after shows => ?_
  refine .lift_check_bind lowered (.modify_bind composes (alters_of_same id rfl rfl rfl) ?_)
  refine .lift_bind composes (raise_returns shows root (Nat.le_of_lt deep) no_list) fun _ after shows => ?_
  refine .lift_check_bind parent ?_
  by_cases first : (⟨above, 0⟩ : Block).node = 0
  · rw [if_neg (not_not_intro first)]
    rw [Book.turned_of_top _ (root_fits.node_eq_zero.mp first)] at marks
    refine .lift composes (note_returns _) ?_
    rintro _ _ rfl
    exact ⟨rfl, by rwa [marks]⟩
  · rw [if_pos first]
    refine .lift_bind composes (flipParent_returns shows root_fits
      fun level => first (root_fits.node_eq_zero.mpr level)) fun _ after shows => ?_
    refine .lift composes (note_returns _) ?_
    rintro _ _ rfl
    exact ⟨rfl, by rwa [marks]⟩

theorem growOnce_returns (shows : heap.Shows site book book.mark)
    (sound : Sound site.geometry book taken) (inner : book.root ≠ 0) :
    Op.Returns (Alters header (site.Outside taken)) growOnce.run heap
      (Follows site id settled (Plan.grow site.geometry site.window.ceiling book)) := by
  have composes := alters_composes header (site.Outside taken)
  obtain ⟨above, root⟩ := Nat.exists_eq_add_one_of_ne_zero inner
  have deep : above + 1 ≤ site.geometry.lastBucket := root.symm.trans_le sound.root_le
  have fits : (⟨above + 1, 0⟩ : Block).Fits site.geometry := ⟨deep, Nat.two_pow_pos _⟩
  have beside : (⟨above + 1, 1⟩ : Block).Fits site.geometry := by
    have positive := Nat.two_pow_pos above
    exact ⟨deep, by simp only [Nat.pow_succ]; omega⟩
  have base : heap.window.base = site.addressOf ⟨above + 1, 0⟩ := by
    simp [shows.base, Site.addressOf, Block.offset]
  have parent : (⟨above + 1, 0⟩ : Block).parent = ⟨above, 0⟩ := by simp [Block.parent]
  have next : Word.add (⟨above + 1, 0⟩ : Block).node 1 = .ok (⟨above + 1, 1⟩ : Block).node :=
    Word.add_eq_ok (by have small := fits.node_lt; unfold Word.bound; omega)
  have top : Word.add (site.addressOf ⟨above + 1, 1⟩) linkSize =
      .ok (site.window.base + (site.geometry.blockSize (above + 1) + linkSize)) := by
    have inside := beside.offset_add_size_le
    have small := Geometry.linkSize_le_blockSize deep
    have room := site.room
    simp only [Block.offset, Block.size, Nat.one_mul] at inside
    rw [Site.addressOf, Word.add_eq_ok (by simp only [Block.offset, Nat.one_mul]; omega)]
    simp only [Block.offset, Nat.one_mul, Nat.add_assoc]
  have committed := commit_returns header (site.Outside taken) shows
    (site.geometry.blockSize (above + 1) + linkSize)
  unfold growOnce
  refine .getThe_bind ?_
  simp only [base, shows.root, root]
  refine .lift_bind composes (nodeAt_returns shows fits) ?_
  rintro _ _ ⟨rfl, rfl⟩
  refine .lift_bind composes (parentIsSplit_returns shows fits (Nat.succ_ne_zero _)) ?_
  rintro _ _ ⟨rfl, rfl⟩
  rw [parent, Book.mark_root_parent root]
  rcases Plan.grow_cases site.geometry site.window.ceiling book with ⟨free, plan⟩ |
    ⟨used, more, granted, plan⟩ | ⟨used, denied, plan⟩
  · simp only [root, Nat.add_sub_cancel] at free plan
    rw [if_neg (by simpa using free), plan]
    exact growFree_returns shows sound root free
  · have raised := Plan.sound_raise sound inner granted
    simp only [root] at used granted plan raised
    obtain rfl := Book.grant_eq_some granted
    rw [granted] at committed
    rw [if_pos (by simpa using used), plan]
    refine .lift_check_bind next (.lift_bind composes (addressOf_returns shows beside) ?_)
    rintro _ _ ⟨rfl, rfl⟩
    refine .lift_check_bind top (.ok_bind composes committed fun after shows => ?_)
    apply raiseBeside_returns shows raised sound root
    simp only [Block.offset, Nat.one_mul]
    exact Nat.le_max_right _ _
  · simp only [root] at used denied plan
    rw [denied] at committed
    rw [if_pos (by simpa using used), plan]
    refine .lift_check_bind next (.lift_bind composes (addressOf_returns shows beside) ?_)
    rintro _ _ ⟨rfl, rfl⟩
    refine .lift_check_bind top (.error_bind composes committed ?_)
    rintro _ rfl
    exact ⟨rfl, shows⟩

theorem follows_cases {α β γ : Type} {plan : Except AllocError α × Book} {op : Alloc β}
    {rest : β → Alloc γ} {view : α → β} {bits : α → Book → Block → Bool}
    {post : Except AllocError γ → Heap → Prop}
    (first : Op.Returns (Alters header region) op.run heap (Follows site view bits plan))
    (ok : ∀ value grown after, plan = (.ok value, grown) → after.Shows site grown (bits value grown) →
      Op.Returns (Alters header region) (rest (view value)).run after post)
    (error : ∀ error grown after, plan = (.error error, grown) → after.Shows site grown grown.mark →
      post (.error error) after) :
    Op.Returns (Alters header region) (op >>= rest).run heap post := by
  have composes := alters_composes header region
  rcases plan with ⟨failed | value, grown⟩
  · exact .error_bind composes first fun after shows => error _ grown after rfl shows
  · exact .ok_bind composes first fun after shows => ok value grown after rfl shows

/-- A step that follows a plan, and a rest that follows the rest of the plan. -/
theorem follows_bind {α β γ δ : Type} {plan : Plan α} {next : α → Plan β} {op : Alloc γ}
    {rest : γ → Alloc δ} {view : α → γ} {result : β → δ} {bits : α → Book → Block → Bool}
    {last : β → Book → Block → Bool}
    (first : Op.Returns (Alters header region) op.run heap (Follows site view bits (plan book)))
    (ok : ∀ value grown after, plan book = (.ok value, grown) → after.Shows site grown (bits value grown) →
      Op.Returns (Alters header region) (rest (view value)).run after
        (Follows site result last (next value grown))) :
    Op.Returns (Alters header region) (op >>= rest).run heap
      (Follows site result last ((plan >>= next) book)) := by
  apply follows_cases first
  · intro value grown after ran shows
    rw [Plan.bind_ok ran]
    exact ok value grown after ran shows
  · intro error grown after ran shows
    rw [Plan.bind_error ran]
    exact ⟨rfl, shows⟩

theorem growTimes_returns {times : Nat} (shows : heap.Shows site book book.mark)
    (sound : Sound site.geometry book taken) (inner : times ≤ book.root) :
    Op.Returns (Alters header (site.Outside taken)) (growTimes times).run heap
      (Follows site id settled (Plan.growTimes site.geometry site.window.ceiling times book)) := by
  induction times generalizing heap book with
  | zero => exact .pure (alters_composes header _) ⟨rfl, shows⟩
  | succ times ih =>
    have root : book.root ≠ 0 := by omega
    obtain ⟨grown_sound, done⟩ := Plan.grow_sound site.window.ceiling sound root
    refine follows_bind (growOnce_returns shows sound root) fun _ grown after ran shows => ?_
    rw [ran] at grown_sound done
    simp only at grown_sound done
    rcases done with ⟨-, lower⟩ | ⟨failed, -⟩
    · exact ih shows grown_sound (by omega)
    · cases failed

theorem growTo_returns (shows : heap.Shows site book book.mark)
    (sound : Sound site.geometry book taken) (bucket : Nat) :
    Op.Returns (Alters header (site.Outside taken)) (growTo bucket).run heap
      (Follows site id settled (Plan.growTo site.geometry site.window.ceiling bucket book)) := by
  refine .getThe_bind ?_
  rw [shows.root]
  exact growTimes_returns shows sound (Nat.sub_le _ _)

/-- Taking the newest block off a list leaves the split bits behind. -/
theorem pop_follows {bucket : Nat} (shows : heap.Shows site book book.mark)
    (sound : Sound site.geometry book taken) (deep : bucket ≤ site.geometry.lastBucket) :
    Op.Returns (Alters header (site.Outside taken)) (ExceptT.run (liftM (pop bucket))) heap
      (Follows site (Option.map site.addressOf) pending (Plan.pop bucket book)) := by
  refine .lift (alters_composes header _) (pop_returns shows sound (valid_of_deep deep)) ?_
  rintro _ after ⟨rfl, shows⟩
  refine ⟨rfl, ?_⟩
  cases newest : book.newest bucket with
  | none =>
    simp only [Book.dropNewest, newest] at shows
    simpa only [Book.dropNewest, newest, pending] using shows
  | some block =>
    simp only [Book.dropNewest, newest] at shows
    simp only [Book.dropNewest, newest, pending]
    rwa [Book.mark_drop sound (Book.mem_of_newest newest).1, Book.turned_turned]

theorem take_returns {bucket : Nat} (shows : heap.Shows site book book.mark)
    (sound : Sound site.geometry book taken) (deep : bucket ≤ site.geometry.lastBucket) :
    Op.Returns (Alters header (site.Outside taken)) (take bucket).run heap
      (Follows site (Option.map site.addressOf) pending
        (Plan.take site.geometry site.window.ceiling bucket book)) := by
  have grown_sound := (Plan.growTo_sound site.window.ceiling sound bucket).1
  refine follows_bind (growTo_returns shows sound bucket) fun _ grown after ran shows => ?_
  rw [ran] at grown_sound
  exact pop_follows shows grown_sound deep

theorem takeBeside_returns {bucket above : Nat} (shows : heap.Shows site book book.mark)
    (sound : Sound site.geometry book taken) (deep : bucket ≤ site.geometry.lastBucket) :
    Op.Returns (Alters header (site.Outside taken)) (takeBeside bucket above).run heap
      (Follows site site.addressOf (fun block => pending (some block))
        (Plan.takeBeside site.geometry site.window.ceiling bucket above book)) := by
  have grown_sound := (Plan.growTo_sound site.window.ceiling sound above).1
  refine follows_bind (growTo_returns shows sound above) fun _ grown after ran shows => ?_
  rw [ran] at grown_sound
  refine follows_bind (pop_follows shows grown_sound deep) fun found popped after _ shows => ?_
  cases found with
  | none => exact .pure (alters_composes header _) ⟨rfl, shows⟩
  | some block => exact .pure (alters_composes header _) ⟨rfl, shows⟩

theorem search_returns (header : Nat → Nat → Prop) {bucket : Nat} (shows : heap.Shows site book book.mark)
    (sound : Sound site.geometry book taken) (deep : bucket ≤ site.geometry.lastBucket) :
    Op.Returns (Alters header (site.Outside taken)) (search bucket).run heap
      (Follows site (Option.map fun block => (site.addressOf block, block.bucket)) pending
        (Plan.search site.geometry site.window.ceiling bucket book)) := by
  have composes := alters_composes header (site.Outside taken)
  induction bucket generalizing heap book with
  | zero =>
    rw [Plan.search, ← Plan.bind_pure (Plan.take _ _ 0) book]
    refine follows_bind (take_returns shows sound deep) fun found grown after ran shows => ?_
    cases found with
    | none => exact .pure composes ⟨rfl, shows⟩
    | some block =>
      refine .pure composes ⟨?_, shows⟩
      simp [Plan.take_bucket ran]
  | succ above ih =>
    refine follows_bind (take_returns shows sound deep) fun found grown after ran shows => ?_
    cases found with
    | some block =>
      refine .pure composes ⟨?_, shows⟩
      simp [Plan.take_bucket ran]
    | none =>
      have grown_sound := Plan.take_none_sound sound ran
      refine .getThe_bind ?_
      simp only [Plan.bind_ok (Plan.read_ok grown)]
      rw [shows.root]
      by_cases top : above + 1 = grown.root
      · rw [if_pos top, if_pos top]
        refine follows_bind (takeBeside_returns shows grown_sound deep) fun block last after ran shows => ?_
        refine .pure composes ⟨?_, shows⟩
        simp [Plan.takeBeside_bucket ran]
      · rw [if_neg top, if_neg top]
        exact ih shows grown_sound (by omega)

end Nucleus.Buddy.Heap
