import Nucleus.Proofs.Buddy.Allocating

/-! What an allocation that returned has done, whatever the heap and its window are like: how far the tree has
grown, and where the allocation ended. -/
namespace Nucleus.Buddy.Heap
variable {heap middle after : Heap} {bucket node top : Nat} {events : List Event}

section Steps

/-- A list operation works on the list of its bucket and on the window. -/
theorem onList_ran {α : Type} {act : FreeList → Op Window (α × FreeList)} {value : α}
    (ran : (onList bucket act).run heap = (events, .ok (value, after))) :
    ∃ valid : bucket < maxBuckets, ∃ list window,
      (act heap.lists[bucket]).run heap.window = (events, .ok ((value, list), window)) ∧
        after = { heap with lists := heap.lists.set bucket list, window } := by
  simp only [onList, Op.run] at ran
  split at ran
  · rename_i valid
    split at ran
    · rename_i acted
      cases ran
      exact ⟨valid, _, _, acted, rfl⟩
    · cases ran
  · cases ran

theorem onList_gives {α : Type} (act : FreeList → Op Window (α × FreeList)) :
    Op.Gives (onList bucket act) heap fun _ after => after.rootBucket = heap.rootBucket := by
  constructor
  intro events value after ran
  obtain ⟨_, list, window, -, rfl⟩ := onList_ran ran
  rfl

/-- A list without entries is left as it was. -/
theorem pop_none (ran : (pop bucket).run heap = (events, .ok (none, after))) : after = heap := by
  obtain ⟨valid, list, window, acted, rfl⟩ := onList_ran ran
  unfold FreeList.pop at acted
  split at acted
  · cases acted
    simp only [Vector.set_getElem_self]
  · obtain ⟨_, _, _, _, -, last⟩ := Op.bind_ran acted
    cases last

theorem store_gives {window : Window} {addr value : Nat} :
    Op.Gives (Window.store addr value) window fun _ _ => window.base + window.capacity < Word.bound := by
  refine .get_bind (.check_bind fun inside found => ?_)
  cases inside with
  | true => exact .of_fact (Window.fits_of_contains found)
  | false => exact .check fun _ none => nomatch none

theorem push_gives {block : Nat} : Op.Gives (push bucket block) heap
    fun _ _ => heap.window.base + heap.window.capacity < Word.bound := by
  constructor
  intro events value after ran
  obtain ⟨valid, list, window, acted, -⟩ := onList_ran ran
  obtain ⟨_, _, _, _, pushed, -⟩ := Op.bind_ran acted
  obtain ⟨_, _, _, _, stored, -⟩ := Op.bind_ran pushed
  exact store_gives.ran stored

theorem emptyList_gives : Op.Gives (emptyList bucket) heap fun _ after => after.window = heap.window := by
  constructor
  intro events value after ran
  obtain ⟨valid, list, window, acted, rfl⟩ := onList_ran ran
  cases acted
  rfl

theorem reserve_keeps {window last : Window} {granted : Bool} (answer : window.reserve top = .ok (granted, last)) :
    last.base = window.base ∧ last.capacity = window.capacity := by
  unfold Window.reserve at answer
  split at answer
  · unfold Window.top Word.add at answer
    split at answer
    · cases answer
      exact ⟨rfl, rfl⟩
    · cases answer
  · split_ifs at answer <;> cases answer <;> exact ⟨rfl, rfl⟩

theorem addressOf_gives : Op.Gives (addressOf node bucket) heap fun _ after => after = heap :=
  .get_bind (.check fun _ _ => rfl)

theorem nodeAt_gives {addr : Nat} : Op.Gives (nodeAt addr bucket) heap fun _ after => after = heap :=
  .get_bind (.check fun _ _ => rfl)

theorem parentIsSplit_gives : Op.Gives (parentIsSplit node) heap fun _ after => after = heap :=
  .check_bind fun _ _ => .get_bind (.check fun _ _ => rfl)

theorem flipParent_gives : Op.Gives (flipParent node) heap fun _ after => after.rootBucket = heap.rootBucket :=
  .get_bind (.check_bind fun _ _ => .check_bind fun _ _ => ⟨fun ran => by cases ran; rfl⟩)

theorem note_gives {text : String} : Op.Gives (note text) heap fun _ after => after = heap :=
  ⟨fun ran => by cases ran; rfl⟩

/-- What is not granted changes nothing. -/
theorem tryCommit_gives : Op.Gives (tryCommit top) heap fun granted after =>
    after.rootBucket = heap.rootBucket ∧
      (after.window.base = heap.window.base ∧ after.window.capacity = heap.window.capacity) ∧
      (granted = false → after = heap) := by
  refine .get_bind ?_
  split
  · refine .check_bind fun answer reserved => ?_
    obtain ⟨granted, window⟩ := answer
    have kept := reserve_keeps reserved
    cases granted with
    | true => exact ⟨fun ran => by cases ran; exact ⟨rfl, kept, nofun⟩⟩
    | false => exact ⟨fun ran => by cases ran; exact ⟨rfl, ⟨rfl, rfl⟩, fun _ => rfl⟩⟩
  · exact .pure ⟨rfl, ⟨rfl, rfl⟩, fun _ => rfl⟩

theorem commit_gives : Op.Gives (commit top).run heap fun result after =>
    after.rootBucket = heap.rootBucket ∧
      (after.window.base = heap.window.base ∧ after.window.capacity = heap.window.capacity) ∧
      ∀ error, result = .error error → error = .reservationDenied ∧ after = heap := by
  refine .lift_bind tryCommit_gives fun granted after done => ?_
  obtain ⟨root, kept, same⟩ := done
  cases granted with
  | true => exact .pure ⟨root, kept, nofun⟩
  | false =>
    apply Op.Gives.pure
    refine ⟨root, kept, fun error failed => ?_⟩
    cases failed
    exact ⟨rfl, same rfl⟩

end Steps

theorem above_add_one {above : Nat} (lowered : Word.sub bucket 1 = .ok above) : above + 1 = bucket := by
  unfold Word.sub at lowered
  split at lowered
  · cases lowered
    omega
  · cases lowered

/-- Growing once moves the root up by one bucket, or changes nothing. -/
theorem growOnce_gives : Op.Gives growOnce.run heap fun result after =>
    match result with
    | .ok () => after.rootBucket + 1 = heap.rootBucket
    | .error error => error = .reservationDenied ∧ after = heap := by
  unfold growOnce
  refine .getThe_bind (.lift_bind nodeAt_gives ?_)
  rintro root heap rfl
  refine .lift_bind parentIsSplit_gives ?_
  rintro split heap rfl
  split
  · refine .lift_check_bind fun next _ => .lift_bind addressOf_gives ?_
    rintro right heap rfl
    refine .lift_check_bind fun top _ => .fallible_bind commit_gives ?_ ?_
    · rintro _ granted ⟨root, -, -⟩
      refine .lift_bind (onList_gives _) fun _ pushed same => ?_
      refine .lift_check_bind fun above lowered => .modify_bind (.lift_bind (onList_gives _) ?_)
      intro _ raised kept
      have last : raised.rootBucket + 1 = heap.rootBucket := by
        rw [kept]
        exact above_add_one lowered
      refine .lift_check_bind fun parent _ => ?_
      split
      · refine .lift_bind flipParent_gives fun _ flipped same => .lift (note_gives.mono ?_)
        rintro _ last_heap rfl
        rwa [same]
      · refine .lift (note_gives.mono ?_)
        rintro _ _ rfl
        exact last
    · rintro error _ ⟨-, -, failed⟩
      exact failed error rfl
  · refine .lift_bind (onList_gives _) fun _ removed same => ?_
    refine .lift_check_bind fun above lowered => .modify_bind (.lift_bind (onList_gives _) ?_)
    intro _ raised kept
    refine .lift ((onList_gives _).mono fun _ pushed same => ?_)
    rw [same, kept]
    exact above_add_one lowered

/-- Growing to where the root is changes nothing. -/
theorem growTo_root (level : bucket = heap.rootBucket) :
    (growTo bucket).run heap = ([], .ok (.ok (), heap)) := by
  change (growTimes (heap.rootBucket - bucket)).run heap = _
  rw [level, Nat.sub_self]
  rfl

/-- The tree has grown a number of times. -/
inductive Grows : Heap → Heap → Prop
  | refl (heap : Heap) : Grows heap heap
  | step {heap middle after : Heap} {events : List Event} :
      growOnce.run heap = (events, .ok (.ok (), middle)) → Grows middle after → Grows heap after

namespace Grows

theorem trans (first : Grows heap middle) (rest : Grows middle after) : Grows heap after := by
  induction first with
  | refl => exact rest
  | step once _ ih => exact .step once (ih rest)

theorem root_le (grows : Grows heap after) : after.rootBucket ≤ heap.rootBucket := by
  induction grows with
  | refl => exact le_rfl
  | step once _ ih =>
    have lower := growOnce_gives.ran once
    simp only at lower
    omega

/-- Growing the tree alone to where its root has come leads to the same heap. -/
theorem growTo (grows : Grows heap after) :
    ∃ events, (Heap.growTo after.rootBucket).run heap = (events, .ok (.ok (), after)) := by
  have times : ∃ events, (growTimes (heap.rootBucket - after.rootBucket)).run heap =
      (events, .ok (.ok (), after)) := by
    induction grows with
    | refl heap =>
      rw [Nat.sub_self]
      exact ⟨[], rfl⟩
    | @step heap middle after first once grows ih =>
      obtain ⟨events, ran⟩ := ih
      have lower := growOnce_gives.ran once
      have order := grows.root_le
      simp only at lower
      rw [show heap.rootBucket - after.rootBucket = middle.rootBucket - after.rootBucket + 1 by omega,
        growTimes, ExceptT.run_bind]
      have once : (ExceptT.run growOnce).run heap = _ := once
      refine ⟨first ++ events, ?_⟩
      change Op.run _ heap = _
      rw [Op.run_bind_ok _ once]
      have ran : (ExceptT.run (growTimes _)).run middle = _ := ran
      rw [ran]
  exact times

end Grows

/-- A list operation found a block after the tree had grown, or the tree has grown in vain. -/
def Searched (heap : Heap) : Except AllocError (Option (Nat × Nat)) → Heap → Prop
  | .ok (some (block, bucket)), after => ∃ grown events, Grows heap grown ∧
      (pop bucket).run grown = (events, .ok (some block, after))
  | .ok none, after => Grows heap after
  | .error error, after => error ≠ .requestTooLarge ∧ Grows heap after

theorem Searched.trans {result : Except AllocError (Option (Nat × Nat))} (first : Grows heap middle)
    (searched : Searched middle result after) : Searched heap result after := by
  rcases result with error | _ | ⟨block, bucket⟩
  · exact ⟨searched.1, first.trans searched.2⟩
  · exact first.trans searched
  · obtain ⟨grown, events, grows, ran⟩ := searched
    exact ⟨grown, events, first.trans grows, ran⟩

theorem growTimes_gives (times : Nat) : Op.Gives (growTimes times).run heap fun result after =>
    Grows heap after ∧ ∀ error, result = .error error → error = .reservationDenied := by
  induction times generalizing heap with
  | zero => exact .pure ⟨.refl heap, nofun⟩
  | succ times ih =>
    refine .fallible_bind (.self _ _) ?_ ?_
    · rintro _ middle ⟨events, once⟩
      exact ih.mono fun _ _ done => ⟨.step once done.1, done.2⟩
    · rintro error after ⟨events, once⟩
      obtain ⟨rfl, rfl⟩ := growOnce_gives.ran once
      exact ⟨.refl _, fun error failed => by cases failed; rfl⟩

theorem growTo_gives (bucket : Nat) : Op.Gives (growTo bucket).run heap fun result after =>
    Grows heap after ∧ ∀ error, result = .error error → error = .reservationDenied :=
  .getThe_bind (growTimes_gives _)

theorem take_gives (bucket : Nat) : Op.Gives (take bucket).run heap fun result after =>
    Searched heap (result.map (Option.map (·, bucket))) after := by
  refine .fallible_bind (growTo_gives bucket) ?_ ?_
  · rintro _ grown ⟨grows, -⟩
    refine .lift ((Op.Gives.self _ _).mono ?_)
    rintro found after ⟨events, ran⟩
    cases found with
    | none =>
      rw [pop_none ran]
      exact grows
    | some block => exact ⟨grown, events, grows, ran⟩
  · rintro error after ⟨grows, denied⟩
    obtain rfl := denied error rfl
    exact ⟨nofun, grows⟩

theorem takeBeside_gives (bucket above : Nat) : Op.Gives (takeBeside bucket above).run heap fun result after =>
    Searched heap (result.map fun block => some (block, bucket)) after := by
  refine .fallible_bind (growTo_gives above) ?_ ?_
  · rintro _ grown ⟨grows, -⟩
    refine .lift_bind (.self _ _) ?_
    rintro found after ⟨events, ran⟩
    cases found with
    | none =>
      refine .pure ⟨nofun, ?_⟩
      rw [pop_none ran]
      exact grows
    | some block => exact .pure ⟨grown, events, grows, ran⟩
  · rintro error after ⟨grows, denied⟩
    obtain rfl := denied error rfl
    exact ⟨nofun, grows⟩

/-- A search grows the tree some times, and takes a block off a list at last if it takes any. -/
theorem search_gives (bucket : Nat) : Op.Gives (search bucket).run heap (Searched heap) := by
  induction bucket generalizing heap with
  | zero =>
    refine .fallible_bind (take_gives 0) ?_ fun _ _ searched => searched
    intro found after searched
    cases found with
    | none => exact .pure searched
    | some block => exact .pure searched
  | succ above ih =>
    refine .fallible_bind (take_gives (above + 1)) ?_ fun _ _ searched => searched
    intro found after searched
    cases found with
    | some block => exact .pure searched
    | none =>
      refine .getThe_bind ?_
      split
      · refine .fallible_bind (takeBeside_gives (above + 1) above) ?_ ?_
        · exact fun block last beside => .pure (Searched.trans searched beside)
        · exact fun error last beside => Searched.trans searched beside
      · exact ih.mono fun _ _ later => Searched.trans searched later

theorem prepare_gives (idle : heap.ready = false) : Op.Gives prepare.run heap fun result after =>
    match result with
    | .ok () => heap.Preparable ∧ heap.window.base + heap.window.capacity < Word.bound
    | .error error => error ≠ .requestTooLarge ∧ (after = heap ∨ heap.Preparable ∧ after = heap.cleared) := by
  unfold prepare
  refine .getThe_bind ?_
  rw [if_neg (by simp [idle])]
  dsimp only
  split
  · exact .pure ⟨nofun, .inl rfl⟩
  split
  · exact .pure ⟨nofun, .inl rfl⟩
  rename_i enough large
  have preparable : heap.Preparable := ⟨Nat.not_lt.mp enough, Nat.not_lt.mp large⟩
  refine .set_bind (.lift_check_bind fun top _ => .fallible_bind commit_gives ?_ ?_)
  · rintro _ granted ⟨-, ⟨base, capacity⟩, -⟩
    refine .modify_bind (.lift_bind emptyList_gives fun _ emptied same => ?_)
    refine .lift_bind push_gives fun _ pushed fits => .modify_bind (.lift (.of_fact ⟨preparable, ?_⟩))
    have place : emptied.window = granted.window := same
    rwa [place, base, capacity] at fits
  · rintro error after ⟨-, -, failed⟩
    obtain ⟨rfl, rfl⟩ := failed error rfl
    exact ⟨nofun, .inr ⟨preparable, rfl⟩⟩

/-- Where an allocation ended. -/
inductive Attempt (request : Nat) (heap : Heap) : Except AllocError Nat → Heap → Prop
  | tooLarge : heap.geometry.maxBlock < request + headerSize →
      Attempt request heap (.error .requestTooLarge) heap
  | unprepared {error : AllocError} {events : List Event} {after : Heap} :
      request + headerSize ≤ heap.geometry.maxBlock →
      prepare.run heap = (events, .ok (.error error, after)) → Attempt request heap (.error error) after
  | refused {error : AllocError} {events : List Event} {prepared after : Heap} :
      prepare.run heap = (events, .ok (.ok (), prepared)) → error ≠ .requestTooLarge →
      Grows prepared after → Attempt request heap (.error error) after
  | putBack {bucket block : Nat} {events popping pushing : List Event} {prepared grown popped after : Heap} :
      prepare.run heap = (events, .ok (.ok (), prepared)) → Grows prepared grown →
      (pop bucket).run grown = (popping, .ok (some block, popped)) →
      (push bucket block).run popped = (pushing, .ok ((), after)) →
      Attempt request heap (.error .reservationDenied) after
  | handed {addr : Nat} {events : List Event} {prepared after : Heap} :
      prepare.run heap = (events, .ok (.ok (), prepared)) → Attempt request heap (.ok addr) after

/-- When the memory of a block is denied, the block is pushed back and nothing else happens. -/
theorem commitOrPutBack_gives {block : Nat} :
    Op.Gives (ExceptT.run (tryCatch (commit top) fun error => do
        push bucket block
        throw error : Alloc Unit)) heap fun result after =>
      ∀ error, result = .error error → error = .reservationDenied ∧
        ∃ events, (push bucket block).run heap = (events, .ok ((), after)) := by
  refine .tryCatch commit_gives (fun _ _ _ => nofun) ?_
  rintro error last ⟨-, -, failed⟩
  obtain ⟨rfl, rfl⟩ := failed error rfl
  refine .lift_bind (.self _ _) ?_
  rintro _ after pushed
  apply Op.Gives.pure
  rintro _ ⟨⟩
  exact ⟨rfl, pushed⟩

/-- Once the memory of a block is granted, nothing fails any more. -/
theorem finish_gives {times request block : Nat} :
    Op.Gives (ExceptT.run (do
        splitDown times node bucket
        store block request
        return (← Word.add block headerSize) : Alloc Nat)) heap fun result _ => ∃ addr, result = .ok addr :=
  .lift_bind (.self _ _) fun _ _ _ => .lift_bind (.self _ _) fun _ _ _ =>
    .lift (.check fun addr _ => ⟨addr, rfl⟩)

theorem allocate_attempts (request : Nat) : Op.Gives (allocate request).run heap (Attempt request heap) := by
  unfold allocate
  refine .getThe_bind ?_
  dsimp only
  split
  · rename_i large
    exact .pure (.tooLarge large)
  rename_i small
  refine .fallible_bind (.self _ _) ?_ ?_
  · rintro _ prepared ⟨events, prepares⟩
    refine .lift_check_bind fun wanted _ => .fallible_bind (search_gives wanted) ?_ ?_
    · intro found middle searched
      rcases found with _ | ⟨block, bucket⟩
      · refine .lift_bind note_gives ?_
        rintro _ after rfl
        exact .pure (.refused prepares nofun searched)
      · obtain ⟨grown, popping, grows, popped⟩ := searched
        have handed : ∀ result after, (∃ addr, result = .ok addr) → Attempt request heap result after := by
          rintro _ after ⟨addr, rfl⟩
          exact .handed prepares
        refine .lift_check_bind fun top _ => .fallible_bind commitOrPutBack_gives ?_ ?_
        · intro _ committed _
          refine .lift_bind (.self _ _) fun node _ _ => ?_
          split
          · exact .lift_bind (.self _ _) fun _ _ _ => finish_gives.mono handed
          · exact finish_gives.mono handed
        · intro error after denied
          obtain ⟨rfl, pushing, pushed⟩ := denied error rfl
          exact .putBack prepares grows popped pushed
    · rintro error after ⟨other, grows⟩
      exact .refused prepares other grows
  · rintro error after ⟨events, failed⟩
    exact .unprepared (Nat.not_lt.mp small) failed

end Nucleus.Buddy.Heap
