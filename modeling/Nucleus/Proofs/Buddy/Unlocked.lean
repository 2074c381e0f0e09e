import Nucleus.Buddy.FrontEnd
import Nucleus.Proofs.Watching

/-! A heap at work, in whatever state and whether or not it ends with a fault, takes no lock, drops none and switches
to nobody: it passes every watch that lets all other events pass. -/
namespace Nucleus

/-- Neither about a lock nor about a switch. -/
def Event.Plain : Event → Prop
  | .took _ | .dropped _ | .switched _ _ => False
  | .logged _ | .fetched _ | .stored _ _ | .committed _ => True

namespace Buddy
variable {σ τ α : Type} {watch : Watch τ} {place : τ}
variable (plain : ∀ event, event.Plain → watch place event = some place)
include plain

theorem log_passes (level : Log.Level) (text : String) : (Op.log level text : Op σ Unit).Passes watch place :=
  .emit (plain _ trivial)

/-! ### Words and links -/

theorem fetch_passes (addr : Nat) : (Window.fetch addr).Passes watch place := by
  refine Op.Passes.get.bind fun window => (Op.Passes.check _).bind fun allowed => ?_
  split
  · exact (Op.Passes.emit (plain (.fetched addr) trivial)).bind fun _ => .pure _
  · exact .check _

theorem store_passes (addr value : Nat) : (Window.store addr value).Passes watch place := by
  refine Op.Passes.get.bind fun window => (Op.Passes.check _).bind fun allowed => ?_
  split
  · exact (Op.Passes.emit (plain (.stored addr value) trivial)).bind fun _ => .set _
  · exact .check _

theorem setNext_passes (block : Nat) (link : Link) : (setNext block link).Passes watch place :=
  store_passes plain _ _

theorem setPrevious_passes (block : Nat) (link : Link) : (setPrevious block link).Passes watch place :=
  store_passes plain _ _

namespace FreeList

theorem push_passes (list : FreeList) (block : Nat) : (list.push block).Passes watch place := by
  refine (setPrevious_passes plain _ _).bind fun _ => (setNext_passes plain _ _).bind fun _ => ?_
  split
  · exact (Op.Passes.check _).bind fun _ => .pure _
  · exact (setNext_passes plain _ _).bind fun _ => (Op.Passes.check _).bind fun _ => .pure _

theorem remove_passes (list : FreeList) (block : Nat) : (list.remove block).Passes watch place := by
  refine ((fetch_passes plain _).bind fun _ => .pure _).bind fun before =>
    ((fetch_passes plain _).bind fun _ => .pure _).bind fun after => ?_
  cases before with
  | none =>
    cases after with
    | none => exact (Op.Passes.check _).bind fun _ => .pure _
    | some next => exact (setPrevious_passes plain _ _).bind fun _ => (Op.Passes.check _).bind fun _ => .pure _
  | some previous =>
    refine (setNext_passes plain _ _).bind fun _ => ?_
    cases after with
    | none => exact (Op.Passes.check _).bind fun _ => .pure _
    | some next => exact (setPrevious_passes plain _ _).bind fun _ => (Op.Passes.check _).bind fun _ => .pure _

theorem pop_passes (list : FreeList) : list.pop.Passes watch place := by
  rw [FreeList.pop]
  split
  · exact .pure _
  · exact (remove_passes plain list _).bind fun _ => .pure _

end FreeList

namespace Heap

/-! ### Lists, nodes and grants -/

omit plain in
/-- Whether or not there is such a bucket, the rest of the heap takes no part in work on a list. -/
theorem onList_passes {bucket : Nat} {act : FreeList → Op Window (α × FreeList)}
    (passes : ∀ list, (act list).Passes watch place) : (onList bucket act).Passes watch place := by
  intro heap
  simp only [Op.run, onList]
  split
  · rename_i below
    obtain ⟨left, passed, back⟩ := passes heap.lists[bucket] heap.window
    simp only [Op.run] at passed back
    rcases ran : act heap.lists[bucket] heap.window with ⟨events, fault | ⟨⟨value, list⟩, window⟩⟩
    · rw [ran] at passed
      exact ⟨left, passed, Op.Passes.faulted⟩
    · rw [ran] at passed back
      exact ⟨left, passed, fun _ _ _ => back (value, list) window rfl⟩
  · exact ⟨place, rfl, Op.Passes.faulted⟩

theorem push_passes (bucket block : Nat) : (push bucket block).Passes watch place :=
  onList_passes fun list => (FreeList.push_passes plain list block).bind fun _ => .pure _

theorem remove_passes (bucket block : Nat) : (remove bucket block).Passes watch place :=
  onList_passes fun list => (FreeList.remove_passes plain list block).bind fun _ => .pure _

theorem pop_passes (bucket : Nat) : (pop bucket).Passes watch place :=
  onList_passes (FreeList.pop_passes plain)

omit plain in
theorem emptyList_passes (bucket : Nat) : (emptyList bucket).Passes watch place :=
  onList_passes fun _ => .pure _

omit plain in
theorem addressOf_passes (node bucket : Nat) : (addressOf node bucket).Passes watch place :=
  Op.Passes.get.bind fun _ => .check _

omit plain in
theorem nodeAt_passes (addr bucket : Nat) : (nodeAt addr bucket).Passes watch place :=
  Op.Passes.get.bind fun _ => .check _

omit plain in
theorem parentIsSplit_passes (node : Nat) : (parentIsSplit node).Passes watch place :=
  (Op.Passes.check _).bind fun _ => Op.Passes.get.bind fun _ => .check _

omit plain in
theorem flipParent_passes (node : Nat) : (flipParent node).Passes watch place :=
  Op.Passes.get.bind fun _ => (Op.Passes.check _).bind fun _ => (Op.Passes.check _).bind fun _ => .set _

/-- A commitment that is denied is logged. -/
theorem tryCommit_passes (top : Nat) : (tryCommit top).Passes watch place := by
  refine Op.Passes.get.bind fun heap => ?_
  split
  · refine (Op.Passes.check _).bind fun answer => ?_
    split
    · exact (Op.Passes.set _).bind fun _ => (Op.Passes.emit (plain (.committed top) trivial)).bind fun _ => .pure _
    · exact (log_passes plain _ _).bind fun _ => .pure _
  · exact .pure _

theorem commit_passes (top : Nat) : (commit top).run.Passes watch place := by
  refine (Op.Passes.lift (tryCommit_passes plain top)).fallible_bind fun granted => ?_
  cases granted with
  | true => exact .fallible_pure _
  | false => exact .throw _

/-! ### Growing -/

/-- Preparing may fail before it has touched anything, or when the first block is denied. -/
theorem prepare_passes : prepare.run.Passes watch place := by
  refine Op.Passes.fallible_get.fallible_bind fun heap => ?_
  split
  · exact .fallible_pure _
  dsimp only
  split
  · exact .throw_bind _ _
  split
  · exact .throw_bind _ _
  refine (Op.Passes.fallible_set _).fallible_bind fun _ => ?_
  refine (Op.Passes.lift_check _).fallible_bind fun first => (commit_passes plain first).fallible_bind fun _ => ?_
  refine (Op.Passes.fallible_modify _).fallible_bind fun _ => ?_
  refine (Op.Passes.lift (emptyList_passes _)).fallible_bind fun _ => ?_
  refine (Op.Passes.lift (push_passes plain _ _)).fallible_bind fun _ => ?_
  refine (Op.Passes.fallible_modify _).fallible_bind fun _ => ?_
  exact .lift (log_passes plain _ _)

/-- A free root becomes a block of twice the size; one in use gets a free buddy. -/
theorem growOnce_passes : growOnce.run.Passes watch place := by
  refine Op.Passes.fallible_get.fallible_bind fun heap => ?_
  refine (Op.Passes.lift (nodeAt_passes _ _)).fallible_bind fun root => ?_
  refine (Op.Passes.lift (parentIsSplit_passes _)).fallible_bind fun split => ?_
  cases split with
  | true =>
    refine (Op.Passes.lift_check _).fallible_bind fun next => ?_
    refine (Op.Passes.lift (addressOf_passes _ _)).fallible_bind fun right => ?_
    refine (Op.Passes.lift_check _).fallible_bind fun last => (commit_passes plain last).fallible_bind fun _ => ?_
    refine (Op.Passes.lift (push_passes plain _ _)).fallible_bind fun _ => ?_
    refine (Op.Passes.lift_check _).fallible_bind fun above => ?_
    refine (Op.Passes.fallible_modify _).fallible_bind fun _ => ?_
    refine (Op.Passes.lift (emptyList_passes _)).fallible_bind fun _ => ?_
    refine (Op.Passes.lift_check _).fallible_bind fun parent => ?_
    dsimp only
    split
    · exact (Op.Passes.lift (flipParent_passes _)).fallible_bind fun _ => .lift (log_passes plain _ _)
    · exact .lift (log_passes plain _ _)
  | false =>
    refine (Op.Passes.lift (remove_passes plain _ _)).fallible_bind fun _ => ?_
    refine (Op.Passes.lift_check _).fallible_bind fun above => ?_
    refine (Op.Passes.fallible_modify _).fallible_bind fun _ => ?_
    refine (Op.Passes.lift (emptyList_passes _)).fallible_bind fun _ => ?_
    exact .lift (push_passes plain _ _)

theorem growTimes_passes (times : Nat) : (growTimes times).run.Passes watch place := by
  induction times with
  | zero => exact .fallible_pure _
  | succ times ih => exact (growOnce_passes plain).fallible_bind fun _ => ih

theorem growTo_passes (bucket : Nat) : (growTo bucket).run.Passes watch place :=
  Op.Passes.fallible_get.fallible_bind fun _ => growTimes_passes plain _

theorem take_passes (bucket : Nat) : (take bucket).run.Passes watch place :=
  (growTo_passes plain bucket).fallible_bind fun _ => .lift (pop_passes plain bucket)

theorem takeBeside_passes (bucket above : Nat) : (takeBeside bucket above).run.Passes watch place := by
  refine (growTo_passes plain above).fallible_bind fun _ => ?_
  refine (Op.Passes.lift (pop_passes plain bucket)).fallible_bind fun found => ?_
  cases found with
  | some block => exact .fallible_pure _
  | none => exact .throw _

/-- The search tries ever larger blocks and may grow the tree at each. -/
theorem search_passes (bucket : Nat) : (search bucket).run.Passes watch place := by
  induction bucket with
  | zero =>
    refine (take_passes plain 0).fallible_bind fun found => ?_
    cases found <;> exact .fallible_pure _
  | succ above ih =>
    refine (take_passes plain (above + 1)).fallible_bind fun found => ?_
    cases found with
    | some block => exact .fallible_pure _
    | none =>
      refine Op.Passes.fallible_get.fallible_bind fun heap => ?_
      split
      · exact (takeBeside_passes plain _ _).fallible_bind fun _ => .fallible_pure _
      · exact ih

/-! ### Whole requests -/

theorem splitDown_passes (times node bucket : Nat) : (splitDown times node bucket).Passes watch place := by
  induction times generalizing node bucket with
  | zero => exact .pure _
  | succ times ih =>
    refine (Op.Passes.check _).bind fun twice => (Op.Passes.check _).bind fun left => ?_
    refine (flipParent_passes _).bind fun _ => (Op.Passes.check _).bind fun next => ?_
    exact (addressOf_passes _ _).bind fun right => (push_passes plain _ _).bind fun _ => ih _ _

/-- An allocation with all ways to fail, one of which puts a block back on its list. -/
theorem allocate_passes (request : Nat) : (allocate request).run.Passes watch place := by
  refine Op.Passes.fallible_get.fallible_bind fun heap => ?_
  dsimp only
  split
  · exact .throw_bind _ _
  refine (prepare_passes plain).fallible_bind fun _ => (Op.Passes.lift_check _).fallible_bind fun wanted => ?_
  refine (search_passes plain _).fallible_bind fun found => ?_
  rcases found with none | ⟨block, bucket⟩
  · exact (Op.Passes.lift (log_passes plain _ _)).fallible_bind fun _ => .throw _
  refine (Op.Passes.lift_check _).fallible_bind fun top => ?_
  refine Op.Passes.fallible_bind (Op.Passes.tryCatch (commit_passes plain top) fun _ =>
    (Op.Passes.lift (push_passes plain _ _)).fallible_bind fun _ => .throw _) fun _ => ?_
  refine (Op.Passes.lift (nodeAt_passes _ _)).fallible_bind fun node => ?_
  have carved : ∀ _ : PUnit, (ExceptT.run (do
      splitDown (wanted - bucket) node bucket
      store block request
      return (← Word.add block headerSize) : Alloc Nat)).Passes watch place := by
    intro _
    refine (Op.Passes.lift (splitDown_passes plain _ _ _)).fallible_bind fun _ => ?_
    refine (Op.Passes.lift (Op.Passes.onPart (store_passes plain _ _))).fallible_bind fun _ => ?_
    exact .lift_check _
  split
  · exact (Op.Passes.lift (flipParent_passes _)).fallible_bind carved
  · exact carved ()

theorem tryJoin_passes (node bucket : Nat) : (tryJoin node bucket).Passes watch place := by
  refine (flipParent_passes _).bind fun _ => Op.Passes.get.bind fun heap => ?_
  refine (parentIsSplit_passes _).bind fun split => ?_
  split
  · exact .pure _
  refine (Op.Passes.check _).bind fun buddy => (addressOf_passes _ _).bind fun addr => ?_
  exact (remove_passes plain _ _).bind fun _ => (Op.Passes.check _).bind fun _ => .pure _

theorem joinUp_passes (bucket node : Nat) : (joinUp bucket node).Passes watch place := by
  induction bucket generalizing node with
  | zero =>
    rw [joinUp]
    split
    · exact .pure _
    refine (tryJoin_passes plain _ _).bind fun joined => ?_
    cases joined with
    | none => exact .pure _
    | some parent => exact .check _
  | succ above ih =>
    rw [joinUp]
    split
    · exact .pure _
    refine (tryJoin_passes plain _ _).bind fun joined => ?_
    cases joined with
    | none => exact .pure _
    | some parent => exact ih parent

/-- A release, also of an address that is dropped with a warning. -/
theorem release_passes (addr : Nat) : (release addr).Passes watch place := by
  rw [release]
  split
  · exact .pure _
  refine Op.Passes.get.bind fun heap => ?_
  dsimp only
  split
  · exact log_passes plain _ _
  refine (Op.Passes.onPart (fetch_passes plain _)).bind fun request => ?_
  split
  · exact log_passes plain _ _
  refine (Op.Passes.check _).bind fun bucket => ?_
  split
  · exact log_passes plain _ _
  refine (nodeAt_passes _ _).bind fun node => (joinUp_passes plain _ _).bind fun joined => ?_
  exact (addressOf_passes _ _).bind fun _ => push_passes plain _ _

end Heap
end Buddy
end Nucleus
