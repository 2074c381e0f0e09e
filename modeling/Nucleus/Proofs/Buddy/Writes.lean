import Nucleus.Buddy.Heap
import Nucleus.Proofs.Buddy.Links

/-! Where a heap writes. Its operations are made of steps on its lists, of headers, and of steps that
leave lists and memory alone; a step on a list writes to the links of blocks that are free before or
after it. -/
namespace Nucleus.Buddy

/-- What can be done to a list and the memory behind it. -/
inductive ListAct : {α : Type} → (FreeList → Op Window (α × FreeList)) → Prop
  | push (block : Nat) : ListAct fun list => return ((), ← list.push block)
  | remove (block : Nat) : ListAct fun list => return ((), ← list.remove block)
  | pop : ListAct FreeList.pop
  | walk : ListAct fun list => return (← list.entries, list)

namespace Heap

/-- The block at an address is free: one of the lists stands for a sequence with this entry. -/
def Lists (heap : Heap) (start : Nat) : Prop :=
  ∃ bucket, ∃ valid : bucket < maxBuckets, ∃ entries,
    heap.lists[bucket].Holds heap.window.memory entries ∧ start ∈ entries

/-- One of the two link words of a block that is free in one of two states. -/
def LinksFree (before after : Heap) (addr : Nat) : Prop :=
  ∃ start, (before.Lists start ∨ after.Lists start) ∧ (addr = start ∨ addr = start + 8)

inductive Step (header : Nat → Nat → Prop) : Heap → List Event → Heap → Prop
  | list {before after : Heap} {events : List Event} {bucket : Nat} {α : Type} {value : α}
      {act : FreeList → Op Window (α × FreeList)} : ListAct act →
      (onList bucket act).run before = (events, .ok (value, after)) →
      (∀ addr word, .stored addr word ∈ events → LinksFree before after addr) →
      Step header before events after
  | head {before after : Heap} {events : List Event} {addr value : Nat} : header addr value →
      (store addr value).run before = (events, .ok ((), after)) → Step header before events after
  | aside {before after : Heap} {events : List Event} : after.lists = before.lists →
      after.window.memory = before.window.memory →
      (∀ addr word, .stored addr word ∉ events) → Step header before events after

/-- Steps one after the other; `header` says which headers may be written. -/
inductive Writes (header : Nat → Nat → Prop) : Heap → List Event → Heap → Prop
  | refl (heap : Heap) : Writes header heap [] heap
  | step {before middle after : Heap} {first rest : List Event} : Step header before first middle →
      Writes header middle rest after → Writes header before (first ++ rest) after

variable {header more : Nat → Nat → Prop} {before middle after : Heap} {events rest : List Event}

theorem Step.mono (step : Step header before events after)
    (grows : ∀ addr value, header addr value → more addr value) : Step more before events after := by
  cases step with
  | list act ran links => exact .list act ran links
  | head allowed ran => exact .head (grows _ _ allowed) ran
  | aside lists memory none => exact .aside lists memory none

theorem Writes.mono (writes : Writes header before events after)
    (grows : ∀ addr value, header addr value → more addr value) : Writes more before events after := by
  induction writes with
  | refl heap => exact .refl heap
  | step first _ ih => exact .step (first.mono grows) ih

theorem Writes.trans (earlier : Writes header before events middle) (later : Writes header middle rest after) :
    Writes header before (events ++ rest) after := by
  induction earlier with
  | refl => exact later
  | step first _ ih =>
    rw [List.append_assoc]
    exact .step first (ih later)

theorem Step.writes (step : Step header before events after) : Writes header before events after := by
  have alone := Writes.step step (.refl after)
  rwa [List.append_nil] at alone

/-- A change that keeps lists and memory and writes nothing. -/
theorem Writes.aside (lists : after.lists = before.lists)
    (memory : after.window.memory = before.window.memory) (none : ∀ addr word, .stored addr word ∉ events) :
    Writes header before events after :=
  (Step.aside lists memory none).writes

end Heap

end Nucleus.Buddy
