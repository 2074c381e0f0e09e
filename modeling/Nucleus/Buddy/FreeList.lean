import Nucleus.Memory.Window

/-! Doubly linked lists threaded through the free blocks themselves: a free block's first word links
to the entry before it, its second word to the entry after it. The largest word marks an end. -/
namespace Nucleus.Buddy

/-- The address of a neighbour on a list, or none at an end. -/
abbrev Link := Option Nat

namespace Link

def absent : Nat := Word.bound - 1

def ofWord (word : Nat) : Link := if word = absent then none else some word

def toWord (link : Link) : Nat := link.getD absent

theorem ofWord_toWord {link : Link} (present : link ≠ some absent) : ofWord link.toWord = link := by
  cases link with
  | none => rfl
  | some addr =>
    have other : addr ≠ absent := fun same => present (congrArg some same)
    simp [toWord, ofWord, other]

end Link

def previousLink (block : Nat) : Op Window Link := return Link.ofWord (← Window.fetch block)

def nextLink (block : Nat) : Op Window Link := return Link.ofWord (← Window.fetch (block + 8))

def setPrevious (block : Nat) (link : Link) : Op Window Unit := Window.store block link.toWord

def setNext (block : Nat) (link : Link) : Op Window Unit := Window.store (block + 8) link.toWord

/-- One list; its entries run from the oldest, `head`, to the newest, `tail`. -/
structure FreeList where
  head : Link
  tail : Link
  length : Nat
deriving DecidableEq, Repr

namespace FreeList

def empty : FreeList := ⟨none, none, 0⟩

/-- Appends a block as the newest entry. -/
def push (list : FreeList) (block : Nat) : Op Window FreeList := do
  setPrevious block list.tail
  setNext block none
  match list.tail with
  | none => return ⟨some block, some block, ← Word.add list.length 1⟩
  | some newest =>
    setNext newest (some block)
    return ⟨list.head, some block, ← Word.add list.length 1⟩

/-- Unlinks an entry, wherever it stands. -/
def remove (list : FreeList) (block : Nat) : Op Window FreeList := do
  let before ← previousLink block
  let after ← nextLink block
  match before with
  | none => pure ()
  | some entry => setNext entry after
  match after with
  | none => pure ()
  | some entry => setPrevious entry before
  let length ← Word.sub list.length 1
  pure ⟨if before.isNone then after else list.head,
    if after.isNone then before else list.tail, length⟩

/-- Takes the newest entry off. -/
def pop (list : FreeList) : Op Window (Option Nat × FreeList) :=
  match list.tail with
  | none => pure (none, list)
  | some newest => return (some newest, ← list.remove newest)

/-- A walk from the oldest entry on; it ends at an end link or after the list's length. -/
structure Cursor where
  next : Link
  remaining : Nat
deriving DecidableEq, Repr

def start (list : FreeList) : Cursor := ⟨list.head, list.length⟩

/-- The next entry and the walk after it. -/
def Cursor.advance (cursor : Cursor) : Op Window (Option (Nat × Cursor)) :=
  match cursor.next, cursor.remaining with
  | some block, left + 1 => return some (block, ⟨← nextLink block, left⟩)
  | _, _ => pure none

def Cursor.collect : (steps : Nat) → Cursor → Op Window (List Nat)
  | 0, _ => pure []
  | steps + 1, cursor => do
    match ← cursor.advance with
    | none => return []
    | some (block, cursor) => return block :: (← cursor.collect steps)

/-- The entries, oldest first. -/
def entries (list : FreeList) : Op Window (List Nat) := list.start.collect list.length

end FreeList

end Nucleus.Buddy
