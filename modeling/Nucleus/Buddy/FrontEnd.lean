import Nucleus.Buddy.Heap

/-! Three ways into one locked heap: with errors as values, with plain addresses where 0 is failure,
and with places in the memory behind the window for requests that name an alignment. -/
namespace Nucleus.Buddy

namespace Heap

def allocateLocked (request : Nat) : Op Heap (Except AllocError Nat) :=
  Op.locked .heap (allocate request).run

def releaseLocked (addr : Nat) : Op Heap Unit := Op.locked .heap (release addr)

/-- As processes see it: the payload's address, or 0. -/
def allocateOrZero (request : Nat) : Op Heap Nat := do
  match ← allocateLocked request with
  | .ok addr => return addr
  | .error error =>
    let message := Coded.message error
    Op.log .debug s!"[HEAP] allocate({request}) failed: {message}"
    return 0

end Heap

/-- A size and an alignment a request may name. -/
structure Layout where
  size : Nat
  align : Nat
deriving DecidableEq, Repr

namespace Layout

def isPowerOfTwo (n : Nat) : Bool := n ≠ 0 && n &&& (n - 1) = 0

/-- Alignments are powers of two, and the size rounded up to the alignment stays below `2 ^ 63`. -/
def ofSizeAlign? (size align : Nat) : Option Layout :=
  if isPowerOfTwo align && align ≤ 1 <<< 63 && size ≤ (1 <<< 63) - align then some ⟨size, align⟩ else none

end Layout

namespace Heap

/-- The place of a new payload in the memory behind the window, if one can be had. Payloads stand
eight bytes into a block, so a larger alignment is refused before the heap is looked at. -/
def allocatePlace (layout : Layout) : Op Heap (Option Nat) := do
  let align := layout.align
  if headerSize < align then
    Op.log .warn s!"[BUDDY] refusing layout with align {align}"
    return none
  Op.locked .heap do
    match ← (allocate layout.size).run with
    | .ok addr =>
      let heap ← get
      return some (heap.window.place addr)
    | .error _ => return none

def releasePlace (place : Nat) : Op Heap Unit :=
  Op.locked .heap do
    let heap ← get
    release (heap.window.addressOf place)

end Heap

end Nucleus.Buddy
