import Nucleus.Interrupt.Flag

/-! Locks that keep interrupts off while they are held. Taking one turns interrupts off and keeps the
state from before with the guard; dropping the guard restores that state. Guards may be dropped in any
order. -/
namespace Nucleus.Interrupt

/-- A held lock, with the interrupt state from before it was taken. -/
structure Guard (ι : Type) where
  lock : ι
  saved : UInt64
deriving DecidableEq, Repr

structure Locks (ι : Type) where
  switch : Switch
  /-- The guards in existence, the latest first. -/
  guards : List (Guard ι)
deriving DecidableEq, Repr

namespace Locks
variable {ι : Type} [DecidableEq ι]

def allFree (enabled : Bool) : Locks ι := ⟨⟨enabled⟩, []⟩

def holds (locks : Locks ι) (lock : ι) : Bool := locks.guards.any (·.lock = lock)

/-- Takes a free lock. Nobody gets a lock that is held: the taker would wait for itself. -/
def take (locks : Locks ι) (lock : ι) : Option (Locks ι) :=
  if locks.holds lock then none
  else
    let (saved, switch) := locks.switch.disable
    some ⟨switch, ⟨lock, saved⟩ :: locks.guards⟩

/-- Drops the guard on a lock; without one nothing happens. -/
def drop (locks : Locks ι) (lock : ι) : Locks ι :=
  match locks.guards.find? (·.lock = lock) with
  | none => locks
  | some guard =>
    ⟨locks.switch.restore guard.saved, locks.guards.filter (·.lock ≠ lock)⟩

end Locks

/-- Numbered locks with a value behind each. -/
structure Cells where
  locks : Locks Nat
  values : List Nat

namespace Cells

def ofValues (values : List Nat) : Cells := ⟨Locks.allFree true, values⟩

/-- Takes a free lock; the answer is its value. -/
def take (cells : Cells) (lock : Nat) : Option (Nat × Cells) := do
  let value ← cells.values[lock]?
  let locks ← cells.locks.take lock
  return (value, { cells with locks })

/-- Writes through a guard, if there is one. -/
def put (cells : Cells) (lock value : Nat) : Option Cells :=
  if cells.locks.holds lock then some { cells with values := cells.values.set lock value } else none

def drop (cells : Cells) (lock : Nat) : Cells := { cells with locks := cells.locks.drop lock }

end Cells

end Nucleus.Interrupt
