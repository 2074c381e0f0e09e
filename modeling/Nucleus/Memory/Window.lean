import Nucleus.Memory.Bytes
import Nucleus.Op

/-! The address range a heap carves up. A window is either a raw region, all of it granted from the
start, or a buffer that grants memory from its first byte up to a limit. Words are reached through
checked accesses, each of which leaves an event. -/
namespace Nucleus

inductive Grant where
  /-- The whole region is usable. -/
  | all
  /-- Memory is granted as it is reserved, `limit` bytes at most, `reserved` so far. -/
  | upTo (limit reserved : Nat)
deriving DecidableEq, Repr

structure Window where
  base : Nat
  capacity : Nat
  grant : Grant
  memory : Memory

namespace Window

def raw (base capacity : Nat) : Window := ⟨base, capacity, .all, Memory.filled 0⟩

/-- A buffer holds whole words, so its capacity is the next multiple of eight; it starts with
nothing reserved and grants the bytes asked for. -/
def buffer (base bytes : Nat) : Window :=
  ⟨base, (bytes + 7) / 8 * 8, .upTo bytes 0, Memory.filled 0⟩

/-- Refuses reservations of more than `limit` bytes. A raw region knows no limit. -/
def withLimit (window : Window) (limit : Nat) : Window :=
  match window.grant with
  | .all => window
  | .upTo _ reserved => { window with grant := .upTo (min limit window.capacity) reserved }

/-- The first address past the window; that of a window at the very end of memory is no word. -/
def top (window : Window) : Except Fault Nat := Word.add window.base window.capacity

def reserved? (window : Window) : Option Nat :=
  match window.grant with
  | .all => none
  | .upTo _ reserved => some reserved

/-- Asks for every address below `last`; the answer is whether they may be used. -/
def reserve (window : Window) (last : Nat) : Except Fault (Bool × Window) :=
  match window.grant with
  | .all => do return (decide (last ≤ (← window.top)), window)
  | .upTo limit reserved =>
    if last < window.base then .ok (true, window)
    else if limit < last - window.base then .ok (false, window)
    else .ok (true, { window with grant := .upTo limit (max reserved (last - window.base)) })

/-- Whether a range lies inside. The end of the window matters only to a range that starts at its
base or above and ends at a word. -/
def contains (window : Window) (addr len : Nat) : Except Fault Bool :=
  if window.base ≤ addr ∧ addr + len < Word.bound then do
    return decide (addr + len ≤ (← window.top))
  else .ok false

/-- Where an address lies in the memory behind the window: a raw region is that memory, a buffer
starts at a place of its own, aligned to a word. -/
def place (window : Window) (addr : Nat) : Nat :=
  match window.grant with
  | .all => addr % Word.bound
  | .upTo .. => (addr % Word.bound + Word.bound - window.base) % Word.bound

/-- The address of a place in the memory behind the window. -/
def addressOf (window : Window) (place : Nat) : Nat :=
  match window.grant with
  | .all => place % Word.bound
  | .upTo .. => (place + window.base) % Word.bound

def fetch (addr : Nat) : Op Window Nat := do
  let window ← get
  if ← window.contains addr 8 then
    Op.emit (.fetched addr)
    pure (window.memory.readWord addr)
  else Op.check (.error .access)

def store (addr value : Nat) : Op Window Unit := do
  let window ← get
  if ← window.contains addr 8 then
    Op.emit (.stored addr value)
    set { window with memory := window.memory.writeWord addr value }
  else Op.check (.error .access)

/-- In a window that ends at a word, a range lies inside when its two ends do. -/
theorem contains_eq_ok {window : Window} (fits : window.base + window.capacity < Word.bound)
    (addr len : Nat) :
    window.contains addr len =
      .ok (decide (window.base ≤ addr ∧ addr + len ≤ window.base + window.capacity)) := by
  unfold contains
  split
  · rename_i within
    rw [top, Word.add_eq_ok fits]
    simp [within.1, pure, Except.pure, bind, Except.bind]
  · rename_i outside
    have apart : ¬ (window.base ≤ addr ∧ addr + len ≤ window.base + window.capacity) :=
      fun both => outside ⟨both.1, Nat.lt_of_le_of_lt both.2 fits⟩
    simp [apart]

@[simp] theorem contains_withMemory (window : Window) (memory : Memory) (addr len : Nat) :
    ({ window with memory } : Window).contains addr len = window.contains addr len := rfl

theorem run_fetch {window : Window} {addr : Nat} (inside : window.contains addr 8 = .ok true) :
    (fetch addr).run window = ([.fetched addr], .ok (window.memory.readWord addr, window)) := by
  simp [fetch, Op.run_bind, Op.run_map, inside]

theorem run_store {window : Window} {addr : Nat} (value : Nat)
    (inside : window.contains addr 8 = .ok true) :
    (store addr value).run window =
      ([.stored addr value],
        .ok ((), { window with memory := window.memory.writeWord addr value })) := by
  simp [store, Op.run_bind, inside]

def readBytes (window : Window) (addr len : Nat) : Except Fault (List UInt8) := do
  if ← window.contains addr len then return window.memory.read addr len
  else throw .access

def writeBytes (window : Window) (addr : Nat) (bytes : List UInt8) : Except Fault Window := do
  if ← window.contains addr bytes.length then
    return { window with memory := window.memory.write addr bytes }
  else throw .access

end Window

end Nucleus
