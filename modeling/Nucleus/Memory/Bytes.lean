import Nucleus.Word
import Std.Data.TreeMap

/-! Byte-addressed memory, kept as a background value and the bytes written over it, so that a
large untouched region costs nothing. -/
namespace Nucleus

structure Memory where
  background : UInt8
  written : Std.TreeMap Nat UInt8

namespace Memory

def filled (value : UInt8) : Memory := ⟨value, ∅⟩

def get (memory : Memory) (addr : Nat) : UInt8 := memory.written.getD addr memory.background

def set (memory : Memory) (addr : Nat) (byte : UInt8) : Memory :=
  { memory with written := memory.written.insert addr byte }

def read (memory : Memory) (addr len : Nat) : List UInt8 :=
  (List.range len).map fun i => memory.get (addr + i)

def write (memory : Memory) (addr : Nat) : List UInt8 → Memory
  | [] => memory
  | byte :: rest => (memory.set addr byte).write (addr + 1) rest

def readWord (memory : Memory) (addr : Nat) : Nat := Word.ofBytes (memory.read addr 8)

def writeWord (memory : Memory) (addr value : Nat) : Memory :=
  memory.write addr (Word.toBytes value)

@[simp] theorem get_filled (value : UInt8) (addr : Nat) : (filled value).get addr = value := by
  simp [get, filled]

theorem get_set (memory : Memory) (addr other : Nat) (byte : UInt8) :
    (memory.set addr byte).get other = if addr = other then byte else memory.get other := by
  simp [get, set, Std.TreeMap.getD_insert]

/-- A write puts its bytes in their places and changes nothing else. -/
theorem get_write (memory : Memory) (addr other : Nat) (bytes : List UInt8) :
    (memory.write addr bytes).get other =
      if addr ≤ other then bytes[other - addr]?.getD (memory.get other) else memory.get other := by
  induction bytes generalizing memory addr with
  | nil => simp [write]
  | cons byte rest ih =>
    rw [write, ih]
    by_cases first : addr = other
    · subst first
      have past : ¬ addr + 1 ≤ addr := by omega
      simp [get_set, past]
    · by_cases below : addr + 1 ≤ other
      · have place : other - addr = (other - (addr + 1)) + 1 := by omega
        have start : addr ≤ other := by omega
        simp [below, start, place, get_set, first]
      · have before : ¬ addr ≤ other := by omega
        simp [below, before, get_set, first]

@[simp] theorem length_read (memory : Memory) (addr len : Nat) :
    (memory.read addr len).length = len := by simp [read]

/-- What was written is read back. -/
theorem read_write (memory : Memory) (addr : Nat) (bytes : List UInt8) :
    (memory.write addr bytes).read addr bytes.length = bytes := by
  apply List.ext_getElem (by simp)
  intro i _ inside
  simp [read, get_write, inside]

theorem readWord_writeWord (memory : Memory) (addr : Nat) {value : Nat}
    (fits : value < Word.bound) : (memory.writeWord addr value).readWord addr = value := by
  have bytes := read_write memory addr (Word.toBytes value)
  rw [Word.length_toBytes] at bytes
  rw [readWord, writeWord, bytes, Word.ofBytes_toBytes fits]

end Memory

end Nucleus
