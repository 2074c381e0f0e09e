import Nucleus.Memory.Bytes

/-! A fixed number of bits packed into bytes: bit `i` is bit `i % 8` of byte `i / 8`. An index past
the last byte is a fault. -/
namespace Nucleus

/-- How many bytes hold a number of bits. -/
def bytesFor (bits : Nat) : Nat := bits / 8 + (if bits % 8 = 0 then 0 else 1)

structure BitArray where
  /-- The length in bytes. -/
  size : Nat
  memory : Memory

namespace BitArray

def filled (size : Nat) (value : UInt8) : BitArray := ⟨size, Memory.filled value⟩

def ofBytes (bytes : List UInt8) : BitArray :=
  ⟨bytes.length, (Memory.filled 0).write 0 bytes⟩

def bytes (bits : BitArray) : List UInt8 := bits.memory.read 0 bits.size

def bit (bits : BitArray) (index : Nat) : Bool :=
  (bits.memory.get (index / 8)).toNat.testBit (index % 8)

def get (bits : BitArray) (index : Nat) : Except Fault Bool :=
  if index / 8 < bits.size then .ok (bits.bit index) else .error .index

/-- Turns one bit over and returns its new value. -/
def flip (bits : BitArray) (index : Nat) : Except Fault (Bool × BitArray) :=
  if index / 8 < bits.size then
    let byte := (bits.memory.get (index / 8)).toNat ^^^ (1 <<< (index % 8))
    let turned := { bits with memory := bits.memory.set (index / 8) (UInt8.ofNat byte) }
    .ok (turned.bit index, turned)
  else .error .index

def clear (bits : BitArray) : BitArray := { bits with memory := Memory.filled 0 }

/-- The set bits of one byte, numbered from `8 * place`. -/
def bitsOfByte (place : Nat) (byte : UInt8) : List Nat :=
  (List.range 8).filterMap fun i => if byte.toNat.testBit i then some (8 * place + i) else none

/-- The numbers of the set bits, ascending. Over a zero background only written bytes can hold any. -/
def setBits (bits : BitArray) : List Nat :=
  if bits.memory.background = 0 then
    (bits.memory.written.toList.filter (·.1 < bits.size)).flatMap fun (place, byte) =>
      bitsOfByte place byte
  else
    (List.range bits.size).flatMap fun place => bitsOfByte place (bits.memory.get place)

end BitArray

end Nucleus
