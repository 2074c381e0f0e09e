import Nucleus.BitArray
import Nucleus.Buddy.Error

/-! Block sizes of a buddy heap. Bucket `b` holds blocks of `2 ^ (maxLog - b)` bytes: bucket 0 is the
whole window, the last bucket holds the smallest blocks. Nodes of the tree of blocks are numbered by
level from the root: node `i` has the halves `2 * i + 1` and `2 * i + 2`. -/
namespace Nucleus.Buddy

/-- Bytes in front of every payload; they hold the size asked for. -/
def headerSize : Nat := 8

/-- Bytes of the two links at the start of a free block. -/
def linkSize : Nat := 16

/-- How many free lists a heap keeps: one per bit of an address. -/
def maxBuckets : Nat := 64

structure Geometry where
  minLog : Nat
  maxLog : Nat
  /-- The smallest block holds two links. -/
  four_le_minLog : 4 ≤ minLog
  minLog_le_maxLog : minLog ≤ maxLog
  maxLog_lt : maxLog < 64
deriving DecidableEq, Repr

namespace Geometry

def ofLogs (minLog maxLog : Nat) : Except AllocError Geometry :=
  if h : 4 ≤ minLog ∧ minLog ≤ maxLog ∧ maxLog < 64 then
    .ok ⟨minLog, maxLog, h.1, h.2.1, h.2.2⟩
  else .error .invalidConfig

/-- Blocks of 128 bytes and more in a window of 512 MiB. -/
def standard : Geometry := ⟨7, 29, by decide, by decide, by decide⟩

def minBlock (g : Geometry) : Nat := 1 <<< g.minLog

def maxBlock (g : Geometry) : Nat := 1 <<< g.maxLog

def bucketCount (g : Geometry) : Nat := g.maxLog - g.minLog + 1

def lastBucket (g : Geometry) : Nat := g.maxLog - g.minLog

def blockSize (g : Geometry) (bucket : Nat) : Nat := 1 <<< (g.maxLog - bucket)

/-- One bit for every node above the smallest blocks, in whole bytes. -/
def splitBytes (g : Geometry) : Nat := bytesFor (1 <<< g.lastBucket)

/-- The first address of a node's block; the node lies in `bucket`. -/
def addressOf (g : Geometry) (base node bucket : Nat) : Except Fault Nat := do
  let first ← Word.shiftLeft 1 bucket
  let index ← Word.sub (← Word.add node 1) first
  let offset ← Word.shiftLeft index (← Word.sub g.maxLog bucket)
  Word.add base offset

/-- The node of `bucket` whose block holds an address. -/
def nodeAt (g : Geometry) (base addr bucket : Nat) : Except Fault Nat := do
  let offset ← Word.sub addr base
  let index ← Word.shiftRight offset (← Word.sub g.maxLog bucket)
  let first ← Word.shiftLeft 1 bucket
  Word.sub (← Word.add index first) 1

def parent (node : Nat) : Except Fault Nat := do
  return (← Word.sub node 1) / 2

/-- The other half of the same block: left halves have odd numbers, right halves even ones. -/
def buddy (node : Nat) : Except Fault Nat := do
  Word.add ((← Word.sub node 1) ^^^ 1) 1

/-- From `bucket`, whose blocks have `size` bytes, up to the first one whose blocks hold `bytes`. -/
def bucketFrom (bytes : Nat) : (bucket size : Nat) → Except Fault Nat
  | bucket, size =>
    if bytes ≤ size then .ok bucket
    else match bucket with
      | 0 => .error .range
      | larger + 1 => bucketFrom bytes larger (size * 2 % Word.bound)

/-- The bucket of the smallest blocks that hold `bytes`. -/
def bucketFor (g : Geometry) (bytes : Nat) : Except Fault Nat :=
  bucketFrom bytes g.lastBucket g.minBlock

end Geometry

end Nucleus.Buddy
