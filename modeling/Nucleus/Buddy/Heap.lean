import Nucleus.Buddy.FreeList
import Nucleus.Buddy.Geometry
import Nucleus.Text.Hex

/-! The buddy heap. The tree of blocks starts as one smallest block at the base of the window and
doubles when a request needs it; a split bit per inner node tells whether exactly one half is in use.
Every block handed out starts with a header that holds the size asked for. -/
namespace Nucleus.Buddy

structure Heap where
  geometry : Geometry
  window : Window
  /-- One free list per bucket. -/
  lists : Vector FreeList maxBuckets
  /-- The bucket of the tree's root. -/
  rootBucket : Nat
  split : BitArray
  /-- The end of the memory granted so far. -/
  highWater : Nat
  ready : Bool

/-- An allocation step: it may fail with an error, and keeps what it changed before. -/
abbrev Alloc := ExceptT AllocError (Op Heap)

namespace Heap

/-- A heap that has touched nothing yet. -/
def fresh (geometry : Geometry) (window : Window) (split : BitArray) : Heap :=
  ⟨geometry, window, Vector.replicate maxBuckets FreeList.empty, 0, split, 0, false⟩

/-- Runs a list operation on the list of one bucket and on the window's memory. -/
def onList {α : Type} (bucket : Nat) (act : FreeList → Op Window (α × FreeList)) : Op Heap α :=
  fun heap =>
    if h : bucket < maxBuckets then
      match act heap.lists[bucket] heap.window with
      | (events, .ok ((value, list), window)) =>
        (events, .ok (value, { heap with lists := heap.lists.set bucket list, window }))
      | (events, .error fault) => (events, .error fault)
    else ([], .error .index)

def push (bucket block : Nat) : Op Heap Unit :=
  onList bucket fun list => return ((), ← list.push block)

def remove (bucket block : Nat) : Op Heap Unit :=
  onList bucket fun list => return ((), ← list.remove block)

def pop (bucket : Nat) : Op Heap (Option Nat) := onList bucket FreeList.pop

def emptyList (bucket : Nat) : Op Heap Unit := onList bucket fun _ => return ((), FreeList.empty)

/-- The free blocks of a bucket, oldest first. -/
def freeBlocks (bucket : Nat) : Op Heap (List Nat) :=
  onList bucket fun list => return (← list.entries, list)

def onWindow {α : Type} (op : Op Window α) : Op Heap α :=
  Op.onPart window (fun window heap => { heap with window }) op

def addressOf (node bucket : Nat) : Op Heap Nat := do
  let heap ← get
  heap.geometry.addressOf heap.window.base node bucket

def nodeAt (addr bucket : Nat) : Op Heap Nat := do
  let heap ← get
  heap.geometry.nodeAt heap.window.base addr bucket

/-- Whether exactly one half of a node is in use. -/
def isSplit (node : Nat) : Op Heap Bool := do
  let heap ← get
  heap.split.get node

def parentIsSplit (node : Nat) : Op Heap Bool := do
  isSplit (← Geometry.parent node)

def flipParent (node : Nat) : Op Heap Unit := do
  let heap ← get
  let (_, split) ← heap.split.flip (← Geometry.parent node)
  set { heap with split }

def fetch (addr : Nat) : Op Heap Nat := onWindow (Window.fetch addr)

def store (addr value : Nat) : Op Heap Unit := onWindow (Window.store addr value)

def note (text : String) : Op Heap Unit := Op.log .debug text

def warn (text : String) : Op Heap Unit := Op.log .warn text

/-- Asks the window for the memory below `top`; the answer is whether it was granted. -/
def tryCommit (top : Nat) : Op Heap Bool := do
  let heap ← get
  if heap.highWater < top then
    match ← heap.window.reserve top with
    | (true, window) =>
      set { heap with window, highWater := top }
      Op.emit (.committed top)
      pure true
    | (false, _) =>
      note s!"[BUDDY] reservation up to {Text.hex top} denied"
      pure false
  else pure true

/-- Moves the end of granted memory up to `top`, if the window agrees. -/
def commit (top : Nat) : Alloc Unit := do
  unless ← tryCommit top do throw .reservationDenied

/-- Before the first allocation: checks the sizes, clears the split bits and frees the first block. -/
def prepare : Alloc Unit := do
  let heap ← getThe Heap
  if heap.ready then return
  let geometry := heap.geometry
  let base := heap.window.base
  if heap.split.size < geometry.splitBytes then throw .splitStorageTooSmall
  if heap.window.capacity < geometry.maxBlock then throw .invalidConfig
  set { heap with split := heap.split.clear, highWater := base }
  commit (← Word.add base linkSize)
  modify fun heap => { heap with rootBucket := geometry.lastBucket }
  emptyList geometry.lastBucket
  push geometry.lastBucket base
  modify fun heap => { heap with ready := true }
  let size := geometry.maxBlock
  let count := geometry.bucketCount
  note s!"[BUDDY] window {Text.hex base}+{Text.hex size}, {count} buckets"

/-- Doubles the tree once. A tree that is free as a whole becomes a block of twice the size; the root
of a tree in use gets a free right half beside it and is marked in its own parent. -/
def growOnce : Alloc Unit := do
  let heap ← getThe Heap
  let base := heap.window.base
  let bucket := heap.rootBucket
  let root ← nodeAt base bucket
  if ← parentIsSplit root then
    let right ← addressOf (← Word.add root 1) bucket
    commit (← Word.add right linkSize)
    push bucket right
    let above ← Word.sub bucket 1
    modify fun heap => { heap with rootBucket := above }
    emptyList above
    let root ← Geometry.parent root
    if root ≠ 0 then flipParent root
    note s!"[BUDDY] tree grown to bucket {above}"
  else
    remove bucket base
    let above ← Word.sub bucket 1
    modify fun heap => { heap with rootBucket := above }
    emptyList above
    push above base

def growTimes : Nat → Alloc Unit
  | 0 => pure ()
  | times + 1 => do
    growOnce
    growTimes times

/-- Doubles the tree until its root lies in `bucket` or above. -/
def growTo (bucket : Nat) : Alloc Unit := do
  let heap ← getThe Heap
  growTimes (heap.rootBucket - bucket)

/-- Takes the newest free block of a bucket, with the tree grown so far that the bucket exists. -/
def take (bucket : Nat) : Alloc (Option Nat) := do
  growTo bucket
  pop bucket

/-- Grows the tree once past a root bucket without free blocks. The root is in use, so growing puts
its right half on the bucket's list. -/
def takeBeside (bucket above : Nat) : Alloc Nat := do
  growTo above
  match ← pop bucket with
  | some block => return block
  | none => throw .outOfMemory

/-- Takes a free block of `bucket`, or of the nearest bucket above that has one, growing the tree at
its root; nothing lies above bucket 0. Returns the block and its bucket. -/
def search : (bucket : Nat) → Alloc (Option (Nat × Nat))
  | 0 => do
    match ← take 0 with
    | some block => return some (block, 0)
    | none => return none
  | above + 1 => do
    match ← take (above + 1) with
    | some block => return some (block, above + 1)
    | none =>
      let heap ← getThe Heap
      if above + 1 = heap.rootBucket then
        return some (← takeBeside (above + 1) above, above + 1)
      else search above

/-- Halves a node's block `times` times, each time keeping the left half and freeing the right. -/
def splitDown : (times node bucket : Nat) → Op Heap Unit
  | 0, _, _ => pure ()
  | times + 1, node, bucket => do
    let left ← Word.add (← Word.add node node) 1
    flipParent left
    let right ← addressOf (← Word.add left 1) (bucket + 1)
    push (bucket + 1) right
    splitDown times left (bucket + 1)

/-- Hands out a block for `request` bytes and returns the address of its payload. -/
def allocate (request : Nat) : Alloc Nat := do
  let geometry := (← getThe Heap).geometry
  let needed := request + headerSize
  if geometry.maxBlock < needed then throw .requestTooLarge
  prepare
  let wanted ← geometry.bucketFor needed
  match ← search wanted with
  | none =>
    note s!"[BUDDY] out of memory for {request} byte request"
    throw .outOfMemory
  | some (block, bucket) =>
    let size := geometry.blockSize bucket
    let touched := if bucket < wanted then size / 2 + linkSize else size
    let top ← Word.add block touched
    tryCatch (commit top) fun error => do
      push bucket block
      throw error
    let node ← nodeAt block bucket
    if node ≠ 0 then flipParent node
    splitDown (wanted - bucket) node bucket
    store block request
    return (← Word.add block headerSize)

/-- Marks a node free in its parent. When its buddy is free too, takes the buddy off its list and
returns the parent, which is then free as a whole. -/
def tryJoin (node bucket : Nat) : Op Heap (Option Nat) := do
  flipParent node
  let heap ← get
  if (← parentIsSplit node) || bucket = heap.rootBucket then return none
  remove bucket (← addressOf (← Geometry.buddy node) bucket)
  return some (← Geometry.parent node)

/-- Joins a free node with its buddy as often as it can, up to the root; returns the node that results
and its bucket. -/
def joinUp : (bucket node : Nat) → Op Heap (Nat × Nat)
  | 0, node => do
    if node = 0 then return (node, 0)
    match ← tryJoin node 0 with
    | none => return (node, 0)
    | some _ => Op.check (.error .range)
  | above + 1, node => do
    if node = 0 then return (node, above + 1)
    match ← tryJoin node (above + 1) with
    | none => return (node, above + 1)
    | some parent => joinUp above parent

/-- Takes back a block handed out by `allocate`. Address 0 is ignored; an address that cannot have
been handed out is reported and nothing changes. -/
def release (addr : Nat) : Op Heap Unit := do
  if addr = 0 then return
  let heap ← get
  let geometry := heap.geometry
  let base := heap.window.base
  if !heap.ready || addr < base + headerSize || heap.highWater ≤ addr then
    warn s!"[BUDDY] release of foreign address {Text.hex addr}"
  else
    let block := addr - headerSize
    let request ← fetch block
    if geometry.maxBlock - headerSize < request then
      warn s!"[BUDDY] corrupt header at {Text.hex block} (size {request})"
    else
      let bucket ← geometry.bucketFor (request + headerSize)
      if bucket < heap.rootBucket || (block - base) % geometry.blockSize bucket ≠ 0 then
        warn s!"[BUDDY] release of misaligned block {Text.hex addr}"
      else
        let node ← nodeAt block bucket
        let (node, bucket) ← joinUp bucket node
        push bucket (← addressOf node bucket)

/-- What a heap holds at one moment. -/
structure Stats where
  rootBucket : Nat
  highWater : Nat
  freeBytes : Nat
  freeBlocks : Nat
deriving DecidableEq, Repr

def stats (heap : Heap) : Stats :=
  let lengths := (heap.lists.toList.take heap.geometry.bucketCount).map FreeList.length
  { rootBucket := heap.rootBucket
    highWater := heap.highWater
    freeBytes := (lengths.mapIdx fun bucket length => length * heap.geometry.blockSize bucket).foldr (· + ·) 0
    freeBlocks := lengths.foldr (· + ·) 0 }

end Heap

end Nucleus.Buddy
