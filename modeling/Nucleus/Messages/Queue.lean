import Nucleus.Messages.Error

/-! One process's inbox. Messages of all senders stand in one line in order of arrival; a reader names
a sender and takes that sender's bytes, oldest first, past everyone else's. -/
namespace Nucleus.Messages

structure Message where
  sender : Nat
  payload : List UInt8
deriving DecidableEq, Repr

/-- The owner waits until `required` bytes from `sender` are queued. -/
structure Wait where
  sender : Nat
  required : Nat
deriving DecidableEq, Repr

structure Queue where
  owner : Nat
  messages : List Message
  waiting : Option Wait
deriving DecidableEq, Repr

/-- The memory a message takes: its payload, none if that is empty, and its place in line. -/
inductive Allocation where
  | payload
  | node
deriving DecidableEq, Repr

namespace Queue

def ofOwner (owner : Nat) : Queue := ⟨owner, [], none⟩

def countFrom (sender target : Nat) : List Message → (total : Nat) → Nat
  | [], total => total
  | message :: rest, total =>
    if message.sender ≠ sender then countFrom sender target rest total
    else if target ≤ total then total
    else countFrom sender target rest (total + message.payload.length)

/-- Bytes queued from a sender; counting stops once `target` is reached. -/
def bytesFrom (queue : Queue) (sender target : Nat) : Nat :=
  countFrom sender target queue.messages 0

def offers (queue : Queue) (sender wanted : Nat) : Bool :=
  wanted ≤ queue.bytesFrom sender wanted

/-- Whether a refused allocation is one that a message with this payload makes. -/
def refuses (refused : Option Allocation) (payload : List UInt8) : Bool :=
  match refused with
  | none => false
  | some .node => true
  | some .payload => !payload.isEmpty

/-- Queues a message last. The answer is whether it completes the owner's wait; the wait is then over
and the owner is to be woken. A refused allocation leaves the queue as it was. -/
def enqueue (queue : Queue) (refused : Option Allocation) (sender : Nat) (payload : List UInt8) :
    Except MessageError Bool × Queue :=
  if refuses refused payload then (.error .outOfMemory, queue)
  else
    let longer := { queue with messages := queue.messages ++ [⟨sender, payload⟩] }
    match queue.waiting with
    | none => (.ok false, longer)
    | some wait =>
      if wait.sender = sender && longer.offers sender wait.required then
        (.ok true, { longer with waiting := none })
      else (.ok false, longer)

def await (queue : Queue) (sender required : Nat) : Queue :=
  { queue with waiting := some ⟨sender, required⟩ }

def endWait (queue : Queue) : Queue := { queue with waiting := none }

/-- Takes up to `room` bytes of a sender out of a line of messages. A message that fits goes as a
whole; one that does not loses its front and keeps its place. -/
def takeFromLine (sender : Nat) : List Message → (room : Nat) → List UInt8 × List Message
  | line, 0 => ([], line)
  | [], _ => ([], [])
  | message :: rest, room =>
    if message.sender ≠ sender then
      let (bytes, rest) := takeFromLine sender rest room
      (bytes, message :: rest)
    else if message.payload.length ≤ room then
      let (bytes, rest) := takeFromLine sender rest (room - message.payload.length)
      (message.payload ++ bytes, rest)
    else
      (message.payload.take room, { message with payload := message.payload.drop room } :: rest)

/-- Takes up to `room` bytes of a sender off the queue. -/
def take (queue : Queue) (sender room : Nat) : List UInt8 × Queue :=
  let (bytes, messages) := takeFromLine sender queue.messages room
  (bytes, { queue with messages })

/-- Copies bytes over the front of a buffer. -/
def overlay (bytes buffer : List UInt8) : List UInt8 := bytes ++ buffer.drop bytes.length

/-- Fills a buffer from its front with a sender's bytes; returns how many were copied. -/
def fillBuffer (queue : Queue) (sender : Nat) (buffer : List UInt8) : Nat × List UInt8 × Queue :=
  let (bytes, queue) := queue.take sender buffer.length
  (bytes.length, overlay bytes buffer, queue)

def takeFirst (sender : Nat) : List Message → Option Message × List Message
  | [] => (none, [])
  | message :: rest =>
    if message.sender = sender then (some message, rest)
    else
      let (found, rest) := takeFirst sender rest
      (found, message :: rest)

/-- Takes a sender's oldest message off the queue as a whole. -/
def takeWhole (queue : Queue) (sender : Nat) : Option Message × Queue :=
  let (found, messages) := takeFirst sender queue.messages
  (found, { queue with messages })

end Queue

end Nucleus.Messages
