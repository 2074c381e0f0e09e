import Nucleus.ErrorCode

/-! Why a message cannot be queued or received. -/
namespace Nucleus.Messages

inductive MessageError where
  /-- The message could not be copied; it is dropped. -/
  | outOfMemory
  | noSuchQueue
  | noSuchProcess
  /-- A buffer at address 0, too long, or past the end of the address space. -/
  | badBuffer
deriving DecidableEq, Repr

instance : Coded MessageError where
  subsystem := 0x02
  number
    | .outOfMemory => 0x01
    | .noSuchQueue => 0x02
    | .noSuchProcess => 0x03
    | .badBuffer => 0x04
  description
    | .outOfMemory => "Out of memory for message"
    | .noSuchQueue => "No message queue for pid"
    | .noSuchProcess => "No such process"
    | .badBuffer => "Invalid user buffer"
  cause _ := none

end Nucleus.Messages
