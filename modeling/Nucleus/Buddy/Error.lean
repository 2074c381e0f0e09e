import Nucleus.ErrorCode

/-! Why the heap cannot be set up or cannot hand out a block. -/
namespace Nucleus.Buddy

inductive AllocError where
  /-- The block sizes are out of range, or the window is smaller than the largest block. -/
  | invalidConfig
  /-- Fewer split bits than the tree has nodes to mark. -/
  | splitStorageTooSmall
  /-- The request and its header exceed the largest block. -/
  | requestTooLarge
  /-- The window refused to grant more memory. -/
  | reservationDenied
  /-- No free block is large enough and the tree cannot grow. -/
  | outOfMemory
deriving DecidableEq, Repr

instance : Coded AllocError where
  subsystem := 0x01
  number
    | .invalidConfig => 0x01
    | .splitStorageTooSmall => 0x02
    | .requestTooLarge => 0x03
    | .reservationDenied => 0x04
    | .outOfMemory => 0x05
  description
    | .invalidConfig => "Invalid allocator configuration"
    | .splitStorageTooSmall => "Split-bit storage too small"
    | .requestTooLarge => "Request exceeds allocator window"
    | .reservationDenied => "Memory reservation denied"
    | .outOfMemory => "Out of memory"
  cause _ := none

end Nucleus.Buddy
