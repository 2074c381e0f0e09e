/-! The registers saved by a system call: the selector in `rdi`, up to five arguments after it, the
reply in `rax`. -/
namespace Nucleus.Syscall

structure Frame where
  rax : UInt64
  rdi : UInt64
  rsi : UInt64
  rdx : UInt64
  rcx : UInt64
  r8 : UInt64
  r9 : UInt64
deriving DecidableEq, Repr

namespace Frame

def selector (frame : Frame) : UInt64 := frame.rdi

def args (frame : Frame) : List UInt64 := [frame.rsi, frame.rdx, frame.rcx, frame.r8, frame.r9]

/-- Replies are signed; a negative one is stored in two's complement. -/
def withReply (frame : Frame) (reply : Int64) : Frame := { frame with rax := reply.toUInt64 }

def registers (frame : Frame) : List (String × UInt64) :=
  [("rax", frame.rax), ("rdi", frame.rdi), ("rsi", frame.rsi), ("rdx", frame.rdx),
    ("rcx", frame.rcx), ("r8", frame.r8), ("r9", frame.r9)]

def render (frame : Frame) : String :=
  let fields := frame.registers.map fun (name, value) => name ++ ": " ++ toString value
  "SyscallFrame \x7b " ++ ", ".intercalate fields ++ " \x7d"

end Frame

inductive Selector where
  | alloc | free | send | receive
deriving DecidableEq, Repr

namespace Selector

def all : List Selector := [alloc, free, send, receive]

def number : Selector → UInt64
  | alloc => 4
  | free => 10
  | send => 11
  | receive => 12

def name : Selector → String
  | alloc => "Alloc"
  | free => "Free"
  | send => "Send"
  | receive => "Receive"

def ofNumber? (number : UInt64) : Option Selector := all.find? (·.number = number)

end Selector

/-- The reply to an unknown selector. -/
def notImplemented : Int64 := -38

end Nucleus.Syscall
