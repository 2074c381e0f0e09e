import Nucleus.Messages.Error
import Nucleus.Word

/-! Byte ranges that processes hand in. Shapes that can never be valid are refused before any memory
is touched. -/
namespace Nucleus.Syscall
open Messages

structure Buffer where
  addr : Nat
  len : Nat
deriving DecidableEq, Repr

namespace Buffer

/-- The longest buffer. -/
def maxLen : Nat := (1 <<< 63) - 1

/-- An empty buffer may lie anywhere. Any other must not start at 0, be too long, or run past the end
of the address space. -/
def ofRange (addr len : Nat) : Except MessageError Buffer :=
  if len = 0 then .ok ⟨addr, len⟩
  else if addr = 0 || maxLen < len || Word.bound ≤ addr + len then .error .badBuffer
  else .ok ⟨addr, len⟩

def isEmpty (buffer : Buffer) : Bool := buffer.len = 0

def render (buffer : Buffer) : String :=
  let addr := buffer.addr
  let len := buffer.len
  "UserSlice \x7b addr: " ++ toString addr ++ ", len: " ++ toString len ++ " \x7d"

end Buffer

end Nucleus.Syscall
