import Nucleus.Log

/-! What a run leaves behind besides its result, in order: log lines, locks taken and dropped,
switches between processes, and the words of window memory it reads and writes. -/
namespace Nucleus

/-- The locks of the kernel. A queue is named by its number in the registry. -/
inductive Lock where
  | heap
  | registry
  | table
  | queue (number : Nat)
deriving DecidableEq, Repr

inductive Event where
  | logged (line : Log.Line)
  | took (lock : Lock)
  | dropped (lock : Lock)
  /-- The switch hook was called: the processor passes from one process to another. -/
  | switched (previous next : Nat)
  /-- The word at an address was read. -/
  | fetched (addr : Nat)
  /-- The word at an address was written. -/
  | stored (addr value : Nat)
  /-- From here on, memory below this address counts as granted. -/
  | committed (top : Nat)
deriving DecidableEq, Repr

namespace Event

def line? : Event → Option Log.Line
  | logged line => some line
  | _ => none

def switch? : Event → Option (Nat × Nat)
  | switched previous next => some (previous, next)
  | _ => none

end Event

end Nucleus
