import Nucleus.Op
import Std.Data.TreeMap

/-! The processes of one processor: their run states, the line of those ready to run, and which one is
current. -/
namespace Nucleus.Processes

inductive RunState where
  | ready | running | blocked
deriving DecidableEq, Repr

/-- What `current` reads as when nothing runs. -/
def idlePid : Nat := 0

structure Table where
  states : Std.TreeMap Nat RunState
  /-- First in line first. -/
  ready : List Nat
  current : Option Nat
  /-- Whether switches are announced. -/
  hooked : Bool

namespace Table

def empty : Table := ⟨∅, [], none, false⟩

def state? (table : Table) (pid : Nat) : Option RunState := table.states[pid]?

def knows (table : Table) (pid : Nat) : Bool := table.states.contains pid

def currentPid (table : Table) : Nat := table.current.getD idlePid

def withState (table : Table) (pid : Nat) (state : RunState) : Table :=
  { table with states := table.states.insert pid state }

def enqueue (table : Table) (pid : Nat) : Table := { table with ready := table.ready ++ [pid] }

def dequeue (table : Table) (pid : Nat) : Table :=
  { table with ready := table.ready.filter (· ≠ pid) }

/-- Makes a process known and ready. A pid in use is refused. -/
def spawn (table : Table) (pid : Nat) : Bool × Table :=
  if table.knows pid then (false, table)
  else (true, (table.withState pid .ready).enqueue pid)

/-- Forgets a process. An unknown pid is refused. -/
def exit (table : Table) (pid : Nat) : Bool × Table :=
  if table.knows pid then
    let rest := ({ table with states := table.states.erase pid }).dequeue pid
    (true, { rest with current := if table.current = some pid then none else table.current })
  else (false, table)

/-- A running process goes to the end of the line. -/
def retire (table : Table) (pid : Nat) : Table :=
  if table.state? pid = some .running then (table.withState pid .ready).enqueue pid else table

/-- Makes a known process the running one, past the line. -/
def switchTo (table : Table) (pid : Nat) : Bool × Table :=
  if table.knows pid then
    let table := match table.current with
      | some previous => if previous = pid then table else table.retire previous
      | none => table
    (true, { (table.dequeue pid).withState pid .running with current := some pid })
  else (false, table)

/-- Takes a known process out of the running, in whatever state it is. -/
def block (table : Table) (pid : Nat) : Table :=
  if table.knows pid then (table.withState pid .blocked).dequeue pid else table

/-- Puts a blocked process at the end of the line. -/
def unblock (table : Table) (pid : Nat) : Table :=
  if table.state? pid = some .blocked then (table.withState pid .ready).enqueue pid else table

/-- The current process, if it still runs, goes to the end of the line. -/
def retireCurrent (table : Table) : Table :=
  match table.current with
  | some pid => table.retire pid
  | none => table

/-- The first in line becomes current; with nobody in line nothing does. -/
def takeNext (table : Table) : Table :=
  match table.ready with
  | [] => { table with current := none }
  | next :: rest => { table.withState next .running with ready := rest, current := some next }

/-- Passes the processor on. The answer is the switch to announce: from one process to a different
one. -/
def yield (table : Table) : Option (Nat × Nat) × Table :=
  let after := table.retireCurrent.takeNext
  match table.current, after.current with
  | some previous, some next =>
    (if table.hooked && previous ≠ next then some (previous, next) else none, after)
  | _, _ => (none, after)

/-- The known processes and their states, ascending. -/
def processes (table : Table) : List (Nat × RunState) := table.states.toList

end Table

end Nucleus.Processes
