import Nucleus.Processes.Table

/-! The process table as the kernel uses it: every look at it and every change to it holds its lock,
and a switch is announced after the lock is dropped. -/
namespace Nucleus.Processes.Scheduler

def spawn (pid : Nat) : Op Table Bool := Op.locked .table (modifyGet (·.spawn pid))

def exit (pid : Nat) : Op Table Bool := Op.locked .table (modifyGet (·.exit pid))

def switchTo (pid : Nat) : Op Table Bool := Op.locked .table (modifyGet (·.switchTo pid))

def currentPid : Op Table Nat := Op.locked .table (return (← get).currentPid)

def knows (pid : Nat) : Op Table Bool := Op.locked .table (return (← get).knows pid)

def block (pid : Nat) : Op Table Unit := Op.locked .table (modify (·.block pid))

def unblock (pid : Nat) : Op Table Unit := Op.locked .table (modify (·.unblock pid))

/-- From here on switches are announced. -/
def announceSwitches : Op Table Unit :=
  Op.locked .table (modify fun table => { table with hooked := true })

def yield : Op Table Unit := do
  match ← Op.locked .table (modifyGet (·.yield)) with
  | some (previous, next) => Op.emit (.switched previous next)
  | none => pure ()

end Nucleus.Processes.Scheduler
