import Nucleus.Interrupt.Flag
import Nucleus.Serial

/-! A bare machine: the flags register, the answers that device reads will get, and the accesses made
so far. -/
namespace Nucleus
open Interrupt Serial

structure Machine where
  flags : FlagsRegister
  script : Script
  accesses : List Access

namespace Machine

def ofFlags (flags : UInt64) : Machine := ⟨⟨flags⟩, [], []⟩

def setupConsole (machine : Machine) : Machine :=
  { machine with accesses := machine.accesses ++ console.setup }

def setup (machine : Machine) (line : Line) : Machine :=
  { machine with accesses := machine.accesses ++ line.setup }

def send (machine : Machine) (line : Line) (byte : UInt8) : Machine :=
  let (accesses, script) := line.send byte machine.script
  { machine with script, accesses := machine.accesses ++ accesses }

def write (machine : Machine) (line : Line) (text : String) : Machine :=
  let (accesses, script) := line.write text machine.script
  { machine with script, accesses := machine.accesses ++ accesses }

def disable (machine : Machine) : UInt64 × Machine :=
  let (saved, flags) := machine.flags.disable
  (saved, { machine with flags })

def enable (machine : Machine) : Machine := { machine with flags := machine.flags.enable }

def restore (machine : Machine) (state : UInt64) : Machine :=
  { machine with flags := machine.flags.restore state }

end Machine

end Nucleus
