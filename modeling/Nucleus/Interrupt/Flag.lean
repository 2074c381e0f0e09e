/-! The interrupt flag, kept in two ways: as a switch of its own, and as bit 9 of the processor's flags
register. Turning interrupts off returns the state from before; restoring a state only ever turns them
on. -/
namespace Nucleus.Interrupt

/-- Bit 9 of a saved state. -/
def flagBit : UInt64 := 0x200

def isSet (state : UInt64) : Bool := state &&& flagBit ≠ 0

/-- Interrupts under the control of a switch; a saved state is the bare flag bit. -/
structure Switch where
  enabled : Bool
deriving DecidableEq, Repr

namespace Switch

def disable (switch : Switch) : UInt64 × Switch :=
  (if switch.enabled then flagBit else 0, ⟨false⟩)

def enable (_ : Switch) : Switch := ⟨true⟩

def restore (switch : Switch) (state : UInt64) : Switch :=
  if isSet state then switch.enable else switch

end Switch

/-- The flags register; a saved state is the whole register. -/
structure FlagsRegister where
  value : UInt64
deriving DecidableEq, Repr

namespace FlagsRegister

def enabled (register : FlagsRegister) : Bool := isSet register.value

def enable (register : FlagsRegister) : FlagsRegister := ⟨register.value ||| flagBit⟩

def disable (register : FlagsRegister) : UInt64 × FlagsRegister :=
  (register.value, ⟨register.value &&& ~~~flagBit⟩)

def restore (register : FlagsRegister) (state : UInt64) : FlagsRegister :=
  if isSet state then register.enable else register

end FlagsRegister

end Nucleus.Interrupt
