import Mathlib.Data.Nat.Bitwise
import Nucleus.Interrupt.Flag

/-! The switch stands in for the interrupt flag of a processor. Of the processor only what is documented of its
instructions is used. The two sides return different words for the state from before, one the bare flag and one all
flags, and either may be restored later; what they share is bit 9, and with it whether interrupts are on. -/
namespace Nucleus.Interrupt

/-- The bit of a word at a place, counted from the lowest. -/
def bit (word : UInt64) (place : Nat) : Bool := word.toNat.testBit place

theorem bit_flagBit (place : Nat) : bit flagBit place = decide (place = 9) := by
  change (2 ^ 9).testBit place = _
  rw [Nat.testBit_two_pow]
  exact decide_eq_decide.mpr eq_comm

theorem bit_and (word other : UInt64) (place : Nat) :
    bit (word &&& other) place = (bit word place && bit other place) := by
  rw [bit, UInt64.toNat_and, Nat.testBit_and, bit, bit]

theorem bit_or (word other : UInt64) (place : Nat) :
    bit (word ||| other) place = (bit word place || bit other place) := by
  rw [bit, UInt64.toNat_or, Nat.testBit_or, bit, bit]

theorem bit_not (word : UInt64) (place : Nat) :
    bit (~~~word) place = (decide (place < 64) && !bit word place) := by
  rw [bit, bit, ← UInt64.toNat_toBitVec, ← UInt64.toNat_toBitVec, UInt64.toBitVec_not, BitVec.testBit_toNat,
    BitVec.testBit_toNat, BitVec.getLsbD_not]

theorem place_lt_of_bit {word : UInt64} {place : Nat} (set : bit word place = true) : place < 64 := by
  rw [bit, ← UInt64.toNat_toBitVec, BitVec.testBit_toNat] at set
  exact BitVec.lt_of_getLsbD set

theorem isSet_eq_bit (state : UInt64) : isSet state = bit state 9 := by
  have masked : (state &&& flagBit).toNat = (bit state 9).toNat * 2 ^ 9 := by
    rw [UInt64.toNat_and]
    exact Nat.and_two_pow state.toNat 9
  rw [isSet, Bool.eq_iff_iff, decide_eq_true_iff, ne_eq, ← UInt64.toNat_inj, masked]
  cases bit state 9 <;> decide

/-! ### A processor -/

/-- What a processor has for its flags, whatever else it holds. -/
structure Instructions (σ : Type) where
  readFlags : σ → UInt64
  clearInterrupt : σ → σ
  setInterrupt : σ → σ
  interruptSet : σ → Bool
  interruptFlag : UInt64

/-- Interrupt control; `disable` returns the state from before, for `restore`. -/
structure Control (σ : Type) where
  disable : σ → UInt64 × σ
  enable : σ → σ
  restore : σ → UInt64 → σ
  enabled : σ → Bool

namespace Instructions
variable {σ : Type}

/-- What is documented of the instructions: the flags are read whole, and only bit 9 is changed or tested. -/
structure Documented (cpu : Instructions σ) (flags : σ → UInt64) : Prop where
  read : ∀ state, cpu.readFlags state = flags state
  clear : ∀ state place,
    bit (flags (cpu.clearInterrupt state)) place = (bit (flags state) place && decide (place ≠ 9))
  set : ∀ state place,
    bit (flags (cpu.setInterrupt state)) place = (bit (flags state) place || decide (place = 9))
  test : ∀ state, cpu.interruptSet state = bit (flags state) 9
  flag : cpu.interruptFlag = flagBit

def control (cpu : Instructions σ) : Control σ where
  disable state := (cpu.readFlags state, cpu.clearInterrupt state)
  enable := cpu.setInterrupt
  restore state saved := if saved &&& cpu.interruptFlag ≠ 0 then cpu.setInterrupt state else state
  enabled := cpu.interruptSet

end Instructions

def Switch.control : Control Switch := ⟨Switch.disable, Switch.enable, Switch.restore, Switch.enabled⟩

namespace FlagsRegister

def control : Control FlagsRegister :=
  ⟨FlagsRegister.disable, FlagsRegister.enable, FlagsRegister.restore, FlagsRegister.enabled⟩

def instructions : Instructions FlagsRegister where
  readFlags := value
  clearInterrupt register := register.disable.2
  setInterrupt := FlagsRegister.enable
  interruptSet := FlagsRegister.enabled
  interruptFlag := flagBit

theorem documented : instructions.Documented value where
  read _ := rfl
  clear register place := by
    change bit (register.value &&& ~~~flagBit) place = _
    rw [bit_and, bit_not, bit_flagBit]
    cases set : bit register.value place with
    | false => rfl
    | true => simp [place_lt_of_bit set]
  set register place := by
    change bit (register.value ||| flagBit) place = _
    rw [bit_or, bit_flagBit]
  test register := isSet_eq_bit register.value
  flag := rfl

/-- The register is controlled as any processor is. -/
theorem control_eq : instructions.control = control := by
  have restored : instructions.control.restore = FlagsRegister.restore := by
    funext register saved
    simp only [Instructions.control, FlagsRegister.restore, isSet, decide_eq_true_eq]
    rfl
  rw [control, ← restored]
  rfl

end FlagsRegister

/-! ### Requests -/

inductive Request where
  | disable
  | enable
  | restore (state : UInt64)
  /-- Restores what an earlier `disable` returned, the first of them at place 0. -/
  | restoreSaved (place : Nat)
deriving DecidableEq, Repr

/-- A state, and what every `disable` so far has returned, the first of them first. -/
structure Session (σ : Type) where
  state : σ
  saved : List UInt64

namespace Control
variable {σ : Type}

def serve (control : Control σ) (session : Session σ) : Request → Session σ
  | .disable =>
    let (before, state) := control.disable session.state
    ⟨state, session.saved ++ [before]⟩
  | .enable => { session with state := control.enable session.state }
  | .restore state => { session with state := control.restore session.state state }
  | .restoreSaved place =>
    match session.saved[place]? with
    | some state => { session with state := control.restore session.state state }
    | none => session

def serveAll (control : Control σ) (session : Session σ) (requests : List Request) : Session σ :=
  requests.foldl control.serve session

end Control

/-! ### The switch beside the register -/

/-- The two sides agree on bit 9, in the flag and in all that was returned, and the other flags are as they were. -/
structure Beside {σ : Type} (flags : σ → UInt64) (first : UInt64) (host : Session Switch) (bare : Session σ) :
    Prop where
  enabled : bit (flags bare.state) 9 = host.state.enabled
  saved : bare.saved.map (bit · 9) = host.saved.map (bit · 9)
  others : ∀ place, place ≠ 9 → bit (flags bare.state) place = bit first place

namespace Beside
variable {σ : Type} {flags : σ → UInt64} {first state other : UInt64} {cpu : Instructions σ}
variable {host : Session Switch} {bare : Session σ}

theorem start {switch : Switch} {processor : σ} (alike : bit (flags processor) 9 = switch.enabled) :
    Beside flags (flags processor) ⟨switch, []⟩ ⟨processor, []⟩ where
  enabled := alike
  saved := rfl
  others _ _ := rfl

theorem enable (beside : Beside flags first host bare) (documented : cpu.Documented flags) :
    Beside flags first (Switch.control.serve host .enable) (cpu.control.serve bare .enable) where
  enabled := by
    change bit (flags (cpu.setInterrupt bare.state)) 9 = true
    rw [documented.set, decide_eq_true rfl, Bool.or_true]
  saved := beside.saved
  others place apart := by
    change bit (flags (cpu.setInterrupt bare.state)) place = _
    rw [documented.set, decide_eq_false apart, Bool.or_false]
    exact beside.others place apart

theorem disable (beside : Beside flags first host bare) (documented : cpu.Documented flags) :
    Beside flags first (Switch.control.serve host .disable) (cpu.control.serve bare .disable) where
  enabled := by
    change bit (flags (cpu.clearInterrupt bare.state)) 9 = false
    rw [documented.clear, decide_eq_false (not_not_intro rfl), Bool.and_false]
  saved := by
    -- The words differ in their other bits: one side returns all flags, the other a bare flag.
    have returned : bit (cpu.readFlags bare.state) 9 = bit (if host.state.enabled then flagBit else 0) 9 := by
      rw [documented.read, beside.enabled]
      cases host.state.enabled <;> decide
    change (bare.saved ++ [cpu.readFlags bare.state]).map (bit · 9) =
      (host.saved ++ [if host.state.enabled then flagBit else 0]).map (bit · 9)
    rw [List.map_append, List.map_append, beside.saved, List.map_singleton, List.map_singleton, returned]
  others place apart := by
    change bit (flags (cpu.clearInterrupt bare.state)) place = _
    rw [documented.clear, decide_eq_true apart, Bool.and_true]
    exact beside.others place apart

/-- Restoring two states that agree on bit 9 either turns interrupts on or does nothing, on both sides. -/
theorem restore (beside : Beside flags first host bare) (documented : cpu.Documented flags)
    (alike : bit other 9 = bit state 9) :
    Beside flags first (Switch.control.serve host (.restore state)) (cpu.control.serve bare (.restore other)) := by
  have tested : (other &&& cpu.interruptFlag ≠ 0) ↔ isSet state = true := by
    rw [documented.flag, isSet_eq_bit, ← alike, ← isSet_eq_bit, isSet, decide_eq_true_iff]
  simp only [Control.serve, Instructions.control, Switch.control, Switch.restore]
  by_cases on : isSet state = true
  · rw [if_pos on, if_pos (tested.mpr on)]
    exact beside.enable documented
  · rw [if_neg on, if_neg (on ∘ tested.mp)]
    exact beside

theorem restoreSaved (beside : Beside flags first host bare) (documented : cpu.Documented flags) (place : Nat) :
    Beside flags first (Switch.control.serve host (.restoreSaved place))
      (cpu.control.serve bare (.restoreSaved place)) := by
  have alike : bare.saved[place]?.map (bit · 9) = host.saved[place]?.map (bit · 9) := by
    rw [← List.getElem?_map, ← List.getElem?_map, beside.saved]
  cases ours : host.saved[place]? with
  | none =>
    rw [ours, Option.map_none, Option.map_eq_none_iff] at alike
    simp only [Control.serve, ours, alike]
    exact beside
  | some state =>
    rw [ours, Option.map_some] at alike
    obtain ⟨other, theirs, same⟩ := Option.map_eq_some_iff.mp alike
    simp only [Control.serve, ours, theirs]
    exact beside.restore documented same

theorem serve (beside : Beside flags first host bare) (documented : cpu.Documented flags) (request : Request) :
    Beside flags first (Switch.control.serve host request) (cpu.control.serve bare request) := by
  cases request with
  | disable => exact beside.disable documented
  | enable => exact beside.enable documented
  | restore state => exact beside.restore documented rfl
  | restoreSaved place => exact beside.restoreSaved documented place

theorem serveAll (beside : Beside flags first host bare) (documented : cpu.Documented flags)
    (requests : List Request) :
    Beside flags first (Switch.control.serveAll host requests) (cpu.control.serveAll bare requests) := by
  induction requests generalizing host bare with
  | nil => exact beside
  | cons request rest ih => exact ih (beside.serve documented request)

end Beside

/-- On any processor that keeps to what is documented, and from any flags whose bit 9 is the switch: whatever is turned
off, on or restored, be it one state for both sides or what the same earlier `disable` returned on each, the two sides
then agree on whether interrupts are on and on bit 9 of all that was returned, and no other flag has changed. -/
theorem switch_stands_for_register {σ : Type} {cpu : Instructions σ} {flags : σ → UInt64}
    (documented : cpu.Documented flags) (switch : Switch) (processor : σ)
    (alike : bit (flags processor) 9 = switch.enabled) (requests : List Request) :
    cpu.control.enabled (cpu.control.serveAll ⟨processor, []⟩ requests).state =
      Switch.control.enabled (Switch.control.serveAll ⟨switch, []⟩ requests).state ∧
    (cpu.control.serveAll ⟨processor, []⟩ requests).saved.map (bit · 9) =
      (Switch.control.serveAll ⟨switch, []⟩ requests).saved.map (bit · 9) ∧
    ∀ place, place ≠ 9 →
      bit (flags (cpu.control.serveAll ⟨processor, []⟩ requests).state) place = bit (flags processor) place := by
  have beside := (Beside.start alike).serveAll documented requests
  refine ⟨?_, beside.saved, beside.others⟩
  exact (documented.test _).trans beside.enabled

/-- Interrupts are turned off twice and put back in the wrong order, from flags with bits 1 and 9 set. -/
theorem switch_stands_for_register_twice_off :
    (FlagsRegister.control.serveAll ⟨⟨0x202⟩, []⟩
      [.disable, .disable, .restoreSaved 0, .restoreSaved 1]).state.enabled = true ∧
    (FlagsRegister.control.serveAll ⟨⟨0x202⟩, []⟩
      [.disable, .disable, .restoreSaved 0, .restoreSaved 1]).saved = [0x202, 0x2] ∧
    (Switch.control.serveAll ⟨⟨true⟩, []⟩
      [.disable, .disable, .restoreSaved 0, .restoreSaved 1]).saved = [0x200, 0] ∧
    bit (FlagsRegister.control.serveAll ⟨⟨0x202⟩, []⟩
      [.disable, .disable, .restoreSaved 0, .restoreSaved 1]).state.value 1 = true := by
  obtain ⟨enabled, -, others⟩ := switch_stands_for_register FlagsRegister.documented ⟨true⟩ ⟨0x202⟩
    (by decide) [.disable, .disable, .restoreSaved 0, .restoreSaved 1]
  rw [FlagsRegister.control_eq] at enabled others
  refine ⟨enabled.trans (by decide), by decide, by decide, (others 1 (by decide)).trans (by decide)⟩

end Nucleus.Interrupt
