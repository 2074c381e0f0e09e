import Nucleus.Machine
import Mathlib.Data.Nat.Find
import Mathlib.Data.PFun
import Mathlib.Tactic.Common

/-! What a line does to the device registers when it sends a text. Of the registers only what is documented is used: a
read or a write is one access, to the register it names. What reads answer comes from outside, as a script of any
kind; a byte leaves once the status is ready, and not before. -/
namespace Nucleus.Serial

/-! ### Bytes of a text -/

theorem toList_loop_eq (bytes : ByteArray) (index : Nat) (done : List UInt8) :
    ByteArray.toList.loop bytes index done = done.reverse ++ bytes.data.toList.drop index := by
  fun_induction ByteArray.toList.loop bytes index done with
  | case1 index done inside ih =>
    have inside : index < bytes.data.toList.length := by
      rwa [Array.length_toList, ByteArray.size_data]
    have byte : bytes.get! index = bytes.data.toList[index] := by
      rw [ByteArray.get!, getElem!_pos bytes.data index (by simpa using inside), Array.getElem_toList]
    rw [ih, List.drop_eq_getElem_cons inside, byte]
    simp
  | case2 index done past =>
    have past : bytes.data.toList.length ≤ index := by
      rw [Array.length_toList, ByteArray.size_data]
      exact Nat.not_lt.mp past
    rw [List.drop_eq_nil_of_le past, List.append_nil]

theorem toList_eq (bytes : ByteArray) : bytes.toList = bytes.data.toList :=
  toList_loop_eq bytes 0 []

theorem length_utf8 (text : String) : text.toUTF8.toList.length = text.utf8ByteSize := by
  rw [toList_eq]
  rfl

theorem utf8_append (first second : String) :
    (first ++ second).toUTF8.toList = first.toUTF8.toList ++ second.toUTF8.toList := by
  simp only [toList_eq, String.toUTF8, String.toByteArray_append, ByteArray.toList_data_append]

/-! ### Registers -/

/-- Device registers as a program reaches them, whatever stands behind them. -/
structure Registers (σ : Type) where
  read : (register : Nat) → σ → UInt8 × σ
  write : (register : Nat) → UInt8 → σ → σ

/-- The register that is accessed. -/
def Access.register : Access → Nat
  | input register _ => register
  | output register _ => register

/-- What the reads among some accesses answered. -/
def answers (accesses : List Access) : List UInt8 :=
  accesses.filterMap fun
    | .input _ value => some value
    | .output _ _ => none

/-- Among the statuses to come there are as many ready ones as are needed. -/
def Supplies (coming : Nat → UInt8) (needed : Nat) : Prop :=
  ∃ count, needed ≤ (List.range count).countP fun place => isReady (coming place)

/-- The accesses that send some bytes: for each byte reads of the status while it is not ready, one read of a ready
status and the write of the byte. -/
def Line.Transmits (line : Line) : List UInt8 → List Access → Prop
  | [], accesses => accesses = []
  | byte :: bytes, accesses => ∃ (busy : List UInt8) (ready : UInt8) (rest : List Access),
      (∀ status ∈ busy, isReady status = false) ∧ isReady ready = true ∧
      accesses = busy.map (.input line.lineStatus) ++
        .input line.lineStatus ready :: .output line.data byte :: rest ∧
      line.Transmits bytes rest

theorem Supplies.first {coming : Nat → UInt8} {needed : Nat} (supplies : Supplies coming (needed + 1)) :
    ∃ last, (∀ place < last, isReady (coming place) = false) ∧ isReady (coming last) = true ∧
      Supplies (fun place => coming (last + 1 + place)) needed := by
  obtain ⟨count, enough⟩ := supplies
  obtain ⟨place, within, ready⟩ := List.countP_pos_iff.mp (Nat.lt_of_lt_of_le (Nat.succ_pos needed) enough)
  have comes : ∃ place, isReady (coming place) = true := ⟨place, ready⟩
  have busy : ∀ place < Nat.find comes, isReady (coming place) = false := fun place before =>
    Bool.eq_false_iff.mpr (Nat.find_min comes before)
  refine ⟨Nat.find comes, busy, Nat.find_spec comes, count - (Nat.find comes + 1), ?_⟩
  -- Up to the first ready status there is one, so the others come after it.
  have before : (List.range (Nat.find comes)).countP (fun place => isReady (coming place)) = 0 := by
    simpa [List.countP_eq_zero] using busy
  have first : Nat.find comes < count := Nat.lt_of_le_of_lt (Nat.find_min' comes ready) (List.mem_range.mp within)
  rw [← Nat.add_sub_of_le (Nat.succ_le_of_lt first), List.range_add, List.countP_append, Nat.succ_eq_add_one,
    List.range_succ, List.countP_append, before, List.countP_map] at enough
  simp only [List.countP_singleton, Nat.find_spec comes, if_true] at enough
  simp only [Function.comp_def] at enough ⊢
  omega

theorem answers_append (first second : List Access) : answers (first ++ second) = answers first ++ answers second :=
  List.filterMap_append

theorem answers_inputs (register : Nat) (values : List UInt8) :
    answers (values.map (.input register)) = values := by
  induction values with
  | nil => rfl
  | cons value values ih => exact congrArg (value :: ·) ih

/-- No register is accessed but the status and the data register. -/
theorem Line.Transmits.register {line : Line} {bytes : List UInt8} {made : List Access}
    (transmits : line.Transmits bytes made) :
    ∀ access ∈ made, access.register = line.lineStatus ∨ access.register = line.data := by
  induction bytes generalizing made with
  | nil =>
    cases transmits
    intro access member
    cases member
  | cons byte bytes ih =>
    obtain ⟨busy, ready, rest, -, -, rfl, transmits⟩ := transmits
    intro access member
    simp only [List.mem_append, List.mem_map, List.mem_cons] at member
    rcases member with ⟨status, -, rfl⟩ | rfl | rfl | member
    · exact .inl rfl
    · exact .inl rfl
    · exact .inr rfl
    · exact ih transmits access member

namespace Registers
variable {σ : Type}

/-- What is documented of the registers: a read and a write are one access each, to the register they name. -/
structure Documented (registers : Registers σ) (accesses : σ → List Access) : Prop where
  read : ∀ register state, accesses (registers.read register state).2 =
    accesses state ++ [.input register (registers.read register state).1]
  write : ∀ register value state, accesses (registers.write register value state) =
    accesses state ++ [.output register value]

/-- What reads answer is given from outside, one value after the other. -/
structure Scripted (registers : Registers σ) (coming : σ → Nat → UInt8) : Prop where
  read : ∀ register state, (registers.read register state).1 = coming state 0
  advance : ∀ register state place, coming (registers.read register state).2 place = coming state (place + 1)
  write : ∀ register value state, coming (registers.write register value state) = coming state

/-- Reads the status until the transmitter is empty; nothing comes of it if it never is. -/
def await (registers : Registers σ) (line : Line) : σ →. σ :=
  PFun.fix fun state =>
    let found := registers.read line.lineStatus state
    Part.some (if isReady found.1 then .inl found.2 else .inr found.2)

def send (registers : Registers σ) (line : Line) (byte : UInt8) (state : σ) : Part σ :=
  (registers.await line state).map (registers.write line.data byte)

def sendAll (registers : Registers σ) (line : Line) : List UInt8 → σ → Part σ
  | [], state => .some state
  | byte :: bytes, state => (registers.send line byte state).bind (registers.sendAll line bytes)

def sendText (registers : Registers σ) (line : Line) (text : String) (state : σ) : Part σ :=
  registers.sendAll line text.toUTF8.toList state

variable {registers : Registers σ} {accesses : σ → List Access} {coming : σ → Nat → UInt8} {line : Line}

theorem await_ready {state : σ} (ready : isReady (registers.read line.lineStatus state).1 = true) :
    registers.await line state = .some (registers.read line.lineStatus state).2 := by
  apply Part.eq_some_iff.mpr
  apply PFun.fix_stop
  simp [ready]

theorem await_busy {state : σ} (busy : isReady (registers.read line.lineStatus state).1 = false) :
    registers.await line state = registers.await line (registers.read line.lineStatus state).2 := by
  apply PFun.fix_fwd_eq
  simp [busy]

theorem sendAll_append (first second : List UInt8) (state : σ) :
    registers.sendAll line (first ++ second) state =
      (registers.sendAll line first state).bind (registers.sendAll line second) := by
  induction first generalizing state with
  | nil => rw [List.nil_append, sendAll, Part.bind_some]
  | cons byte first ih =>
    rw [List.cons_append, sendAll, sendAll, Part.bind_assoc]
    congr 1
    funext after
    exact ih after

theorem sendText_append (first second : String) (state : σ) :
    registers.sendText line (first ++ second) state =
      (registers.sendText line first state).bind (registers.sendText line second) := by
  rw [sendText, utf8_append]
  exact sendAll_append _ _ state

/-- The status is read up to the first ready one and not further. -/
theorem await_reads (line : Line) (documented : registers.Documented accesses) (scripted : registers.Scripted coming)
    {state : σ} {last : Nat} (busy : ∀ place < last, isReady (coming state place) = false)
    (ready : isReady (coming state last) = true) :
    ∃ after, registers.await line state = .some after ∧
      accesses after = accesses state ++ ((List.range (last + 1)).map (coming state)).map (.input line.lineStatus) ∧
      coming after = fun place => coming state (last + 1 + place) := by
  induction last generalizing state with
  | zero =>
    refine ⟨(registers.read line.lineStatus state).2, ?_, ?_, ?_⟩
    · exact await_ready (by rwa [scripted.read])
    · rw [documented.read, scripted.read]
      rfl
    · funext place
      rw [scripted.advance, Nat.add_comm]
  | succ last ih =>
    have later : ∀ place < last, isReady (coming (registers.read line.lineStatus state).2 place) = false := by
      intro place before
      rw [scripted.advance]
      exact busy (place + 1) (Nat.succ_lt_succ before)
    obtain ⟨after, awaited, made, left⟩ := ih later (by rwa [scripted.advance])
    refine ⟨after, ?_, ?_, ?_⟩
    · have waits : isReady (registers.read line.lineStatus state).1 = false := by
        rw [scripted.read]
        exact busy 0 (Nat.succ_pos last)
      rw [await_busy waits, awaited]
    · rw [made, documented.read, scripted.read, List.range_succ_eq_map (n := last + 1)]
      simp [scripted.advance, Function.comp_def]
    · rw [left]
      funext place
      rw [scripted.advance]
      congr 1
      omega

theorem send_reads (line : Line) (documented : registers.Documented accesses) (scripted : registers.Scripted coming)
    {state : σ} {last : Nat} (byte : UInt8) (busy : ∀ place < last, isReady (coming state place) = false)
    (ready : isReady (coming state last) = true) :
    ∃ after, registers.send line byte state = .some after ∧
      accesses after = accesses state ++ (((List.range last).map (coming state)).map (.input line.lineStatus) ++
        [.input line.lineStatus (coming state last), .output line.data byte]) ∧
      coming after = fun place => coming state (last + 1 + place) := by
  obtain ⟨middle, awaited, made, left⟩ := await_reads line documented scripted busy ready
  refine ⟨registers.write line.data byte middle, ?_, ?_, ?_⟩
  · rw [send, awaited, Part.map_some]
  · rw [documented.write, made, List.range_succ]
    simp
  · rw [scripted.write, left]

/-- Sending some bytes, each once a ready status has come for it. -/
theorem sendAll_transmits (line : Line) (documented : registers.Documented accesses) (scripted : registers.Scripted coming)
    (bytes : List UInt8) {state : σ} (supplied : Supplies (coming state) bytes.length) :
    ∃ after made used, registers.sendAll line bytes state = .some after ∧
      accesses after = accesses state ++ made ∧ line.Transmits bytes made ∧
      answers made = (List.range used).map (coming state) ∧
      coming after = fun place => coming state (used + place) := by
  induction bytes generalizing state with
  | nil => exact ⟨state, [], 0, rfl, by simp, rfl, rfl, by simp⟩
  | cons byte bytes ih =>
    obtain ⟨last, busy, ready, supplied⟩ := supplied.first
    obtain ⟨middle, sent, made, left⟩ := send_reads line documented scripted byte busy ready
    rw [← left] at supplied
    obtain ⟨after, rest, used, sent_rest, made_rest, transmits, answered, left_rest⟩ :=
      ih supplied
    refine ⟨after, _, last + 1 + used, ?_, ?_,
      ⟨(List.range last).map (coming state), _, rest, ?_, ready, rfl, transmits⟩, ?_, ?_⟩
    · rw [sendAll, sent, Part.bind_some, sent_rest]
    · rw [made_rest, made]
      simp
    · intro status member
      obtain ⟨place, before, rfl⟩ := List.mem_map.mp member
      exact busy place (List.mem_range.mp before)
    · rw [answers_append, answers_inputs, answers, List.filterMap_cons, List.filterMap_cons, ← answers, answered,
        List.range_add, List.range_succ]
      simp [left]
    · simp only [left_rest, left, Nat.add_assoc]

end Registers

end Nucleus.Serial

/-! ### The bare machine -/

namespace Nucleus.Machine
open Serial
variable {machine : Machine} {line : Line}

/-- What reads of the machine will answer: its script, then a ready status for ever. -/
def coming (machine : Machine) (place : Nat) : UInt8 := machine.script.getD place idleStatus

/-- The registers of the machine: each access is recorded, and reads use up the script. -/
def registers : Registers Machine where
  read register machine :=
    (machine.coming 0, { machine with
      script := machine.script.tail
      accesses := machine.accesses ++ [.input register (machine.coming 0)] })
  write register value machine := { machine with accesses := machine.accesses ++ [.output register value] }

theorem read_registers (register : Nat) (machine : Machine) : registers.read register machine =
    (machine.coming 0, { machine with
      script := machine.script.tail
      accesses := machine.accesses ++ [.input register (machine.coming 0)] }) := rfl

theorem registers_documented : registers.Documented accesses where
  read _ _ := rfl
  write _ _ _ := rfl

theorem registers_scripted : registers.Scripted coming where
  read _ _ := rfl
  advance _ machine place := by
    cases h : machine.script <;> simp [registers, coming, h]
  write _ _ _ := rfl

theorem await_registers (machine : Machine) : registers.await line machine =
    .some { machine with
      script := (line.await machine.script).2
      accesses := machine.accesses ++ (line.await machine.script).1 } := by
  obtain ⟨flags, script, accesses⟩ := machine
  induction script generalizing accesses with
  | nil =>
    have ready : isReady idleStatus = true := by decide
    rw [Registers.await_ready ready]
    rfl
  | cons status script ih =>
    cases ready : isReady status with
    | true =>
      rw [Registers.await_ready ready, Line.await, if_pos ready]
      rfl
    | false =>
      rw [Registers.await_busy ready, read_registers]
      simp only [coming, List.getD_cons_zero, List.tail_cons, ih]
      simp [Line.await, ready]

@[simp] theorem write_registers (register : Nat) (value : UInt8) (machine : Machine) :
    registers.write register value machine =
      { machine with accesses := machine.accesses ++ [.output register value] } := rfl

theorem send_registers (machine : Machine) (byte : UInt8) :
    registers.send line byte machine = .some (machine.send line byte) := by
  rw [Registers.send, await_registers, Part.map_some]
  simp [Machine.send, Line.send]

theorem sendAll_registers (machine : Machine) (bytes : List UInt8) : registers.sendAll line bytes machine =
    .some { machine with
      script := (line.sendAll bytes machine.script).2
      accesses := machine.accesses ++ (line.sendAll bytes machine.script).1 } := by
  induction bytes generalizing machine with
  | nil => simp [Registers.sendAll, Line.sendAll]
  | cons byte bytes ih =>
    rw [Registers.sendAll, send_registers, Part.bind_some, ih]
    simp [Machine.send, Line.sendAll]

/-- The machine sends a text as any program does that reaches its registers one at a time. -/
theorem sendText_registers (machine : Machine) (text : String) :
    registers.sendText line text machine = .some (machine.write line text) :=
  sendAll_registers machine text.toUTF8.toList

end Nucleus.Machine

namespace Nucleus.Serial

/-- On any registers of which a read or a write is one access, and for any script with a ready status for each byte of
a text: sending the text ends, and has accessed the registers for each byte in order by reads of a status that is not
ready, one read of a ready status and one write of the byte, and in no other way. The reads were answered by the first
statuses of the script, and the others are still to come; every register has a 16-bit number. Sending two texts one
after the other is sending them as one. The bare machine is one such machine. -/
theorem text_transmitted {σ : Type} {registers : Registers σ} {accesses : σ → List Access}
    {coming : σ → Nat → UInt8} (documented : registers.Documented accesses) (scripted : registers.Scripted coming)
    (line : Line) (small : line.base ≤ 65530) (text : String) (state : σ)
    (supplied : Supplies (coming state) text.utf8ByteSize) :
    (∃ after made used, registers.sendText line text state = .some after ∧
      accesses after = accesses state ++ made ∧ line.Transmits text.toUTF8.toList made ∧
      answers made = (List.range used).map (coming state) ∧
      (coming after = fun place => coming state (used + place)) ∧
      ∀ access ∈ made, access.register < 0x10000) ∧
    (∀ first second, registers.sendText line (first ++ second) state =
      (registers.sendText line first state).bind (registers.sendText line second)) ∧
    ∀ machine : Machine, Machine.registers.sendText line text machine = .some (machine.write line text) := by
  refine ⟨?_, fun first second => Registers.sendText_append first second state,
    fun machine => Machine.sendText_registers machine text⟩
  rw [← length_utf8] at supplied
  obtain ⟨after, made, used, sent, accessed, transmits, answered, left⟩ :=
    Registers.sendAll_transmits line documented scripted text.toUTF8.toList supplied
  refine ⟨after, made, used, sent, accessed, transmits, answered, left, ?_⟩
  intro access member
  rcases transmits.register access member with status | data
  · rw [status, Line.lineStatus]
    omega
  · rw [data, Line.data]
    omega

/-- A letter of two bytes is sent while the transmitter is busy once before each of them. -/
theorem text_transmitted_to_busy_console :
    let machine : Machine := ⟨⟨0x202⟩, [0x00, 0x60, 0x41, 0x20, 0x5f], []⟩
    (machine.write console "é").accesses =
      [.input 0x3fd 0x00, .input 0x3fd 0x60, .output 0x3f8 0xc3,
        .input 0x3fd 0x41, .input 0x3fd 0x20, .output 0x3f8 0xa9] ∧
    console.Transmits [0xc3, 0xa9] (machine.write console "é").accesses ∧
    Supplies machine.coming "é".utf8ByteSize := by
  intro machine
  have bytes : "é".toUTF8.toList = [0xc3, 0xa9] := by
    rw [toList_eq]
    decide
  have supplied : Supplies machine.coming "é".utf8ByteSize := ⟨4, by rw [← length_utf8, bytes]; decide⟩
  obtain ⟨⟨after, made, _, sent, accessed, transmits, -⟩, -, written⟩ := text_transmitted
    Machine.registers_documented Machine.registers_scripted console (by decide) "é" machine supplied
  obtain rfl := Part.some_injective (sent.symm.trans (written machine))
  rw [bytes] at transmits
  have evaluated : (machine.write console "é").accesses = machine.accesses ++
      (console.sendAll [0xc3, 0xa9] machine.script).1 := by
    rw [← bytes]
    rfl
  refine ⟨evaluated.trans (by decide), ?_, supplied⟩
  rw [accessed]
  exact transmits

end Nucleus.Serial
