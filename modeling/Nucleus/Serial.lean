/-! A serial line behind eight device registers. A byte is sent once the status register shows the
transmitter empty; every register access is recorded. -/
namespace Nucleus.Serial

inductive Access where
  | input (register : Nat) (value : UInt8)
  | output (register : Nat) (value : UInt8)
deriving DecidableEq, Repr

/-- What reads will answer: these bytes one by one, then a ready status for ever. -/
abbrev Script := List UInt8

/-- The status after the script: transmitter empty. -/
def idleStatus : UInt8 := 0x60

def emptyBit : UInt8 := 0x20

def isReady (status : UInt8) : Bool := status &&& emptyBit ≠ 0

/-- A line by the address of its first register. -/
structure Line where
  base : Nat
deriving DecidableEq, Repr

/-- The kernel console's line. -/
def console : Line := ⟨0x3F8⟩

namespace Line

def data (line : Line) : Nat := line.base

def interruptEnable (line : Line) : Nat := line.base + 1

def fifoControl (line : Line) : Nat := line.base + 2

def lineControl (line : Line) : Nat := line.base + 3

def modemControl (line : Line) : Nat := line.base + 4

def lineStatus (line : Line) : Nat := line.base + 5

/-- Sets 38400 baud, eight data bits, no parity, one stop bit, queues on. -/
def setup (line : Line) : List Access :=
  [.output line.interruptEnable 0x00,
    .output line.lineControl 0x80,
    .output line.data 0x03,
    .output line.interruptEnable 0x00,
    .output line.lineControl 0x03,
    .output line.fifoControl 0xC7,
    .output line.modemControl 0x0B]

/-- Reads the status until the transmitter is empty. -/
def await (line : Line) : Script → List Access × Script
  | [] => ([.input line.lineStatus idleStatus], [])
  | status :: rest =>
    if isReady status then ([.input line.lineStatus status], rest)
    else
      let (accesses, rest) := line.await rest
      (.input line.lineStatus status :: accesses, rest)

def send (line : Line) (byte : UInt8) (script : Script) : List Access × Script :=
  let (accesses, rest) := line.await script
  (accesses ++ [.output line.data byte], rest)

def sendAll (line : Line) : List UInt8 → Script → List Access × Script
  | [], script => ([], script)
  | byte :: bytes, script =>
    let (accesses, script) := line.send byte script
    let (more, script) := line.sendAll bytes script
    (accesses ++ more, script)

/-- Sends a text as the bytes of its UTF-8 form. -/
def write (line : Line) (text : String) (script : Script) : List Access × Script :=
  line.sendAll text.toUTF8.toList script

end Line

end Nucleus.Serial
