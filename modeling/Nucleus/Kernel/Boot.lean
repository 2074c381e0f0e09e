import Nucleus.Kernel.Dispatch

/-! The kernel as it is configured: where its heap lies, what it logs, and how it starts. -/
namespace Nucleus
open Buddy Messages Processes Syscall

namespace Boot

def heapBase : Nat := 0x01000000

def heapGeometry : Geometry := Geometry.standard

def heapSize : Nat := heapGeometry.maxBlock

def logFilter : Log.Filter := .upTo .info

/-- The line logged once the logger is in place. -/
def banner : Log.Line :=
  let size := heapSize
  let block := heapGeometry.minBlock
  ⟨.info, s!"[MOSAIC] heap {Text.hex heapBase}+{Text.hex size}, {block} byte blocks"⟩

/-- Puts the logger in place and logs the banner; the console text is the answer. -/
def start (logger : Log.Logger) : Except Log.InstallError (String × Log.Logger) := do
  let logger ← logger.install logFilter
  return (logger.print banner, logger)

/-- A heap over a window, with split bits of its own. -/
def heapOver (geometry : Geometry) (window : Window) : Heap :=
  Heap.fresh geometry window (BitArray.filled geometry.splitBytes 0)

/-- The kernel's own state before the first call: an untouched heap over one raw region that user
buffers share. -/
def kernel : Kernel :=
  { heap := heapOver heapGeometry (Window.raw heapBase heapSize)
    registry := Registry.empty
    table := Table.empty
    space := .flat }

end Boot

end Nucleus
