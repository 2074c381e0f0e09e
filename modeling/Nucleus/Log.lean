/-! Log levels and the lines they print. A filter is the most verbose level let through. -/
namespace Nucleus.Log

inductive Level where
  | error | warn | info | debug | trace
deriving DecidableEq, Repr

namespace Level

def all : List Level := [error, warn, info, debug, trace]

def name : Level → String
  | error => "ERROR"
  | warn => "WARN"
  | info => "INFO"
  | debug => "DEBUG"
  | trace => "TRACE"

/-- Grows with the detail of what is logged, from 1. -/
def verbosity : Level → Nat
  | error => 1
  | warn => 2
  | info => 3
  | debug => 4
  | trace => 5

end Level

inductive Filter where
  | off
  | upTo (level : Level)
deriving DecidableEq, Repr

namespace Filter

def verbosity : Filter → Nat
  | off => 0
  | upTo level => level.verbosity

def lets (filter : Filter) (level : Level) : Bool := level.verbosity ≤ filter.verbosity

/-- Filters are named `off` or by their level, in any letter case. -/
def ofName? (name : String) : Option Filter :=
  let folded := name.map Char.toUpper
  if folded = "OFF" then some off
  else (Level.all.find? (·.name = folded)).map upTo

def name : Filter → String
  | off => "OFF"
  | upTo level => level.name

end Filter

structure Line where
  level : Level
  text : String
deriving DecidableEq, Repr

/-- The level is set left in five columns between brackets. -/
def Line.render (line : Line) : String :=
  let name := line.level.name
  "[" ++ name ++ "".pushn ' ' (5 - name.length) ++ "] " ++ line.text

/-- Where lines go once a logger is in place: it is put in place once, with the filter it starts
with; later only the filter moves. -/
structure Logger where
  inPlace : Bool
  filter : Filter
deriving DecidableEq, Repr

inductive InstallError where
  | alreadyInstalled
deriving DecidableEq, Repr

def InstallError.message : InstallError → String
  | alreadyInstalled =>
    "attempted to set a logger after the logging system was already initialized"

namespace Logger

def absent : Logger := ⟨false, .off⟩

def install (logger : Logger) (filter : Filter) : Except InstallError Logger :=
  if logger.inPlace then .error .alreadyInstalled else .ok ⟨true, filter⟩

def withFilter (logger : Logger) (filter : Filter) : Logger := { logger with filter }

/-- The console text of one line: nothing when the logger is absent or the filter stops it. -/
def print (logger : Logger) (line : Line) : String :=
  if logger.inPlace && logger.filter.lets line.level then line.render ++ "\n" else ""

/-- The lines that get through, as they are printed. -/
def shown (logger : Logger) (lines : List Line) : List String :=
  (lines.filter fun line => logger.inPlace && logger.filter.lets line.level).map Line.render

end Logger

end Nucleus.Log
