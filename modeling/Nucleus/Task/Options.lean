/-! Options of a command that takes no other arguments: long ones with two dashes, short ones with one
and in clusters, a value attached or in the next argument. Every command knows `--help` and `-h`. -/
namespace Nucleus.Task

/-- Why a command line is not carried out. -/
inductive UsageError where
  /-- Help was asked for. -/
  | help
  | missingCommand
  | unknownCommand
  | unknownArgument
  | missingValue
  /-- A value attached to an option that takes none. -/
  | unneededValue
  /-- An option given twice. -/
  | repeated
deriving DecidableEq, Repr

structure OptionSpec where
  long : String
  short : Option Char
  takesValue : Bool
deriving DecidableEq, Repr

/-- How far a command's arguments are read. An option is taken into account only when the reading
moves on to the next one or ends, so the option read last is kept apart. -/
structure Reading where
  /-- Options taken into account, by long name. -/
  given : List (String × String)
  /-- The option read last, with its value once that is read. -/
  pending : Option (OptionSpec × Option String)
deriving DecidableEq, Repr

namespace Reading

def start : Reading := ⟨[], none⟩

def record (reading : Reading) (option : OptionSpec) (value : String) : Except UsageError Reading :=
  if reading.given.any (·.1 = option.long) then .error .repeated
  else .ok { reading with given := reading.given ++ [(option.long, value)] }

/-- Takes the option read last into account. -/
def settle (reading : Reading) : Except UsageError Reading :=
  match reading.pending with
  | none => .ok reading
  | some (_, none) => .error .missingValue
  | some (option, some value) => { reading with pending := none }.record option value

def take (reading : Reading) (option : OptionSpec) (value : String) : Except UsageError Reading := do
  (← reading.settle).record option value

/-- An option whose value is the next argument. -/
def await (reading : Reading) (option : OptionSpec) : Except UsageError Reading := do
  return { ← reading.settle with pending := some (option, none) }

def help (reading : Reading) : Except UsageError Reading := do
  let _ ← reading.settle
  .error .help

/-- `--name` or `--name=value`, without the dashes. -/
def long (specs : List OptionSpec) (reading : Reading) (text : List Char) :
    Except UsageError Reading :=
  let name := String.ofList (text.takeWhile (· ≠ '='))
  let value := (text.dropWhile (· ≠ '=')).tail?.map String.ofList
  if name = "help" then
    if value.isSome then .error .unneededValue else reading.help
  else
    match specs.find? (·.long = name), value with
    | none, _ => .error .unknownArgument
    | some option, some value =>
      if option.takesValue then reading.take option value else .error .unneededValue
    | some option, none =>
      if option.takesValue then reading.await option else reading.take option ""

/-- A cluster of short options, without the dash. The first that takes a value takes the rest. -/
def short (specs : List OptionSpec) (reading : Reading) : List Char → Except UsageError Reading
  | [] => .ok reading
  | 'h' :: _ => reading.help
  | c :: rest =>
    match specs.find? (·.short = some c) with
    | none => .error .unknownArgument
    | some option =>
      if option.takesValue then
        match rest with
        | [] => reading.await option
        | '=' :: value => reading.take option (String.ofList value)
        | value => reading.take option (String.ofList value)
      else do short specs (← reading.take option "") rest

/-- An argument that is no option: the value that is waited for, or too much. -/
def plain (reading : Reading) (text : String) : Except UsageError Reading :=
  match reading.pending with
  | some (option, none) => .ok { reading with pending := some (option, some text) }
  | _ => .error .unknownArgument

def one (specs : List OptionSpec) (reading : Reading) (argument : String) :
    Except UsageError Reading :=
  match argument.toList with
  | '-' :: '-' :: text => reading.long specs text
  | ['-'] => reading.plain argument
  | '-' :: text => reading.short specs text
  | _ => reading.plain argument

/-- Reads all arguments. After `--` nothing may follow. -/
def all (specs : List OptionSpec) : Reading → List String → Except UsageError Reading
  | reading, [] => reading.settle
  | reading, ["--"] => reading.settle
  | reading, argument :: rest =>
    if argument = "--" then .error .unknownArgument
    else do all specs (← reading.one specs argument) rest

def value? (reading : Reading) (name : String) : Option String := reading.given.lookup name

end Reading

end Nucleus.Task
