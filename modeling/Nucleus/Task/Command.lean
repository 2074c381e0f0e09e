import Nucleus.Task.Options

/-! The command line of the developer tasks. -/
namespace Nucleus.Task

inductive Command where
  /-- Runs the packages' tests, or those of one package. -/
  | test (package : Option String)
  /-- Builds all packages for the bare machine. -/
  | check (release : Bool)
deriving DecidableEq, Repr

namespace Command

def package : OptionSpec := ⟨"package", some 'p', true⟩

def release : OptionSpec := ⟨"release", none, false⟩

def names : List String := ["test", "check", "help"]

/-- `help` takes the name of a command; only the name of a command may follow it. -/
def helpOn : List String → UsageError
  | [] => .help
  | [name] => if names.contains name then .help else .unknownCommand
  | _ => .unknownCommand

/-- An argument in the place of a command's name that is none. -/
def notACommand (argument : String) : UsageError :=
  match argument.toList with
  | '-' :: '-' :: text =>
    if text = "help".toList then .help
    else if "help=".toList.isPrefixOf text then .unneededValue
    else .unknownArgument
  | '-' :: 'h' :: _ => .help
  | '-' :: _ :: _ => .unknownArgument
  | _ => .unknownCommand

def ofArgs : List String → Except UsageError Command
  | [] => .error .missingCommand
  | "test" :: rest => do
    let reading ← Reading.start.all [package] rest
    return test (reading.value? package.long)
  | "check" :: rest => do
    let reading ← Reading.start.all [release] rest
    return check (reading.value? release.long).isSome
  | "help" :: rest => .error (helpOn rest)
  | ["--"] => .error .missingCommand
  | "--" :: name :: _ =>
    .error (if names.contains name then .unknownArgument else .unknownCommand)
  | argument :: _ => .error (notACommand argument)

end Command

end Nucleus.Task
