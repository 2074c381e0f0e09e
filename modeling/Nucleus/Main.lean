import Nucleus.Task.Run

/-! The command line. The build tool is run from outside: its command is printed, and the line that
comes back on standard input is its exit status; no line means that it could not be started. -/
namespace Nucleus.Task

def usage : String :=
  "Usage: nucleus <COMMAND>\n\n" ++
  "Commands:\n" ++
  "  test [-p, --package <PACKAGE>]  Run the host tests, or those of one package\n" ++
  "  check [--release]               Build every package for the bare machine\n" ++
  "  help [COMMAND]                  Print this text\n"

def hostShell : Shell IO where
  say text := IO.print text
  launch args := do
    IO.println ("cargo " ++ " ".intercalate args)
    (← IO.getStdout).flush
    let line ← (← IO.getStdin).getLine
    if line.isEmpty then return .notStarted "No such file or directory (os error 2)"
    else return .finished (line.trimAscii.toString = "0")

end Nucleus.Task

open Nucleus.Task

def main (args : List String) : IO UInt32 := do
  match Command.ofArgs args with
  | .error error =>
    let status := error.exitStatus
    if status = 0 then IO.print usage else IO.eprint usage
    return UInt32.ofNat status
  | .ok command =>
    match ← command.run hostShell with
    | .ok () => return 0
    | .error failure =>
      IO.eprint failure.report
      return 1
