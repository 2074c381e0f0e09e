import Nucleus.Task.Command
import Nucleus.Text.Quoted

/-! Carrying out a task: what is printed, which tool commands are launched in which order, and how it
fails. -/
namespace Nucleus.Task

structure Package where
  name : String
  /-- Whether its tests need the `std` feature. -/
  needsStd : Bool
deriving DecidableEq, Repr

def packages : List Package :=
  [⟨"mos_error", false⟩, ⟨"mos_utils", true⟩, ⟨"mos_hal", true⟩, ⟨"mosaic-kernel", true⟩]

def target : String := "x86_64-unknown-none"

/-- What became of a launched tool. -/
inductive Launch where
  | notStarted (reason : String)
  | finished (success : Bool)
deriving DecidableEq, Repr

/-- What a task needs from its surroundings. -/
structure Shell (m : Type → Type) where
  say : String → m Unit
  /-- Runs the build tool with these arguments. -/
  launch : List String → m Launch

inductive Failure where
  | unknownPackage (name : String)
  | testsNotStarted (package reason : String)
  | testsFailed (package : String)
  | buildNotStarted (reason : String)
  | buildFailed
deriving DecidableEq, Repr

namespace Failure

def message : Failure → String
  | unknownPackage name =>
    let quoted := Text.Quoted.encode name
    let expected := ", ".intercalate (packages.map Package.name)
    s!"unknown package {quoted}; expected one of: {expected}"
  | testsNotStarted package _ => s!"Failed to run {package} tests"
  | testsFailed package => s!"{package} unit tests failed"
  | buildNotStarted _ => "Failed to run cargo build"
  | buildFailed => s!"bare-metal build failed (is the {target} target installed?)"

/-- What lies under a failure. -/
def cause : Failure → Option String
  | testsNotStarted _ reason => some reason
  | buildNotStarted reason => some reason
  | _ => none

/-- How a failed command reports itself. -/
def report (failure : Failure) : String :=
  let head := "Error: " ++ failure.message ++ "\n"
  match failure.cause with
  | none => head
  | some inner => head ++ "\nCaused by:\n    " ++ inner ++ "\n"

end Failure

def testArgs (package : Package) : List String :=
  ["test", "-p", package.name] ++ (if package.needsStd then ["--features", "std"] else [])

def buildArgs (release : Bool) : List String :=
  ["build", "--target", target] ++ packages.flatMap (fun package => ["-p", package.name]) ++
    (if release then ["--release"] else [])

variable {m : Type → Type} [Monad m]

/-- Tests one package after the other and stops at the first that fails. -/
def testEach (shell : Shell m) : List Package → m (Except Failure Unit)
  | [] => do
    shell.say "✅ All unit tests passed\n\n"
    return .ok ()
  | package :: rest => do
    let name := package.name
    shell.say s!"Running {name} unit tests...\n"
    match ← shell.launch (testArgs package) with
    | .notStarted reason => return .error (.testsNotStarted name reason)
    | .finished false => return .error (.testsFailed name)
    | .finished true =>
      shell.say "\n"
      testEach shell rest

def Command.run (shell : Shell m) : Command → m (Except Failure Unit)
  | .test wanted => do
    shell.say "=== Unit Tests ===\n\n"
    match wanted with
    | none => testEach shell packages
    | some name =>
      match packages.filter (·.name = name) with
      | [] => return .error (.unknownPackage name)
      | selected => testEach shell selected
  | .check release => do
    shell.say s!"Building for {target}...\n"
    match ← shell.launch (buildArgs release) with
    | .notStarted reason => return .error (.buildNotStarted reason)
    | .finished false => return .error .buildFailed
    | .finished true =>
      shell.say s!"✅ {target} build succeeded\n"
      return .ok ()

/-- The exit status of a command line that is not carried out. -/
def UsageError.exitStatus : UsageError → Nat
  | .help => 0
  | _ => 2

end Nucleus.Task
