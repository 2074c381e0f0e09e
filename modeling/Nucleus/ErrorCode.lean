import Nucleus.Text.Hex

/-! Error kinds with stable numbers. An error prints as `E`, four hex digits (its subsystem, then
its own number), its description, and what caused it in parentheses. -/
namespace Nucleus

class Coded (ε : Type) where
  /-- The number of the subsystem the errors belong to, one byte. -/
  subsystem : Nat
  /-- The error's own number, one byte. -/
  number : ε → Nat
  description : ε → String
  /-- How the error underneath prints, when there is one. -/
  cause : ε → Option String

namespace Coded
variable {ε : Type} [Coded ε]

/-- The subsystem in the high byte, the error's number in the low one. -/
def code (error : ε) : Nat := (subsystem ε * 256) ||| number error

def message (error : ε) : String :=
  let head := "E" ++ Text.hexPadded 4 (code error) ++ ": " ++ description error
  match cause error with
  | none => head
  | some inner => head ++ " (" ++ inner ++ ")"

end Coded

end Nucleus
