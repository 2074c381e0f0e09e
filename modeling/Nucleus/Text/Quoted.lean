import Nucleus.Text.Extending
import Nucleus.Text.Unprinted

/-! Texts between double quotes, with escapes for what would not show. -/
namespace Nucleus.Text.Quoted

/-- Letters that stand for nothing: the fillers of Hangul. -/
def fillers : List (Nat × Nat) := [(0x115F, 0x1160), (0x3164, 0x3164), (0xFFA0, 0xFFA0)]

def within (ranges : List (Nat × Nat)) (c : Char) : Bool :=
  ranges.any fun (first, last) => first ≤ c.toNat && c.toNat ≤ last

/-- Whether a character would not show, or not on its own. -/
def isHidden (c : Char) : Bool := within unprinted c || within extending c || within fillers c

def escape (c : Char) : List Char :=
  match c with
  | '"' => ['\\', '"']
  | '\\' => ['\\', '\\']
  | '\n' => ['\\', 'n']
  | '\r' => ['\\', 'r']
  | '\t' => ['\\', 't']
  | '\x00' => ['\\', '0']
  | c => if isHidden c then ['\\', 'u', '\x7b'] ++ Nat.toDigits 16 c.toNat ++ ['\x7d'] else [c]

def encode (text : String) : String :=
  String.ofList ('"' :: (text.toList.flatMap escape ++ ['"']))

end Nucleus.Text.Quoted
