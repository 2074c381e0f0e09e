/-! Hexadecimal numerals. -/
namespace Nucleus.Text

/-- An address in lower case after `0x`, without leading zeros. -/
def hex (value : Nat) : String := "0x" ++ String.ofList (Nat.toDigits 16 value)

/-- Upper-case digits, filled with zeros on the left up to a width. -/
def hexPadded (width value : Nat) : String :=
  let digits := (Nat.toDigits 16 value).map Char.toUpper
  String.ofList (List.replicate (width - digits.length) '0' ++ digits)

end Nucleus.Text
