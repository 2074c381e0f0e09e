import Nucleus.Fault

/-! Machine words are natural numbers below `2 ^ 64`. Sums, differences and shifts that leave that
range are faults; in memory a word is eight bytes, least significant first. -/
namespace Nucleus.Word

/-- One more than the largest word. -/
def bound : Nat := 1 <<< 64

def add (a b : Nat) : Except Fault Nat :=
  if a + b < bound then .ok (a + b) else .error .range

def sub (a b : Nat) : Except Fault Nat :=
  if b ≤ a then .ok (a - b) else .error .range

/-- Bits shifted past the top are lost; only the distance is checked. -/
def shiftLeft (a distance : Nat) : Except Fault Nat :=
  if distance < 64 then .ok ((a <<< distance) % bound) else .error .range

def shiftRight (a distance : Nat) : Except Fault Nat :=
  if distance < 64 then .ok (a >>> distance) else .error .range

/-- The eight bytes that hold a word. -/
def toBytes (value : Nat) : List UInt8 :=
  (List.range 8).map fun i => UInt8.ofNat (value >>> (8 * i))

def ofBytes (bytes : List UInt8) : Nat :=
  bytes.foldr (fun byte rest => byte.toNat + 256 * rest) 0

theorem add_eq_ok {a b : Nat} (fits : a + b < bound) : add a b = .ok (a + b) := if_pos fits

theorem sub_eq_ok {a b : Nat} (fits : b ≤ a) : sub a b = .ok (a - b) := if_pos fits

theorem length_toBytes (value : Nat) : (toBytes value).length = 8 := by simp [toBytes]

theorem ofBytes_toBytes {value : Nat} (fits : value < bound) : ofBytes (toBytes value) = value := by
  have split : toBytes value = [UInt8.ofNat value, UInt8.ofNat (value >>> 8), UInt8.ofNat (value >>> 16),
      UInt8.ofNat (value >>> 24), UInt8.ofNat (value >>> 32), UInt8.ofNat (value >>> 40),
      UInt8.ofNat (value >>> 48), UInt8.ofNat (value >>> 56)] := rfl
  simp only [split, ofBytes, List.foldr, UInt8.toNat_ofNat']
  unfold bound at fits
  omega

end Nucleus.Word
