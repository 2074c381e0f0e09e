import Nucleus.BitArray

/-! Turning a bit over changes that bit and no other, and the bits determine the bytes. -/
namespace Nucleus.BitArray

theorem flip_eq_ok {bits : BitArray} {index : Nat} (inside : index / 8 < bits.size) :
    ∃ value turned, bits.flip index = .ok (value, turned) ∧ turned.size = bits.size ∧
      ∀ other, turned.bit other = if other = index then !bits.bit other else bits.bit other := by
  refine ⟨_, _, if_pos inside, rfl, ?_⟩
  intro other
  simp only [bit, Memory.get_set, Nat.one_shiftLeft]
  by_cases byte : index / 8 = other / 8
  · have small : (bits.memory.get (index / 8)).toNat ^^^ 2 ^ (index % 8) < 2 ^ 8 :=
      Nat.xor_lt_two_pow (UInt8.toNat_lt _) (Nat.pow_lt_pow_right (by omega) (Nat.mod_lt _ (by omega)))
    rw [if_pos byte, UInt8.toNat_ofNat', Nat.mod_eq_of_lt small, Nat.testBit_xor, Nat.testBit_two_pow,
      byte]
    by_cases same : other = index
    · simp [same]
    · have apart : index % 8 ≠ other % 8 := by omega
      simp [same, apart]
  · have apart : other ≠ index := fun same => byte (same ▸ rfl)
    rw [if_neg byte, if_neg apart]

theorem bit_clear (bits : BitArray) (index : Nat) : bits.clear.bit index = false := by
  simp [bit, clear]

/-- The bytes are determined by their bits. -/
theorem bytes_congr {bits other : BitArray} (size : bits.size = other.size)
    (same : ∀ index, index / 8 < bits.size → bits.bit index = other.bit index) : bits.bytes = other.bytes := by
  rw [bytes, bytes, ← size]
  apply List.map_congr_left
  intro place inside
  rw [List.mem_range] at inside
  rw [Nat.zero_add, ← UInt8.toNat_inj]
  apply Nat.eq_of_testBit_eq
  intro i
  by_cases low : i < 8
  · have bit := same (8 * place + i) (by omega)
    rwa [BitArray.bit, BitArray.bit, show (8 * place + i) / 8 = place by omega,
      show (8 * place + i) % 8 = i by omega] at bit
  · have high : 2 ^ 8 ≤ 2 ^ i := Nat.pow_le_pow_right (by omega) (by omega)
    rw [Nat.testBit_lt_two_pow (Nat.lt_of_lt_of_le (UInt8.toNat_lt _) high),
      Nat.testBit_lt_two_pow (Nat.lt_of_lt_of_le (UInt8.toNat_lt _) high)]

theorem bytes_clear {bits other : BitArray} (size : bits.size = other.size) :
    bits.clear.bytes = other.clear.bytes :=
  bytes_congr size fun index _ => (bits.bit_clear index).trans (other.bit_clear index).symm

end Nucleus.BitArray
