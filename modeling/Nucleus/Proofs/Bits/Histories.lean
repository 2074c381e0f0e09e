import Nucleus.Proofs.Bits
import Mathlib.Data.List.Induction
import Mathlib.Order.Bounds.Defs
import Mathlib.Tactic.ByContra

/-! What the bits are after any edits. A bit is what it was at first, or not set once all bits were cleared, turned
over as often as since then; an index past the last byte is a fault, and nothing changes there. -/
namespace Nucleus.BitArray
variable {bits : BitArray} {index : Nat}

/-! ### Storage -/

/-- The bit of some bytes at an index: bit `index % 8` of byte `index / 8`, and not set past the last byte. -/
def bitOf (bytes : List UInt8) (index : Nat) : Bool :=
  (bytes[index / 8]?.getD 0).toNat.testBit (index % 8)

@[simp] theorem length_bytes (bits : BitArray) : bits.bytes.length = bits.size := by
  simp [bytes]

/-- Any bytes make an array of bits. -/
theorem bytes_ofBytes (storage : List UInt8) : (ofBytes storage).bytes = storage :=
  Memory.read_write _ 0 storage

theorem bitOf_bytes (inside : index / 8 < bits.size) : bitOf bits.bytes index = bits.bit index := by
  simp [bitOf, bytes, Memory.read, bit, inside]

theorem bitOf_bytes_of_past (past : bits.size ≤ index / 8) : bitOf bits.bytes index = false := by
  rw [bitOf, List.getElem?_eq_none (by rwa [length_bytes])]
  simp

theorem get_inside (inside : index / 8 < bits.size) : bits.get index = .ok (bits.bit index) := if_pos inside

theorem get_past (past : bits.size ≤ index / 8) : bits.get index = .error .index :=
  if_neg (Nat.not_lt.mpr past)

theorem flip_inside (inside : index / 8 < bits.size) :
    ∃ turned, bits.flip index = .ok (!bits.bit index, turned) ∧ turned.size = bits.size ∧
      ∀ other, turned.bit other = if other = index then !bits.bit other else bits.bit other := by
  obtain ⟨value, turned, flipped, size, bit⟩ := flip_eq_ok inside
  have answer : value = turned.bit index := by
    rw [flip, if_pos inside] at flipped
    cases flipped
    rfl
  rw [bit, if_pos rfl] at answer
  exact ⟨turned, answer ▸ flipped, size, bit⟩

theorem flip_past (past : bits.size ≤ index / 8) : bits.flip index = .error .index :=
  if_neg (Nat.not_lt.mpr past)

theorem in_range_iff {count : Nat} :
    (∀ index < count, ∃ value, bits.get index = .ok value) ↔ bytesFor count ≤ bits.size := by
  have least : bytesFor count ≤ bits.size ↔ count ≤ 8 * bits.size := by
    unfold bytesFor
    split <;> omega
  rw [least]
  constructor
  · intro all
    by_contra short
    obtain ⟨value, got⟩ := all (8 * bits.size) (by omega)
    rw [get_past (by omega)] at got
    cases got
  · intro enough index inside
    exact ⟨_, get_inside (by omega)⟩

/-! ### Edits -/

/-- What is done to an array of bits. -/
inductive Edit where
  | flip (index : Nat)
  | clear
deriving DecidableEq, Repr

/-- The bits after an edit; a fault leaves them as they were. -/
def edit (bits : BitArray) : Edit → BitArray
  | .flip index =>
    match bits.flip index with
    | .ok (_, turned) => turned
    | .error _ => bits
  | .clear => bits.clear

def editAll (bits : BitArray) (edits : List Edit) : BitArray := edits.foldl edit bits

/-- The edits since all bits were last cleared, the last of them first. -/
def sinceClear (edits : List Edit) : List Edit := edits.reverse.takeWhile (· ≠ .clear)

/-- What a bit that was `first` is after some edits. -/
def bitAfter (first : Bool) (edits : List Edit) (index : Nat) : Bool :=
  (first && decide (.clear ∉ edits)) ^^ decide ((sinceClear edits).count (.flip index) % 2 = 1)

theorem editAll_concat (bits : BitArray) (edits : List Edit) (edit : Edit) :
    bits.editAll (edits ++ [edit]) = (bits.editAll edits).edit edit := by
  simp [editAll]

theorem edit_past (past : bits.size ≤ index / 8) : bits.edit (.flip index) = bits := by
  rw [edit, flip_past past]

theorem size_edit (bits : BitArray) (edit : Edit) : (bits.edit edit).size = bits.size := by
  cases edit with
  | clear => rfl
  | flip index =>
    by_cases inside : index / 8 < bits.size
    · obtain ⟨turned, flipped, size, -⟩ := flip_inside inside
      rw [BitArray.edit, flipped]
      exact size
    · rw [edit_past (Nat.not_lt.mp inside)]

@[simp] theorem size_editAll (bits : BitArray) (edits : List Edit) : (bits.editAll edits).size = bits.size := by
  induction edits using List.reverseRecOn with
  | nil => rfl
  | append_singleton edits edit ih => rw [editAll_concat, size_edit, ih]

theorem bit_edit_flip (inside : index / 8 < bits.size) (turn : Nat) :
    (bits.edit (.flip turn)).bit index = (bits.bit index ^^ decide (turn = index)) := by
  by_cases within : turn / 8 < bits.size
  · obtain ⟨turned, flipped, -, bit⟩ := flip_inside within
    rw [edit, flipped]
    simp only [bit]
    by_cases same : index = turn
    · simp [same]
    · simp [same, Ne.symm same]
  · have other : turn ≠ index := fun same => within (same ▸ inside)
    rw [edit_past (Nat.not_lt.mp within)]
    simp [other]

theorem bitAfter_clear (first : Bool) (edits : List Edit) (index : Nat) :
    bitAfter first (edits ++ [.clear]) index = false := by
  simp [bitAfter, sinceClear]

theorem bitAfter_flip (first : Bool) (edits : List Edit) (turn index : Nat) :
    bitAfter first (edits ++ [.flip turn]) index = (bitAfter first edits index ^^ decide (turn = index)) := by
  have since : sinceClear (edits ++ [.flip turn]) = .flip turn :: sinceClear edits := by simp [sinceClear]
  have kept : (Edit.clear ∉ edits ++ [.flip turn]) ↔ Edit.clear ∉ edits := by simp
  simp only [bitAfter, since, kept, List.count_cons, Bool.xor_assoc]
  congr 1
  by_cases same : turn = index
  · -- One more time turns an odd number of times into an even one, and the other way round.
    simp only [same, beq_self_eq_true, if_true, decide_true, Bool.xor_true]
    rw [← decide_not]
    exact decide_eq_decide.mpr (by omega)
  · simp [same]

theorem bit_editAll (inside : index / 8 < bits.size) (edits : List Edit) :
    (bits.editAll edits).bit index = bitAfter (bits.bit index) edits index := by
  induction edits using List.reverseRecOn with
  | nil => simp [editAll, bitAfter, sinceClear]
  | append_singleton edits edit ih =>
    rw [editAll_concat]
    cases edit with
    | clear => exact (bit_clear _ _).trans (bitAfter_clear _ _ _).symm
    | flip turn => rw [bit_edit_flip (by rwa [size_editAll]), ih, bitAfter_flip]

/-- Turning one bit over leaves every other bit of every byte. -/
theorem flip_bytes (inside : index / 8 < bits.size) :
    ∃ turned, bits.flip index = .ok (!bitOf bits.bytes index, turned) ∧
      turned.get index = .ok (!bitOf bits.bytes index) ∧ turned.bytes.length = bits.bytes.length ∧
      ∀ other, other ≠ index → bitOf turned.bytes other = bitOf bits.bytes other := by
  obtain ⟨turned, flipped, size, bit⟩ := flip_inside inside
  rw [bitOf_bytes inside]
  refine ⟨turned, flipped, ?_, by simp [size], ?_⟩
  · rw [get_inside (by rwa [size]), bit, if_pos rfl]
  · intro other apart
    by_cases within : other / 8 < bits.size
    · rw [bitOf_bytes within, bitOf_bytes (by rwa [size]), bit, if_neg apart]
    · have past := Nat.not_lt.mp within
      rw [bitOf_bytes_of_past past, bitOf_bytes_of_past (by rwa [size])]

/-- Over any bytes and after any edits, faulty ones among them: each bit in range reads as its first value, or as not
set once all bits were cleared, turned over as often as since then; turning it over returns its new value and changes
no other bit of any byte; past the last byte reading and turning are faults and change nothing. And the bytes for a
number of bits are the fewest in which each of these is in range. -/
theorem bits_of_history (bits : BitArray) (edits : List Edit) :
    (bits.editAll edits).bytes.length = bits.bytes.length ∧
    (∀ index < 8 * bits.bytes.length,
      (bits.editAll edits).get index = .ok (bitAfter (bitOf bits.bytes index) edits index) ∧
      ∃ value turned, (bits.editAll edits).flip index = .ok (value, turned) ∧
        value = !bitAfter (bitOf bits.bytes index) edits index ∧ turned.get index = .ok value ∧
        turned.bytes.length = bits.bytes.length ∧
        ∀ other, other ≠ index → bitOf turned.bytes other = bitOf (bits.editAll edits).bytes other) ∧
    (∀ index, 8 * bits.bytes.length ≤ index →
      (bits.editAll edits).get index = .error .index ∧ (bits.editAll edits).flip index = .error .index ∧
      (bits.editAll edits).edit (.flip index) = bits.editAll edits) ∧
    ∀ count, IsLeast
      {size | ∀ array : BitArray, array.bytes.length = size → ∀ index < count, ∃ value, array.get index = .ok value}
      (bytesFor count) := by
  simp only [length_bytes]
  refine ⟨size_editAll bits edits, ?_, ?_, ?_⟩
  · intro index bounded
    have first : index / 8 < bits.size := by omega
    have inside : index / 8 < (bits.editAll edits).size := by rwa [size_editAll]
    have reads : bitOf (bits.editAll edits).bytes index = bitAfter (bitOf bits.bytes index) edits index := by
      rw [bitOf_bytes inside, bit_editAll first, bitOf_bytes first]
    obtain ⟨turned, flipped, got, size, others⟩ := flip_bytes inside
    rw [reads] at flipped got
    simp only [length_bytes, size_editAll] at size
    refine ⟨?_, _, turned, flipped, rfl, got, size, others⟩
    rw [get_inside inside, ← bitOf_bytes inside, reads]
  · intro index past
    have past : (bits.editAll edits).size ≤ index / 8 := by
      rw [size_editAll]
      omega
    exact ⟨get_past past, flip_past past, edit_past past⟩
  · intro count
    constructor
    · intro array size
      exact in_range_iff.mpr (Nat.le_of_eq size.symm)
    · intro size enough
      exact in_range_iff.mp (enough (filled size 0) rfl)

/-- Of two bytes all bits are cleared, then bit 9 is turned over three times and its neighbours in between. -/
theorem bits_of_history_two_bytes :
    ((ofBytes [0x05, 0xff]).editAll
      [.flip 1, .flip 9, .clear, .flip 9, .flip 8, .flip 16, .flip 9, .flip 10, .flip 9]).get 9 = .ok true ∧
    ((ofBytes [0x05, 0xff]).editAll [.flip 1, .flip 16, .flip 2, .flip 1]).get 2 = .ok false ∧
    ((ofBytes [0x05, 0xff]).editAll [.flip 1, .flip 16]).flip 16 = .error .index := by
  have storage := bytes_ofBytes [0x05, 0xff]
  obtain ⟨-, cleared, -⟩ := bits_of_history (ofBytes [0x05, 0xff])
    [.flip 1, .flip 9, .clear, .flip 9, .flip 8, .flip 16, .flip 9, .flip 10, .flip 9]
  obtain ⟨-, kept, -⟩ := bits_of_history (ofBytes [0x05, 0xff]) [.flip 1, .flip 16, .flip 2, .flip 1]
  obtain ⟨-, -, past, -⟩ := bits_of_history (ofBytes [0x05, 0xff]) [.flip 1, .flip 16]
  rw [storage] at cleared kept past
  exact ⟨(cleared 9 (by decide)).1.trans (congrArg _ (by decide)),
    (kept 2 (by decide)).1.trans (congrArg _ (by decide)), (past 16 (by decide)).2.1⟩

end Nucleus.BitArray
