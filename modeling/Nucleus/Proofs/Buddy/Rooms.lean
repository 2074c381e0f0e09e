import Nucleus.Proofs.Buddy.Nodes
import Mathlib.Order.Bounds.Defs

/-! The block a request gets: the smallest power of two that holds the payload with its header and is
no smaller than the smallest block. -/
namespace Nucleus.Buddy.Geometry
variable {g : Geometry} {request : Nat}

/-- The size of the block that a request takes up. -/
def roomFor (g : Geometry) (request : Nat) : Nat := 2 ^ max g.minLog (Nat.clog 2 (request + headerSize))

/-- The bucket of the blocks of that size. -/
def bucketOf (g : Geometry) (request : Nat) : Nat :=
  g.maxLog - max g.minLog (Nat.clog 2 (request + headerSize))

theorem isLeast_roomFor (g : Geometry) (request : Nat) :
    IsLeast {size | (∃ log, size = 2 ^ log) ∧ request + headerSize ≤ size ∧ g.minBlock ≤ size}
      (g.roomFor request) := by
  simp only [minBlock_eq]
  refine ⟨⟨⟨_, rfl⟩, ?_, Nat.pow_le_pow_right (by omega) (le_max_left _ _)⟩, ?_⟩
  · rw [roomFor, ← Nat.clog_le_iff_le_pow (by omega)]
    exact le_max_right _ _
  · rintro _ ⟨⟨log, rfl⟩, holds, large⟩
    refine Nat.pow_le_pow_right (by omega) (max_le ?_ ?_)
    · exact (Nat.pow_le_pow_iff_right (by omega)).mp large
    · exact (Nat.clog_le_iff_le_pow (by omega)).mpr holds

theorem clog_le_maxLog (small : request + headerSize ≤ g.maxBlock) :
    max g.minLog (Nat.clog 2 (request + headerSize)) ≤ g.maxLog :=
  max_le g.minLog_le_maxLog ((Nat.clog_le_iff_le_pow (by omega)).mpr (g.maxBlock_eq ▸ small))

theorem bucketOf_le (g : Geometry) (request : Nat) : g.bucketOf request ≤ g.lastBucket := by
  have large := le_max_left g.minLog (Nat.clog 2 (request + headerSize))
  unfold bucketOf lastBucket
  omega

theorem blockSize_bucketOf (small : request + headerSize ≤ g.maxBlock) :
    g.blockSize (g.bucketOf request) = g.roomFor request := by
  have fits := clog_le_maxLog small
  rw [blockSize_eq, bucketOf, roomFor]
  congr 1
  omega

theorem le_roomFor (g : Geometry) (request : Nat) : request + headerSize ≤ g.roomFor request :=
  (isLeast_roomFor g request).1.2.1

/-- The search for a bucket goes up until the blocks are large enough. -/
theorem bucketFrom_eq {bytes : Nat} (small : bytes ≤ g.maxBlock) {bucket : Nat}
    (order : bucket ≤ g.maxLog) :
    bucketFrom bytes bucket (g.blockSize bucket) =
      .ok (min bucket (g.maxLog - Nat.clog 2 bytes)) := by
  induction bucket with
  | zero =>
    rw [bucketFrom, if_pos (show bytes ≤ g.blockSize 0 from small), Nat.zero_min]
  | succ above ih =>
    have holds : bytes ≤ g.blockSize (above + 1) ↔ Nat.clog 2 bytes ≤ g.maxLog - (above + 1) := by
      rw [blockSize_eq, Nat.clog_le_iff_le_pow (by omega)]
    rw [bucketFrom]
    by_cases large : bytes ≤ g.blockSize (above + 1)
    · have depth := holds.mp large
      rw [if_pos large, Nat.min_eq_left (by omega)]
    · have depth : ¬ Nat.clog 2 bytes ≤ g.maxLog - (above + 1) := fun fits => large (holds.mpr fits)
      have twice : g.blockSize (above + 1) * 2 % Word.bound = g.blockSize above := by
        have size : g.blockSize (above + 1) * 2 = g.blockSize above := by
          rw [blockSize_eq, blockSize_eq, ← Nat.pow_succ]
          congr 1
          omega
        rw [size]
        exact Nat.mod_eq_of_lt ((g.blockSize_le_maxBlock above).trans_lt g.maxBlock_lt)
      rw [if_neg large]
      simp only [twice, ih (by omega)]
      congr 1
      omega

theorem minBlock_eq_blockSize (g : Geometry) : g.minBlock = g.blockSize g.lastBucket := by
  have order := g.minLog_le_maxLog
  rw [minBlock_eq, blockSize_eq, lastBucket]
  congr 1
  omega

theorem bucketFor_eq_min {bytes : Nat} (small : bytes ≤ g.maxBlock) :
    g.bucketFor bytes = .ok (min g.lastBucket (g.maxLog - Nat.clog 2 bytes)) := by
  have order : g.lastBucket ≤ g.maxLog := by
    unfold lastBucket
    omega
  rw [bucketFor, minBlock_eq_blockSize, bucketFrom_eq small order]

theorem bucketFor_eq (small : request + headerSize ≤ g.maxBlock) :
    g.bucketFor (request + headerSize) = .ok (g.bucketOf request) := by
  have order := g.minLog_le_maxLog
  rw [bucketFor_eq_min small, lastBucket, bucketOf]
  congr 1
  omega

end Nucleus.Buddy.Geometry
