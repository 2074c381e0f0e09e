import Nucleus.Proofs.Buddy.Carve

/-! A plan depends on where its window ends only as far as the largest block reaches: every grant that it asks
for lies in the tree. -/
namespace Nucleus.Buddy

/-- Two ceilings that grant the same sizes within the largest block. -/
def Geometry.GrantsAlike (g : Geometry) (ceiling other : Nat) : Prop :=
  ∀ size ≤ g.maxBlock, size ≤ ceiling ↔ size ≤ other

namespace Plan
variable {g : Geometry} {ceiling other : Nat} {book : Book} {taken : List Block} {block : Block}

theorem bind_congr {α β : Type} {plan same : Plan α} {next alike : α → Plan β} (first : plan book = same book)
    (rest : ∀ value after, plan book = (.ok value, after) → next value after = alike value after) :
    (plan >>= next) book = (same >>= alike) book := by
  rcases ran : plan book with ⟨error | value, after⟩
  · rw [bind_error ran, bind_error (first ▸ ran)]
  · rw [bind_ok ran, bind_ok (first ▸ ran)]
    exact rest value after ran

theorem grant_congr (alike : g.GrantsAlike ceiling other) {size : Nat} (inside : size ≤ g.maxBlock)
    (book : Book) : book.grant ceiling size = book.grant other size := by
  simp only [Book.grant, alike size inside]

theorem grow_congr (alike : g.GrantsAlike ceiling other) (sound : Sound g book taken) (inner : book.root ≠ 0) :
    grow g ceiling book = grow g other book := by
  have deep := sound.root_le
  have double := Geometry.two_mul_blockSize (show book.root - 1 < g.lastBucket by omega)
  have small := Geometry.linkSize_le_blockSize deep
  have large := g.blockSize_le_maxBlock (book.root - 1)
  rw [Nat.sub_add_cancel (Nat.pos_of_ne_zero inner)] at double
  have granted := grant_congr alike (show g.blockSize book.root + linkSize ≤ g.maxBlock by omega) book
  simp only [grow, bind_ok (read_ok book)]
  split
  · rfl
  · apply bind_congr
    · simp only [commit, granted]
    · intro _ _ _
      rfl

theorem growTimes_congr (alike : g.GrantsAlike ceiling other) (sound : Sound g book taken) {times : Nat}
    (inner : times ≤ book.root) : growTimes g ceiling times book = growTimes g other times book := by
  induction times generalizing book with
  | zero => rfl
  | succ times ih =>
    have root : book.root ≠ 0 := by omega
    obtain ⟨grown_sound, done⟩ := grow_sound ceiling sound root
    apply bind_congr (grow_congr alike sound root)
    intro _ after ran
    rw [ran] at grown_sound done
    apply ih grown_sound
    rcases done with ⟨-, lower⟩ | ⟨failed, -⟩
    · have lower : after.root + 1 = book.root := lower
      omega
    · cases failed

theorem growTo_congr (alike : g.GrantsAlike ceiling other) (sound : Sound g book taken) (bucket : Nat) :
    growTo g ceiling bucket book = growTo g other bucket book :=
  growTimes_congr alike sound (Nat.sub_le _ _)

theorem take_congr (alike : g.GrantsAlike ceiling other) (sound : Sound g book taken) (bucket : Nat) :
    take g ceiling bucket book = take g other bucket book :=
  bind_congr (growTo_congr alike sound bucket) fun _ _ _ => rfl

theorem takeBeside_congr (alike : g.GrantsAlike ceiling other) (sound : Sound g book taken)
    (bucket above : Nat) : takeBeside g ceiling bucket above book = takeBeside g other bucket above book :=
  bind_congr (growTo_congr alike sound above) fun _ _ _ => rfl

theorem search_congr (alike : g.GrantsAlike ceiling other) (sound : Sound g book taken) (bucket : Nat) :
    search g ceiling bucket book = search g other bucket book := by
  induction bucket generalizing book with
  | zero => exact take_congr alike sound 0
  | succ above ih =>
    apply bind_congr (take_congr alike sound (above + 1))
    intro found grown ran
    cases found with
    | some block => rfl
    | none =>
      have grown_sound := take_none_sound sound ran
      simp only [bind_ok (read_ok grown)]
      split
      · exact bind_congr (takeBeside_congr alike grown_sound _ _) fun _ _ _ => rfl
      · exact ih grown_sound

theorem carve_congr (alike : g.GrantsAlike ceiling other) (sound : Sound g book (block :: taken)) {wanted : Nat}
    (deep : wanted ≤ g.lastBucket) : carve g ceiling wanted block book = carve g other wanted block book := by
  have inside := (touched_le sound deep).trans (g.blockSize_le_maxBlock book.root)
  simp only [carve, grant_congr alike inside]

/-- Windows that grant the same sizes within the largest block hand out the same blocks. -/
theorem allocate_congr (alike : g.GrantsAlike ceiling other) (sound : Sound g book taken) (request : Nat) :
    allocate g ceiling request book = allocate g other request book := by
  have searched := search_wanted_found ceiling (g.bucketOf request) sound
  apply bind_congr (search_congr alike sound (g.bucketOf request))
  intro found grown ran
  rw [ran] at searched
  cases found with
  | none => rfl
  | some block => exact carve_congr alike searched.1 (g.bucketOf_le request)

end Plan

end Nucleus.Buddy
