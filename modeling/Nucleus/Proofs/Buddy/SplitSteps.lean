import Nucleus.Proofs.Buddy.Shows

/-! The steps of a heap operation that leave the lists alone: where nodes lie, their split bits, and the
end of granted memory. -/
namespace Nucleus.Buddy.Heap
variable {site : Site} {heap : Heap} {book : Book} {marks : Block → Bool} {block : Block}
variable {header : Nat → Nat → Prop} {region : Nat → Prop}

theorem addressOf_returns (shows : heap.Shows site book marks) (fits : block.Fits site.geometry) :
    Op.Returns (Alters header region) (addressOf block.node block.bucket) heap fun addr after =>
      addr = site.addressOf block ∧ after = heap := by
  have found : heap.geometry.addressOf heap.window.base block.node block.bucket =
      .ok (site.addressOf block) := by
    rw [shows.geometry, shows.base]
    exact Geometry.addressOf_node fits site.room
  exact .get_bind (.check (alters_composes header region) found ⟨rfl, rfl⟩)

theorem nodeAt_returns (shows : heap.Shows site book marks) (fits : block.Fits site.geometry) :
    Op.Returns (Alters header region) (nodeAt (site.addressOf block) block.bucket) heap fun node after =>
      node = block.node ∧ after = heap := by
  have found : heap.geometry.nodeAt heap.window.base (site.addressOf block) block.bucket =
      .ok block.node := by
    rw [shows.geometry, shows.base]
    exact Geometry.nodeAt_address fits site.window.base
  exact .get_bind (.check (alters_composes header region) found ⟨rfl, rfl⟩)

/-- The parent's bit lies in the storage. -/
theorem parent_inside (site : Site) (fits : block.Fits site.geometry) (inner : block.bucket ≠ 0) :
    block.parent.node / 8 < site.splitSize := by
  have shallow : block.parent.bucket < site.geometry.lastBucket := by
    have deep := fits.bucket_le
    simp only [Block.parent]
    omega
  exact (Geometry.node_div_lt_splitBytes fits.parent.index_lt shallow).trans_le site.splitBytes_le

theorem parentIsSplit_returns (shows : heap.Shows site book marks) (fits : block.Fits site.geometry)
    (inner : block.bucket ≠ 0) :
    Op.Returns (Alters header region) (parentIsSplit block.node) heap fun split after =>
      split = marks block.parent ∧ after = heap := by
  have inside := parent_inside site fits inner
  have found : heap.split.get block.parent.node = .ok (marks block.parent) := by
    rw [BitArray.get, if_pos (by rw [shows.splitSize]; exact inside),
      shows.bits _ fits.parent.index_lt inside]
  refine .check_bind (Geometry.parent_node fits inner) ?_
  exact .get_bind (.check (alters_composes header region) found ⟨rfl, rfl⟩)

theorem flipParent_returns (shows : heap.Shows site book marks) (fits : block.Fits site.geometry)
    (inner : block.bucket ≠ 0) :
    Op.Returns (Alters header region) (flipParent block.node) heap fun _ after =>
      after.Shows site book (Book.turned marks block) := by
  have inside := parent_inside site fits inner
  obtain ⟨value, turned, flipped, size, bits⟩ :=
    BitArray.flip_eq_ok (show block.parent.node / 8 < heap.split.size from shows.splitSize ▸ inside)
  refine .get_bind (.check_bind (Geometry.parent_node fits inner) (.check_bind flipped ?_))
  refine ⟨[], (), { heap with split := turned }, rfl, alters_of_same id rfl rfl rfl, ?_⟩
  refine { shows with splitSize := size.trans shows.splitSize, bits := ?_ }
  intro node level stored
  have same : node.node = block.parent.node ↔ block.bucket ≠ 0 ∧ node = block.parent := by
    constructor
    · exact fun number => ⟨inner, Block.node_injective level fits.parent.index_lt number⟩
    · rintro ⟨-, rfl⟩
      rfl
  rw [bits, Book.turned, shows.bits node level stored]
  simp only [same]

theorem tryCommit_returns (shows : heap.Shows site book marks) (size : Nat) :
    Op.Returns (Alters header region) (tryCommit (site.window.base + size)) heap fun granted after =>
      match book.grant site.window.ceiling size with
      | none => granted = false ∧ after = heap
      | some more => granted = true ∧ after.Shows site more marks := by
  have composes := alters_composes header region
  have fits := shows.window_fits
  have answer := Window.reserve_eq fits
    (show heap.window.base ≤ site.window.base + size by rw [shows.base]; omega)
  have granted := shows.granted
  unfold tryCommit Book.grant
  refine .get_bind ?_
  by_cases more : book.granted < size
  · rw [if_pos (by omega), if_pos more]
    by_cases allowed : size ≤ site.window.ceiling
    · rw [if_pos (by rw [shows.base, shows.ceiling]; omega)] at answer
      rw [if_pos allowed]
      refine .check_bind answer ?_
      refine ⟨[.committed _], true, _, rfl, ?_, rfl, ?_⟩
      · refine ⟨id, fun _ _ => by simp, by simp, .aside rfl (by simp) (by simp),
          ⟨by omega, rfl⟩, by simp only; omega, fun _ => ?_, by simp⟩
        simp only [Within, Window.reserving_base, Window.reserving_ceiling, shows.base, shows.ceiling]
        omega
      · refine ⟨shows.geometry, ?_, shows.splitSize, shows.root, rfl, ?_, shows.bits⟩
        · simp only [Window.reserving_memory]
          rw [shows.window, Window.reserving_withMemory, Window.reserving_reserving _ (by omega)]
        · intro bucket valid
          simp only [Window.reserving_memory]
          exact shows.lists bucket valid
    · rw [if_neg (by rw [shows.base, shows.ceiling]; omega)] at answer
      rw [if_neg allowed]
      refine .check_bind answer ?_
      exact ⟨[.logged _], false, heap, rfl, ⟨id, fun _ _ => rfl, by simp, .aside rfl rfl (by simp), rfl,
        Nat.le_refl _, id, by simp⟩, rfl, rfl⟩
  · rw [if_neg (by omega), if_neg more]
    exact .pure composes ⟨rfl, shows⟩

end Nucleus.Buddy.Heap
