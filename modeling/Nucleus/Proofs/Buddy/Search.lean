import Nucleus.Proofs.Buddy.Plan

/-! How the search for a free block ends. Buckets it has passed are empty; at a root bucket without free
blocks the tree is in use, so growing it once yields a right half there. -/
namespace Nucleus.Buddy.Plan
variable {g : Geometry} {ceiling : Nat} {book : Book} {taken : List Block} {block : Block}

/-- How a search can end. -/
def Found (g : Geometry) (ceiling wanted : Nat) (taken : List Block) :
    Except AllocError (Option Block) → Book → Prop
  | .ok (some block), book => Sound g book (block :: taken) ∧ block.bucket ≤ wanted ∧
      block.offset g + linkSize ≤ book.granted ∧ block.buddy ∉ book
  | .ok none, book => Sound g book taken ∧ book.root = 0 ∧
      ∀ bucket ≤ wanted, book.free bucket = []
  | .error error, book => Sound g book taken ∧ error = .reservationDenied ∧ ceiling < g.maxBlock

theorem found_of_newest (ceiling : Nat) {wanted bucket : Nat} (sound : Sound g book taken) (order : bucket ≤ wanted)
    (newest : book.newest bucket = some block) :
    Found g ceiling wanted taken (.ok (some block)) (book.dropNewest bucket) := by
  obtain ⟨free, level⟩ := Book.mem_of_newest newest
  have dropped : book.dropNewest bucket = book.drop block := by
    simp only [Book.dropNewest, newest]
  rw [dropped]
  exact ⟨sound.drop free, level.trans_le order, sound.linked block free,
    fun member => sound.buddy_not_mem free (Book.mem_of_mem_drop member)⟩

/-- A root bucket without free blocks is refilled by growing the tree once. -/
theorem takeBeside_found (ceiling : Nat) {wanted above : Nat} (sound : Sound g book taken)
    (order : above + 1 ≤ wanted) (root : book.root = above + 1) (empty : book.free (above + 1) = []) :
    Found g ceiling wanted taken ((takeBeside g ceiling (above + 1) above book).1.map some)
      (takeBeside g ceiling (above + 1) above book).2 := by
  have used : (⟨book.root, 0⟩ : Block) ∉ book := by
    rw [root]
    intro member
    have listed : 0 ∈ book.free (above + 1) := member
    rw [empty] at listed
    cases listed
  have once : growTo g ceiling above book = growTimes g ceiling 1 book := by
    change growTimes g ceiling (book.root - above) book = _
    rw [show book.root - above = 1 by omega]
  have grown := growTimes_sound ceiling sound (show 1 ≤ book.root by omega)
  rw [← once] at grown
  rcases grow_cases g ceiling book with ⟨free, -⟩ | ⟨-, more, granted, ran⟩ | ⟨-, denied, ran⟩
  · exact absurd free used
  · have grew : growTo g ceiling above book = (.ok (), more.raise.push ⟨book.root, 1⟩) := by
      rw [once, growTimes, bind_ok ran]
      rfl
    have newest : (more.raise.push ⟨book.root, 1⟩).newest (above + 1) = some ⟨above + 1, 1⟩ := by
      rw [Book.grant_eq_some granted]
      simp [Book.newest, Book.push, Book.raise, root, empty]
    rw [grew] at grown
    have found := found_of_newest ceiling grown.1 order newest
    rw [takeBeside, bind_ok grew]
    simpa [pop, newest, Bind.bind, Pure.pure, Except.map] using found
  · have failed : growTo g ceiling above book = (.error .reservationDenied, book) := by
      rw [once, growTimes, bind_error ran]
    rw [failed] at grown
    rw [takeBeside, bind_error failed]
    simpa [Except.map, Found] using grown

theorem take_eq {bucket : Nat} {grown : Book} (grew : growTo g ceiling bucket book = (.ok (), grown)) :
    take g ceiling bucket book = (.ok (grown.newest bucket), grown.dropNewest bucket) := by
  rw [take, bind_ok grew, pop]

theorem take_none_sound {bucket : Nat} {grown : Book} (sound : Sound g book taken)
    (ran : take g ceiling bucket book = (.ok none, grown)) : Sound g grown taken := by
  obtain ⟨grown_sound, done⟩ := growTo_sound ceiling sound bucket
  rcases grew : growTo g ceiling bucket book with ⟨error | value, after⟩
  · rw [take, bind_error grew] at ran
    cases ran
  · rw [take_eq grew] at ran
    obtain ⟨none_eq, rfl⟩ := Prod.mk.inj ran
    rw [grew] at grown_sound
    simpa only [Book.dropNewest, Except.ok.inj none_eq] using grown_sound

theorem take_bucket {bucket : Nat} {grown : Book}
    (ran : take g ceiling bucket book = (.ok (some block), grown)) : block.bucket = bucket := by
  rcases grew : growTo g ceiling bucket book with ⟨error | value, after⟩
  · rw [take, bind_error grew] at ran
    cases ran
  · rw [take_eq grew] at ran
    exact (Book.mem_of_newest (Except.ok.inj (Prod.mk.inj ran).1)).2

theorem takeBeside_bucket {bucket above : Nat} {grown : Book}
    (ran : takeBeside g ceiling bucket above book = (.ok block, grown)) : block.bucket = bucket := by
  rcases grew : growTo g ceiling above book with ⟨error | value, after⟩
  · rw [takeBeside, bind_error grew] at ran
    cases ran
  · rw [takeBeside, bind_ok grew] at ran
    cases newest : after.newest bucket with
    | none => simp [pop, newest, Bind.bind, fail] at ran
    | some newest_block =>
      simp only [pop, newest, Bind.bind, Pure.pure, Prod.mk.injEq, Except.ok.injEq] at ran
      exact ran.1 ▸ (Book.mem_of_newest newest).2

/-- Everything that taking from a bucket can do, when the buckets between it and the wanted one are
empty and part of the tree. -/
theorem take_cases (ceiling : Nat) {wanted bucket : Nat} (sound : Sound g book taken)
    (order : bucket ≤ wanted)
    (searched : bucket < wanted → book.root ≤ bucket ∧
      ∀ other, bucket < other → other ≤ wanted → book.free other = []) :
    (∃ error after, take g ceiling bucket book = (.error error, after) ∧
      Found g ceiling wanted taken (.error error) after) ∨
    (∃ block after, take g ceiling bucket book = (.ok (some block), after) ∧
      Found g ceiling wanted taken (.ok (some block)) after) ∨
    ∃ grown, take g ceiling bucket book = (.ok none, grown) ∧ Sound g grown taken ∧
      grown.root ≤ bucket ∧ ∀ other, bucket ≤ other → other ≤ wanted → grown.free other = [] := by
  obtain ⟨grown_sound, done⟩ := growTo_sound ceiling sound bucket
  rcases grew : growTo g ceiling bucket book with ⟨result, grown⟩
  rw [grew] at grown_sound done
  rcases done with ⟨rfl, root⟩ | ⟨rfl, small⟩
  · have taken_eq := take_eq grew
    cases newest : grown.newest bucket with
    | some block =>
      rw [newest] at taken_eq
      exact .inr (.inl ⟨block, _, taken_eq, found_of_newest ceiling grown_sound order newest⟩)
    | none =>
      have same : grown.dropNewest bucket = grown := by simp only [Book.dropNewest, newest]
      rw [newest, same] at taken_eq
      refine .inr (.inr ⟨grown, taken_eq, grown_sound, root.trans_le (Nat.min_le_left _ _), ?_⟩)
      intro other above below
      rcases Nat.eq_or_lt_of_le above with rfl | deeper
      · exact Book.newest_eq_none.mp newest
      · obtain ⟨reached, empty⟩ := searched (by omega)
        have still : growTo g ceiling bucket book = (.ok (), book) := by
          change growTimes g ceiling (book.root - bucket) book = _
          rw [show book.root - bucket = 0 by omega]
          rfl
        rw [still] at grew
        obtain ⟨-, rfl⟩ := Prod.mk.inj grew
        exact empty other deeper below
  · refine .inl ⟨_, grown, ?_, grown_sound, rfl, small⟩
    rw [take, bind_error grew]

/-- The search goes up from the wanted bucket. It reaches a root bucket without free blocks only below
bucket 0, where growing the tree once helps. -/
theorem search_found (ceiling : Nat) {wanted bucket : Nat} (sound : Sound g book taken)
    (order : bucket ≤ wanted)
    (searched : bucket < wanted → book.root ≤ bucket ∧
      ∀ other, bucket < other → other ≤ wanted → book.free other = []) :
    Found g ceiling wanted taken (search g ceiling bucket book).1 (search g ceiling bucket book).2 := by
  induction bucket generalizing book with
  | zero =>
    rw [search]
    rcases take_cases ceiling sound order searched with ⟨error, after, ran, found⟩ |
      ⟨block, after, ran, found⟩ | ⟨grown, ran, grown_sound, root, empty⟩
    · rw [ran]
      exact found
    · rw [ran]
      exact found
    · rw [ran]
      exact ⟨grown_sound, Nat.le_zero.mp root, fun other => empty other (Nat.zero_le _)⟩
  | succ above ih =>
    rw [search]
    rcases take_cases ceiling sound order searched with ⟨error, after, ran, found⟩ |
      ⟨block, after, ran, found⟩ | ⟨grown, ran, grown_sound, root, empty⟩
    · rw [bind_error ran]
      exact found
    · rw [bind_ok ran]
      exact found
    · rw [bind_ok ran]
      simp only [bind_ok (read_ok grown)]
      by_cases top : above + 1 = grown.root
      · have beside := takeBeside_found ceiling grown_sound order top.symm (empty _ le_rfl order)
        rw [if_pos top]
        rcases ran : takeBeside g ceiling (above + 1) above grown with ⟨error | block, after⟩
        · rw [ran] at beside
          rw [bind_error ran]
          exact beside
        · rw [ran] at beside
          rw [bind_ok ran]
          exact beside
      · rw [if_neg top]
        exact ih grown_sound (by omega) fun _ =>
          ⟨by omega, fun other deeper below => empty other deeper below⟩

/-- The book after a search, before any block is carved, is sound however the search ends. -/
theorem search_wanted_found (ceiling wanted : Nat) (sound : Sound g book taken) :
    Found g ceiling wanted taken (search g ceiling wanted book).1 (search g ceiling wanted book).2 :=
  search_found ceiling sound le_rfl fun below => absurd below (lt_irrefl _)

end Nucleus.Buddy.Plan
