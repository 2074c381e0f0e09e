import Nucleus.Buddy.Error
import Nucleus.Proofs.Buddy.Rooms
import Nucleus.Proofs.Buddy.Sound

/-! What the heap's operations do to the book, and that they keep it sound. Nothing here depends on
memory, addresses or the split bits. -/
namespace Nucleus.Buddy

/-- A change of the book that may fail; what it changed before is kept. -/
def Plan (α : Type) : Type := Book → Except AllocError α × Book

namespace Plan

instance : Monad Plan where
  pure value := fun book => (.ok value, book)
  bind plan next := fun book =>
    match plan book with
    | (.ok value, book) => next value book
    | (.error error, book) => (.error error, book)

def read : Plan Book := fun book => (.ok book, book)

def update (change : Book → Book) : Plan Unit := fun book => (.ok (), change book)

def fail {α : Type} (error : AllocError) : Plan α := fun book => (.error error, book)

section Operations
variable (g : Geometry) (ceiling : Nat)

def commit (size : Nat) : Plan Unit := fun book =>
  match book.grant ceiling size with
  | some more => (.ok (), more)
  | none => (.error .reservationDenied, book)

def pop (bucket : Nat) : Plan (Option Block) := fun book =>
  (.ok (book.newest bucket), book.dropNewest bucket)

/-- A free tree becomes one block of twice the size; beside a tree in use its right half is freed. -/
def grow : Plan Unit := do
  let book ← read
  if (⟨book.root, 0⟩ : Block) ∈ book then
    update fun book => (book.drop ⟨book.root, 0⟩).raise.push ⟨book.root - 1, 0⟩
  else
    commit ceiling (g.blockSize book.root + linkSize)
    update fun book => book.raise.push ⟨book.root, 1⟩

def growTimes : Nat → Plan Unit
  | 0 => pure ()
  | times + 1 => do
    grow g ceiling
    growTimes times

def growTo (bucket : Nat) : Plan Unit := do
  let book ← read
  growTimes g ceiling (book.root - bucket)

def take (bucket : Nat) : Plan (Option Block) := do
  growTo g ceiling bucket
  pop bucket

def takeBeside (bucket above : Nat) : Plan Block := do
  growTo g ceiling above
  match ← pop bucket with
  | some block => return block
  | none => fail .outOfMemory

def search : (bucket : Nat) → Plan (Option Block)
  | 0 => take g ceiling 0
  | above + 1 => do
    match ← take g ceiling (above + 1) with
    | some block => return some block
    | none =>
      let book ← read
      if above + 1 = book.root then return some (← takeBeside g ceiling (above + 1) above)
      else search above

/-- Halves a block, each time freeing the right half. -/
def splitDown : (times : Nat) → Block → Book → Book
  | 0, _, book => book
  | times + 1, block, book => splitDown times block.left (book.push block.right)

/-- What is left of a block that is halved. -/
def leftmost : (times : Nat) → Block → Block
  | 0, block => block
  | times + 1, block => leftmost times block.left

/-- How much of a block must be granted before it is handed out or halved. -/
def touched (wanted : Nat) (block : Block) : Nat :=
  if block.bucket < wanted then block.size g / 2 + linkSize else block.size g

/-- Commits what is needed of a free block and halves it; the block goes back when that is denied. -/
def carve (wanted : Nat) (block : Block) : Plan Block := fun book =>
  match book.grant ceiling (block.offset g + touched g wanted block) with
  | some more => (.ok (leftmost (wanted - block.bucket) block),
      splitDown (wanted - block.bucket) block more)
  | none => (.error .reservationDenied, book.push block)

def allocate (request : Nat) : Plan Block := do
  match ← search g ceiling (g.bucketOf request) with
  | none => fail .outOfMemory
  | some block => carve g ceiling (g.bucketOf request) block

end Operations

/-- Joins a free block with its buddy as often as that is free. -/
def joinUp : (bucket index : Nat) → Book → Block × Book
  | 0, index, book => (⟨0, index⟩, book)
  | above + 1, index, book =>
    if (⟨above + 1, index⟩ : Block).buddy ∈ book then
      joinUp above (index / 2) (book.drop (⟨above + 1, index⟩ : Block).buddy)
    else (⟨above + 1, index⟩, book)

def release (block : Block) (book : Book) : Book :=
  let joined := joinUp block.bucket block.index book
  joined.2.push joined.1

section Runs
variable {α β : Type} {book after : Book}

theorem bind_ok {plan : Plan α} {value : α} (ran : plan book = (.ok value, after))
    (next : α → Plan β) : (plan >>= next) book = next value after := by
  simp only [Bind.bind, ran]

theorem bind_error {plan : Plan α} {error : AllocError} (ran : plan book = (.error error, after))
    (next : α → Plan β) : (plan >>= next) book = (.error error, after) := by
  simp only [Bind.bind, ran]

theorem bind_pure (plan : Plan α) (book : Book) : (plan >>= Pure.pure) book = plan book := by
  rcases ran : plan book with ⟨error | value, after⟩
  · exact bind_error ran _
  · exact bind_ok ran _

theorem read_ok (book : Book) : read book = (.ok book, book) := rfl

end Runs

section Sound
variable {g : Geometry} {ceiling : Nat} {book : Book} {taken : List Block} {block : Block}

/-- Everything that growing once can do. -/
theorem grow_cases (g : Geometry) (ceiling : Nat) (book : Book) :
    ((⟨book.root, 0⟩ : Block) ∈ book ∧ grow g ceiling book =
      (.ok (), (book.drop ⟨book.root, 0⟩).raise.push ⟨book.root - 1, 0⟩)) ∨
    ((⟨book.root, 0⟩ : Block) ∉ book ∧ ∃ more,
      book.grant ceiling (g.blockSize book.root + linkSize) = some more ∧
      grow g ceiling book = (.ok (), more.raise.push ⟨book.root, 1⟩)) ∨
    ((⟨book.root, 0⟩ : Block) ∉ book ∧
      book.grant ceiling (g.blockSize book.root + linkSize) = none ∧
      grow g ceiling book = (.error .reservationDenied, book)) := by
  by_cases free : (⟨book.root, 0⟩ : Block) ∈ book
  · refine .inl ⟨free, ?_⟩
    simp [grow, Bind.bind, read, update, free]
  · refine .inr ?_
    cases granted : book.grant ceiling (g.blockSize book.root + linkSize) with
    | none => exact .inr ⟨free, rfl, by simp [grow, Bind.bind, read, commit, free, granted]⟩
    | some more =>
      refine .inl ⟨free, more, rfl, ?_⟩
      simp [grow, Bind.bind, read, commit, update, free, granted, Book.grant_eq_some granted]

theorem sound_grant (sound : Sound g book taken) {size : Nat} {more : Book}
    (granted : book.grant ceiling size = some more) (inside : size ≤ g.blockSize book.root) :
    Sound g more taken := by
  rw [Book.grant_eq_some granted]
  exact sound.grant (Nat.le_max_left _ _) (Nat.max_le.mpr ⟨sound.granted_le, inside⟩)

/-- The right half beside a tree in use, once its link words are granted. -/
theorem sound_raise (sound : Sound g book taken) (inner : book.root ≠ 0) {more : Book}
    (granted : book.grant ceiling (g.blockSize book.root + linkSize) = some more) :
    Sound g more.raise (⟨book.root, 1⟩ :: taken) := by
  have raised := sound.raise inner
  have below : book.root - 1 < g.lastBucket := by
    have deep := sound.root_le
    omega
  have double := Geometry.two_mul_blockSize below
  have small := Geometry.linkSize_le_blockSize sound.root_le
  rw [Nat.sub_add_cancel (Nat.pos_of_ne_zero inner)] at double
  rw [Book.grant_eq_some granted]
  refine raised.grant (Nat.le_max_left _ _) (Nat.max_le.mpr ⟨raised.granted_le, ?_⟩)
  change g.blockSize book.root + linkSize ≤ g.blockSize (book.root - 1)
  omega

/-- A free root and the new right half beside it are one block. -/
theorem sound_raise_free (sound : Sound g book taken) (inner : book.root ≠ 0)
    (free : (⟨book.root, 0⟩ : Block) ∈ book) :
    Sound g (book.drop ⟨book.root, 0⟩).raise (⟨book.root - 1, 0⟩ :: taken) := by
  have joined := @Sound.join g _ taken ⟨book.root, 0⟩ ((sound.drop free).raise inner) inner
  simpa only [Block.parent, Nat.zero_div] using joined

theorem root_linked (sound : Sound g book taken) (free : (⟨book.root, 0⟩ : Block) ∈ book) :
    (⟨book.root - 1, 0⟩ : Block).offset g + linkSize ≤ book.granted := by
  have linked := sound.linked _ free
  simp only [Block.offset, Nat.zero_mul] at linked ⊢
  exact linked

theorem sound_grow_free (sound : Sound g book taken) (inner : book.root ≠ 0)
    (free : (⟨book.root, 0⟩ : Block) ∈ book) :
    Sound g ((book.drop ⟨book.root, 0⟩).raise.push ⟨book.root - 1, 0⟩) taken := by
  have joined := sound_raise_free sound inner free
  exact joined.push (root_linked sound free) joined.not_mem_beside

theorem sound_grow_used (sound : Sound g book taken) (inner : book.root ≠ 0)
    (used : (⟨book.root, 0⟩ : Block) ∉ book) {more : Book}
    (granted : book.grant ceiling (g.blockSize book.root + linkSize) = some more) :
    Sound g (more.raise.push ⟨book.root, 1⟩) taken := by
  apply (sound_raise sound inner granted).push
  · rw [Book.grant_eq_some granted]
    simp only [Block.offset, Nat.one_mul]
    exact Nat.le_max_right _ _
  · rw [Book.grant_eq_some granted]
    exact used

/-- Growing keeps the book sound. It fails only where the window ends before the largest block does. -/
theorem grow_sound (ceiling : Nat) (sound : Sound g book taken) (inner : book.root ≠ 0) :
    Sound g (grow g ceiling book).2 taken ∧
      ((grow g ceiling book).1 = .ok () ∧ (grow g ceiling book).2.root + 1 = book.root ∨
        (grow g ceiling book).1 = .error .reservationDenied ∧ ceiling < g.maxBlock) := by
  have lower : book.root - 1 + 1 = book.root := Nat.sub_add_cancel (Nat.pos_of_ne_zero inner)
  rcases grow_cases g ceiling book with ⟨free, ran⟩ | ⟨used, more, granted, ran⟩ | ⟨used, denied, ran⟩
  · rw [ran]
    exact ⟨sound_grow_free sound inner free, .inl ⟨rfl, lower⟩⟩
  · rw [ran]
    refine ⟨sound_grow_used sound inner used granted, .inl ⟨rfl, ?_⟩⟩
    rw [Book.grant_eq_some granted]
    exact lower
  · rw [ran]
    refine ⟨sound, .inr ⟨rfl, (Book.grant_eq_none denied).trans_le ?_⟩⟩
    have deep := sound.root_le
    have double := Geometry.two_mul_blockSize (show book.root - 1 < g.lastBucket by omega)
    have small := Geometry.linkSize_le_blockSize deep
    have large := g.blockSize_le_maxBlock (book.root - 1)
    rw [lower] at double
    omega

theorem growTimes_sound (ceiling : Nat) (sound : Sound g book taken) {times : Nat}
    (inner : times ≤ book.root) :
    Sound g (growTimes g ceiling times book).2 taken ∧
      ((growTimes g ceiling times book).1 = .ok () ∧
          (growTimes g ceiling times book).2.root + times = book.root ∨
        (growTimes g ceiling times book).1 = .error .reservationDenied ∧ ceiling < g.maxBlock) := by
  induction times generalizing book with
  | zero => exact ⟨sound, .inl ⟨rfl, rfl⟩⟩
  | succ times ih =>
    obtain ⟨grown_sound, done⟩ := grow_sound ceiling sound (show book.root ≠ 0 by omega)
    rw [growTimes]
    rcases ran : grow g ceiling book with ⟨result, grown⟩
    rw [ran] at grown_sound done
    simp only at grown_sound done
    rcases done with ⟨rfl, root⟩ | ⟨rfl, small⟩
    · rw [bind_ok ran]
      obtain ⟨last_sound, last⟩ := ih grown_sound (by omega)
      exact ⟨last_sound, last.imp_left fun done => ⟨done.1, by omega⟩⟩
    · rw [bind_error ran]
      exact ⟨grown_sound, .inr ⟨rfl, small⟩⟩

theorem growTo_sound (ceiling : Nat) (sound : Sound g book taken) (bucket : Nat) :
    Sound g (growTo g ceiling bucket book).2 taken ∧
      ((growTo g ceiling bucket book).1 = .ok () ∧
          (growTo g ceiling bucket book).2.root = min bucket book.root ∨
        (growTo g ceiling bucket book).1 = .error .reservationDenied ∧ ceiling < g.maxBlock) := by
  have grown := growTimes_sound ceiling sound (Nat.sub_le book.root bucket)
  refine ⟨grown.1, grown.2.imp_left fun done => ⟨done.1, ?_⟩⟩
  have depth := done.2
  change (growTimes g ceiling (book.root - bucket) book).2.root = min bucket book.root
  omega

end Sound

end Plan

end Nucleus.Buddy
