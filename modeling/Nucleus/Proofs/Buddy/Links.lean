import Nucleus.Buddy.Geometry
import Nucleus.Buddy.FreeList
import Nucleus.Proofs.Access
import Mathlib.Data.List.Perm.Subperm

/-! A free list in memory and the sequence of addresses it stands for. The link words of the entries
lead from each entry to its neighbours; pushing and removing rewrites the link words of one entry and
of its direct neighbours. -/
namespace Nucleus.Buddy

theorem Link.toWord_lt {link : Link} (word : ∀ addr, link = some addr → addr < Word.bound) :
    link.toWord < Word.bound := by
  cases link with
  | none => decide
  | some addr => exact word addr rfl

/-- The bytes of the link words of some blocks. -/
def linkArea (blocks : List Nat) (addr : Nat) : Prop :=
  ∃ block ∈ blocks, block ≤ addr ∧ addr < block + linkSize

/-- The addresses of the link words of some blocks. -/
def linkWords (blocks : List Nat) (addr : Nat) : Prop :=
  ∃ block ∈ blocks, addr = block ∨ addr = block + 8

theorem linkArea_of_word {blocks : List Nat} {addr : Nat}
    (inside : ∃ word, linkWords blocks word ∧ word ≤ addr ∧ addr < word + 8) : linkArea blocks addr := by
  obtain ⟨word, ⟨block, member, first⟩, within⟩ := inside
  refine ⟨block, member, ?_⟩
  unfold linkSize
  omega

theorem outside_words {blocks : List Nat} {addr : Nat} (outside : ¬ linkArea blocks addr) (word : Nat)
    (here : linkWords blocks word) : addr < word ∨ word + 8 ≤ addr := by
  by_contra inside
  exact outside (linkArea_of_word ⟨word, here, by omega⟩)

/-- The link words of some blocks lie in a window and do not overlap. -/
structure LinkRoom (window : Window) (blocks : List Nat) : Prop where
  fits : window.base + window.capacity < Word.bound
  above : ∀ block ∈ blocks, window.base ≤ block
  below : ∀ block ∈ blocks, block + linkSize ≤ window.base + window.capacity
  nodup : blocks.Nodup
  apart : ∀ block ∈ blocks, ∀ other ∈ blocks,
    block ≠ other → block + linkSize ≤ other ∨ other + linkSize ≤ block

namespace LinkRoom
variable {window : Window} {blocks : List Nat}

theorem word_lt (room : LinkRoom window blocks) {block : Nat} (member : block ∈ blocks) :
    block < Word.bound := by
  have below := room.below block member
  have fits := room.fits
  omega

theorem length_lt (room : LinkRoom window blocks) : blocks.length < Word.bound := by
  have inside : blocks ⊆ List.range (Word.bound - linkSize) := by
    intro block member
    have below := room.below block member
    have fits := room.fits
    rw [List.mem_range]
    omega
  have few := (List.subperm_of_subset room.nodup inside).length_le
  have word : 0 < linkSize ∧ linkSize < Word.bound := by decide
  rw [List.length_range] at few
  omega

/-- The mark of an end is no block's address. -/
theorem ofWord_toWord (room : LinkRoom window blocks) {link : Link}
    (member : ∀ block, link = some block → block ∈ blocks) : Link.ofWord link.toWord = link := by
  apply Link.ofWord_toWord
  intro absent
  have below := room.below _ (member _ absent)
  have fits := room.fits
  unfold Link.absent linkSize at *
  omega

theorem of_memory (room : LinkRoom window blocks) (memory : Memory) :
    LinkRoom { window with memory } blocks :=
  ⟨room.fits, room.above, room.below, room.nodup, room.apart⟩

theorem perm {others : List Nat} (room : LinkRoom window blocks)
    (same : blocks.Perm others) : LinkRoom window others where
  fits := room.fits
  above block member := room.above block (same.mem_iff.mpr member)
  below block member := room.below block (same.mem_iff.mpr member)
  nodup := same.nodup_iff.mp room.nodup
  apart block member other other_member :=
    room.apart block (same.mem_iff.mpr member) other (same.mem_iff.mpr other_member)

end LinkRoom

/-- Consecutive blocks are linked both ways, the first to `before` and the last to `after`. -/
def Linked (memory : Memory) : (before : Link) → List Nat → (after : Link) → Prop
  | _, [], _ => True
  | before, block :: rest, after =>
    memory.readWord block = before.toWord ∧
    memory.readWord (block + 8) = Link.toWord (rest.head?.or after) ∧
    Linked memory (some block) rest after

namespace Linked
variable {memory other : Memory} {before after : Link} {first rest blocks : List Nat}

theorem append : Linked memory before (first ++ rest) after ↔
    Linked memory before first (rest.head?.or after) ∧
      Linked memory (first.getLast?.or before) rest after := by
  induction first generalizing before with
  | nil => simp [Linked]
  | cons block first ih =>
    have last : (block :: first).getLast?.or before = first.getLast?.or (some block) := by
      cases first <;> simp [List.getLast?_cons]
    have next : (first ++ rest).head?.or after = first.head?.or (rest.head?.or after) := by
      cases first <;> simp
    simp only [List.cons_append, Linked, ih, last, next, and_assoc]

/-- Only the next word of the last block may differ. -/
theorem redirect_last {target : Link} (linked : Linked memory before blocks after)
    (previous : ∀ block ∈ blocks, other.readWord block = memory.readWord block)
    (next : ∀ block ∈ blocks, some block ≠ blocks.getLast? →
      other.readWord (block + 8) = memory.readWord (block + 8))
    (last : ∀ block, blocks.getLast? = some block → other.readWord (block + 8) = target.toWord)
    (nodup : blocks.Nodup) : Linked other before blocks target := by
  induction blocks generalizing before with
  | nil => trivial
  | cons block rest ih =>
    obtain ⟨back, forth, linked⟩ := linked
    obtain ⟨fresh, nodup⟩ := List.nodup_cons.mp nodup
    refine ⟨(previous block List.mem_cons_self).trans back, ?_, ?_⟩
    · cases rest with
      | nil => exact last block rfl
      | cons second rest =>
        have inner : some block ≠ (block :: second :: rest).getLast? := by
          intro same
          rw [List.getLast?_cons_cons] at same
          exact fresh (List.mem_of_getLast? same.symm)
        exact (next block List.mem_cons_self inner).trans forth
    · cases rest with
      | nil => trivial
      | cons second rest =>
        rw [List.getLast?_cons_cons] at next last
        exact ih linked (fun b member => previous b (List.mem_cons_of_mem _ member))
          (fun b member => next b (List.mem_cons_of_mem _ member)) last nodup

theorem congr (linked : Linked memory before blocks after)
    (previous : ∀ block ∈ blocks, other.readWord block = memory.readWord block)
    (next : ∀ block ∈ blocks, other.readWord (block + 8) = memory.readWord (block + 8)) :
    Linked other before blocks after := by
  induction blocks generalizing before with
  | nil => trivial
  | cons block rest ih =>
    obtain ⟨back, forth, linked⟩ := linked
    exact ⟨(previous block List.mem_cons_self).trans back,
      (next block List.mem_cons_self).trans forth,
      ih linked (fun b member => previous b (List.mem_cons_of_mem _ member))
        (fun b member => next b (List.mem_cons_of_mem _ member))⟩

/-- Only the previous word of the first block may differ. -/
theorem redirect_first {target : Link} (linked : Linked memory before blocks after)
    (previous : ∀ block ∈ blocks.tail, other.readWord block = memory.readWord block)
    (next : ∀ block ∈ blocks, other.readWord (block + 8) = memory.readWord (block + 8))
    (first : ∀ block, blocks.head? = some block → other.readWord block = target.toWord) :
    Linked other target blocks after := by
  cases blocks with
  | nil => trivial
  | cons block rest =>
    obtain ⟨back, forth, linked⟩ := linked
    exact ⟨first block rfl, (next block List.mem_cons_self).trans forth,
      linked.congr previous fun b member => next b (List.mem_cons_of_mem _ member)⟩

/-- The links between some blocks determine the bytes of their link words. -/
theorem get_congr (linked : Linked memory before blocks after) (other_linked : Linked other before blocks after)
    {addr : Nat} (area : linkArea blocks addr) : other.get addr = memory.get addr := by
  induction blocks generalizing before with
  | nil =>
    obtain ⟨_, member, -⟩ := area
    cases member
  | cons block rest ih =>
    obtain ⟨back, forth, linked⟩ := linked
    obtain ⟨other_back, other_forth, other_linked⟩ := other_linked
    obtain ⟨entry, member, above, below⟩ := area
    rcases List.mem_cons.mp member with rfl | later
    · have link : linkSize = 16 := rfl
      by_cases first : addr < entry + 8
      · have same := Memory.get_congr (other_back.trans back.symm) (show addr - entry < 8 by omega)
        rwa [Nat.add_sub_of_le above] at same
      · have same := Memory.get_congr (other_forth.trans forth.symm) (show addr - (entry + 8) < 8 by omega)
        rwa [Nat.add_sub_of_le (Nat.not_lt.mp first)] at same
    · exact ih linked other_linked ⟨entry, later, above, below⟩

end Linked

/-- The list stands for a sequence of addresses, oldest first. -/
structure FreeList.Holds (list : FreeList) (memory : Memory) (entries : List Nat) : Prop where
  head : list.head = entries.head?
  tail : list.tail = entries.getLast?
  length : list.length = entries.length
  linked : Linked memory none entries none

namespace FreeList
variable {list : FreeList} {window : Window} {entries : List Nat}

theorem empty_holds (memory : Memory) : FreeList.empty.Holds memory [] :=
  ⟨rfl, rfl, rfl, trivial⟩

/-- The entries determine the list, whatever memory they are linked in. -/
theorem Holds.unique {other : FreeList} {memory more : Memory} (holds : list.Holds memory entries)
    (same : other.Holds more entries) : list = other := by
  obtain ⟨head, tail, length⟩ := list
  obtain ⟨other_head, other_tail, other_length⟩ := other
  obtain ⟨rfl, rfl, rfl, -⟩ := holds
  obtain ⟨rfl, rfl, rfl, -⟩ := same
  rfl

theorem Holds.eq_empty {memory : Memory} (holds : list.Holds memory []) : list = FreeList.empty :=
  holds.unique (empty_holds memory)

theorem Holds.frame {memory other : Memory} (holds : list.Holds memory entries)
    (same : ∀ addr, linkArea entries addr → other.get addr = memory.get addr) :
    list.Holds other entries := by
  refine ⟨holds.head, holds.tail, holds.length, holds.linked.congr ?_ ?_⟩
  · intro block member
    apply Memory.readWord_congr
    intro i inside
    exact same _ ⟨block, member, by omega, by unfold linkSize; omega⟩
  · intro block member
    apply Memory.readWord_congr
    intro i inside
    exact same _ ⟨block, member, by omega, by unfold linkSize; omega⟩

theorem setPrevious_returns {words : Nat → Prop} {blocks : List Nat} {block : Nat} (link : Link)
    (room : LinkRoom window blocks) (member : block ∈ blocks)
    (covered : ∀ addr, linkWords [block] addr → words addr) :
    Op.Returns (Window.Touches words) (setPrevious block link) window fun _ after =>
      after = { window with memory := window.memory.writeWord block link.toWord } := by
  have below := room.below block member
  unfold linkSize at below
  exact Window.store_returns room.fits _ (room.above block member) (by omega)
    (covered _ ⟨block, List.mem_cons_self, .inl rfl⟩)

theorem setNext_returns {words : Nat → Prop} {blocks : List Nat} {block : Nat} (link : Link)
    (room : LinkRoom window blocks) (member : block ∈ blocks)
    (covered : ∀ addr, linkWords [block] addr → words addr) :
    Op.Returns (Window.Touches words) (setNext block link) window fun _ after =>
      after = { window with memory := window.memory.writeWord (block + 8) link.toWord } := by
  have above := room.above block member
  have below := room.below block member
  unfold linkSize at below
  exact Window.store_returns room.fits _ (by omega) (by omega)
    (covered _ ⟨block, List.mem_cons_self, .inr rfl⟩)

/-- Pushing appends the block and writes its link words and the newest entry's next word. -/
theorem push_returns {words : Nat → Prop} {block : Nat} (room : LinkRoom window (block :: entries))
    (holds : list.Holds window.memory entries)
    (covered : ∀ addr, linkWords (block :: entries.getLast?.toList) addr → words addr) :
    Op.Returns (Window.Touches words) (list.push block) window fun longer after =>
      longer.Holds after.memory (entries ++ [block]) := by
  have composes := Window.touches_composes words
  have covered : ∀ entry ∈ block :: entries.getLast?.toList, ∀ addr,
      linkWords [entry] addr → words addr := by
    rintro entry member addr ⟨other, same, within⟩
    exact covered addr ⟨entry, member, List.mem_singleton.mp same ▸ within⟩
  have own := covered block List.mem_cons_self
  have here : block ∈ block :: entries := List.mem_cons_self
  have counted : Word.add list.length 1 = .ok (list.length + 1) := by
    have few := room.length_lt
    rw [List.length_cons, ← holds.length] at few
    exact Word.add_eq_ok few
  unfold push
  refine .bind composes (setPrevious_returns list.tail room here own) ?_
  rintro _ _ rfl
  refine .bind composes (setNext_returns none (room.of_memory _) here own) ?_
  rintro _ _ rfl
  rcases List.eq_nil_or_concat entries with rfl | ⟨older, newest, rfl⟩
  · have tail : list.tail = none := holds.tail
    simp only [tail]
    refine .check_bind counted (.pure composes ⟨rfl, rfl, by simp [holds.length], ?_, ?_, trivial⟩)
    · rw [Memory.readWord_writeWord_of_apart _ _ (by omega), Memory.readWord_writeWord _ _ (by decide)]
    · rw [Memory.readWord_writeWord _ _ (by decide)]
      rfl
  · rw [List.concat_eq_append] at *
    have tail : list.tail = some newest := by simp [holds.tail]
    have member : newest ∈ block :: (older ++ [newest]) := by simp
    simp only [tail]
    refine .bind composes (setNext_returns (some block) ((room.of_memory _).of_memory _) member
      (covered newest (by simp))) ?_
    rintro _ _ rfl
    refine .check_bind counted (.pure composes
      ⟨by cases older <;> simp [holds.head], by simp, by simp [holds.length], ?_⟩)
    obtain ⟨fresh, nodup⟩ := List.nodup_cons.mp room.nodup
    have away : ∀ entry ∈ older ++ [newest], block + 16 ≤ entry ∨ entry + 16 ≤ block := fun entry member =>
      room.apart block here entry (List.mem_cons_of_mem _ member) fun same => fresh (same ▸ member)
    have spread : ∀ entry ∈ older ++ [newest], entry ≠ newest →
        entry + 16 ≤ newest ∨ newest + 16 ≤ entry := fun entry member =>
      room.apart entry (List.mem_cons_of_mem _ member) newest (by simp)
    have beside := away newest (by simp)
    refine Linked.append.mpr ⟨holds.linked.redirect_last ?_ ?_ ?_ nodup, ?_, ?_, trivial⟩
    · intro entry member
      have beside := away entry member
      have other : entry = newest ∨ entry + 16 ≤ newest ∨ newest + 16 ≤ entry :=
        (eq_or_ne entry newest).imp_right (spread entry member)
      simp (disch := omega) only [Memory.readWord_writeWord_of_apart]
    · intro entry member inner
      have beside := away entry member
      have other := spread entry member fun same => inner (by simp [same])
      simp (disch := omega) only [Memory.readWord_writeWord_of_apart]
    · intro entry last
      obtain rfl : newest = entry := by simpa using last
      exact Memory.readWord_writeWord _ _ (room.word_lt here)
    · simp (disch := omega) only [Memory.readWord_writeWord_of_apart]
      rw [Memory.readWord_writeWord _ block (show Link.toWord (some newest) < _ from room.word_lt member)]
      simp
    · simp (disch := omega) only [Memory.readWord_writeWord_of_apart]
      rw [Memory.readWord_writeWord _ _ (by decide)]
      simp

theorem previousLink_returns {words : Nat → Prop} {older newer : List Nat} {block : Nat}
    (room : LinkRoom window (older ++ block :: newer))
    (linked : Linked window.memory none (older ++ block :: newer) none)
    (covered : ∀ addr, linkWords [block] addr → words addr) :
    Op.Returns (Window.Touches words) (previousLink block) window fun link after =>
      link = older.getLast? ∧ after = window := by
  have composes := Window.touches_composes words
  have member : block ∈ older ++ block :: newer := by simp
  have below := room.below block member
  unfold linkSize at below
  refine .bind composes (Window.fetch_returns room.fits (room.above block member) (by omega)
    (covered _ ⟨block, List.mem_cons_self, .inl rfl⟩)) ?_
  rintro word _ ⟨read, rfl⟩
  refine .pure composes ⟨?_, rfl⟩
  have back := (Linked.append.mp linked).2.1
  rw [read, back, Option.or_none]
  exact room.ofWord_toWord fun entry last => List.mem_append_left _ (List.mem_of_getLast? last)

theorem nextLink_returns {words : Nat → Prop} {older newer : List Nat} {block : Nat}
    (room : LinkRoom window (older ++ block :: newer))
    (linked : Linked window.memory none (older ++ block :: newer) none)
    (covered : ∀ addr, linkWords [block] addr → words addr) :
    Op.Returns (Window.Touches words) (nextLink block) window fun link after =>
      link = newer.head? ∧ after = window := by
  have composes := Window.touches_composes words
  have member : block ∈ older ++ block :: newer := by simp
  have above := room.above block member
  have below := room.below block member
  unfold linkSize at below
  refine .bind composes (Window.fetch_returns room.fits (by omega) (by omega)
    (covered _ ⟨block, List.mem_cons_self, .inr rfl⟩)) ?_
  rintro word _ ⟨read, rfl⟩
  refine .pure composes ⟨?_, rfl⟩
  have forth := (Linked.append.mp linked).2.2.1
  rw [read, forth, Option.or_none]
  refine room.ofWord_toWord fun entry first => List.mem_append_right _ (List.mem_cons_of_mem _ ?_)
  exact List.mem_of_head? first

/-- The entry before a removed one leads past it. -/
theorem redirect_older {words : Nat → Prop} {older newer : List Nat} {block entry : Nat}
    (room : LinkRoom window (older ++ block :: newer)) (last : older.getLast? = some entry)
    (linked : Linked window.memory none (older ++ block :: newer) none)
    (covered : ∀ addr, linkWords [entry] addr → words addr) :
    Op.Returns (Window.Touches words) (setNext entry newer.head?) window fun _ after =>
      LinkRoom after (older ++ block :: newer) ∧
      Linked after.memory none older newer.head? ∧ Linked after.memory (some block) newer none := by
  have member : entry ∈ older ++ block :: newer :=
    List.mem_append_left _ (List.mem_of_getLast? last)
  apply (setNext_returns newer.head? room member covered).mono
  rintro _ _ rfl
  obtain ⟨before, -, -, after⟩ := Linked.append.mp linked
  obtain ⟨nodup, rest_nodup, distinct⟩ := List.nodup_append.mp room.nodup
  have spread : ∀ other ∈ older ++ block :: newer, other ≠ entry →
      other + 16 ≤ entry ∨ entry + 16 ≤ other := fun other here => room.apart other here entry member
  refine ⟨room.of_memory _, before.redirect_last ?_ ?_ ?_ nodup, after.congr ?_ ?_⟩
  · intro other here
    have cases := (eq_or_ne other entry).imp_right (spread other (List.mem_append_left _ here))
    simp (disch := omega) only [Memory.readWord_writeWord_of_apart]
  · intro other here inner
    have away := spread other (List.mem_append_left _ here) fun same => inner (by rw [last, same])
    simp (disch := omega) only [Memory.readWord_writeWord_of_apart]
  · intro other same
    obtain rfl : entry = other := Option.some.inj (last.symm.trans same)
    apply Memory.readWord_writeWord
    refine Link.toWord_lt fun target first => room.word_lt (List.mem_append_right _ ?_)
    exact List.mem_cons_of_mem _ (List.mem_of_head? first)
  · intro other here
    have away := spread other (by simp [here]) fun same =>
      distinct entry (List.mem_of_getLast? last) other (List.mem_cons_of_mem _ here) same.symm
    simp (disch := omega) only [Memory.readWord_writeWord_of_apart]
  · intro other here
    have away := spread other (by simp [here]) fun same =>
      distinct entry (List.mem_of_getLast? last) other (List.mem_cons_of_mem _ here) same.symm
    simp (disch := omega) only [Memory.readWord_writeWord_of_apart]

theorem redirect_newer {words : Nat → Prop} {older newer : List Nat} {block entry : Nat}
    (room : LinkRoom window (older ++ block :: newer)) (first : newer.head? = some entry)
    (before : Linked window.memory none older newer.head?)
    (after : Linked window.memory (some block) newer none)
    (covered : ∀ addr, linkWords [entry] addr → words addr) :
    Op.Returns (Window.Touches words) (setPrevious entry older.getLast?) window fun _ after =>
      Linked after.memory none (older ++ newer) none := by
  have here : entry ∈ newer := List.mem_of_head? first
  have member : entry ∈ older ++ block :: newer := by simp [here]
  apply (setPrevious_returns older.getLast? room member covered).mono
  rintro _ _ rfl
  obtain ⟨-, rest_nodup, distinct⟩ := List.nodup_append.mp room.nodup
  have spread : ∀ other ∈ older ++ block :: newer, other ≠ entry →
      other + 16 ≤ entry ∨ entry + 16 ≤ other := fun other here => room.apart other here entry member
  have fresh : entry ∉ newer.tail := by
    have nodup := (List.nodup_cons.mp rest_nodup).2
    cases newer with
    | nil => cases here
    | cons head tail =>
      obtain rfl : head = entry := Option.some.inj first
      exact (List.nodup_cons.mp nodup).1
  rw [Linked.append, Option.or_none, Option.or_none]
  refine ⟨before.congr ?_ ?_, after.redirect_first ?_ ?_ ?_⟩
  · intro other inside
    have away := spread other (List.mem_append_left _ inside)
      (distinct other inside entry (List.mem_cons_of_mem _ here))
    simp (disch := omega) only [Memory.readWord_writeWord_of_apart]
  · intro other inside
    have away := spread other (List.mem_append_left _ inside)
      (distinct other inside entry (List.mem_cons_of_mem _ here))
    simp (disch := omega) only [Memory.readWord_writeWord_of_apart]
  · intro other inside
    have away := spread other (by simp [List.mem_of_mem_tail inside])
      fun same => fresh (same ▸ inside)
    simp (disch := omega) only [Memory.readWord_writeWord_of_apart]
  · intro other inside
    have cases := (eq_or_ne other entry).imp_right (spread other (by simp [inside]))
    simp (disch := omega) only [Memory.readWord_writeWord_of_apart]
  · intro other same
    obtain rfl : entry = other := Option.some.inj (first.symm.trans same)
    apply Memory.readWord_writeWord
    exact Link.toWord_lt fun target last =>
      room.word_lt (List.mem_append_left _ (List.mem_of_getLast? last))

/-- A link word rewritten where there is an entry to rewrite it in. -/
def relink (entry : Link) (set : Nat → Link → Op Window Unit) (target : Link) : Op Window Unit :=
  match entry with
  | none => pure ()
  | some entry => set entry target

theorem remove_eq (list : FreeList) (block : Nat) :
    list.remove block = (do
      let before ← previousLink block
      let after ← nextLink block
      relink before setNext after
      relink after setPrevious before
      let length ← Word.sub list.length 1
      let head := if before.isNone then after else list.head
      let tail := if after.isNone then before else list.tail
      return (⟨head, tail, length⟩ : FreeList)) := by
  unfold remove
  congr
  funext before
  congr
  funext after
  cases before <;> cases after <;> simp [relink]

/-- Removing rewrites the link words of the entry's neighbours; it may stand anywhere. -/
theorem remove_returns {words : Nat → Prop} {older newer : List Nat} {block : Nat}
    (room : LinkRoom window (older ++ block :: newer))
    (holds : list.Holds window.memory (older ++ block :: newer))
    (covered : ∀ addr, linkWords (block :: (older.getLast?.toList ++ newer.head?.toList)) addr →
      words addr) :
    Op.Returns (Window.Touches words) (list.remove block) window fun shorter after =>
      shorter.Holds after.memory (older ++ newer) := by
  have composes := Window.touches_composes words
  have covered : ∀ entry ∈ block :: (older.getLast?.toList ++ newer.head?.toList), ∀ addr,
      linkWords [entry] addr → words addr := by
    rintro entry member addr ⟨other, same, within⟩
    exact covered addr ⟨entry, member, List.mem_singleton.mp same ▸ within⟩
  rw [remove_eq]
  refine .bind composes (previousLink_returns room holds.linked (covered block List.mem_cons_self)) ?_
  rintro _ _ ⟨rfl, rfl⟩
  refine .bind composes (nextLink_returns room holds.linked (covered block List.mem_cons_self)) ?_
  rintro _ window ⟨rfl, rfl⟩
  have relink_older : Op.Returns (Window.Touches words)
      (relink older.getLast? setNext newer.head?) window fun _ after =>
        LinkRoom after (older ++ block :: newer) ∧
        Linked after.memory none older newer.head? ∧ Linked after.memory (some block) newer none := by
    cases last : older.getLast? with
    | none =>
      obtain rfl := List.getLast?_eq_none_iff.mp last
      exact .pure composes ⟨room, trivial, (Linked.append.mp holds.linked).2.2.2⟩
    | some entry => exact redirect_older room last holds.linked (covered entry (by simp [last]))
  refine .bind composes relink_older ?_
  rintro _ after ⟨room, before, behind⟩
  have relink_newer : Op.Returns (Window.Touches words)
      (relink newer.head? setPrevious older.getLast?) after fun _ after =>
        Linked after.memory none (older ++ newer) none := by
    cases first : newer.head? with
    | none =>
      obtain rfl := List.head?_eq_none_iff.mp first
      exact .pure composes (by simpa using before)
    | some entry => exact redirect_newer room first before behind (covered entry (by simp [first]))
  refine .bind composes relink_newer ?_
  intro _ after linked
  refine .check_bind (Word.sub_eq_ok (by simp [holds.length]; omega)) ?_
  refine .pure composes ⟨?_, ?_, by simp [holds.length], linked⟩
  · cases older <;> simp [holds.head]
  · rcases List.eq_nil_or_concat newer with rfl | ⟨entries, entry, rfl⟩ <;>
      simp [holds.tail, List.getLast?_cons]

theorem pop_newest_returns {words : Nat → Prop} {older : List Nat} {newest : Nat}
    (room : LinkRoom window (older ++ [newest])) (holds : list.Holds window.memory (older ++ [newest]))
    (covered : ∀ addr, linkWords (newest :: older.getLast?.toList) addr → words addr) :
    Op.Returns (Window.Touches words) list.pop window fun popped after =>
      popped.1 = some newest ∧ popped.2.Holds after.memory older := by
  have composes := Window.touches_composes words
  have tail : list.tail = some newest := by simp [holds.tail]
  unfold pop
  simp only [tail]
  refine .bind composes (remove_returns room holds (by simpa using covered)) ?_
  intro shorter after holds
  refine .pure composes ⟨rfl, ?_⟩
  simpa using holds

/-- Popping takes off the newest entry, if there is one. -/
theorem pop_returns (room : LinkRoom window entries) (holds : list.Holds window.memory entries) :
    Op.Returns (Window.Touches (linkWords entries)) list.pop window fun popped after =>
      popped.1 = entries.getLast? ∧ popped.2.Holds after.memory entries.dropLast := by
  rcases List.eq_nil_or_concat entries with rfl | ⟨older, newest, rfl⟩
  · have tail : list.tail = none := holds.tail
    unfold pop
    simp only [tail]
    exact .pure (Window.touches_composes _) ⟨rfl, holds⟩
  · rw [List.concat_eq_append] at *
    apply (pop_newest_returns room holds ?_).mono
    · rintro popped after ⟨found, holds⟩
      exact ⟨by simp [found], by simpa using holds⟩
    · rintro addr ⟨block, member, within⟩
      refine ⟨block, ?_, within⟩
      simp only [List.mem_cons, Option.mem_toList] at member
      rcases member with rfl | member
      · simp
      · exact List.mem_append_left _ (List.mem_of_getLast? member)

theorem advance_returns {words : Nat → Prop} {older newer : List Nat} {block : Nat}
    (room : LinkRoom window (older ++ block :: newer))
    (linked : Linked window.memory none (older ++ block :: newer) none)
    (covered : ∀ addr, linkWords [block] addr → words addr) :
    Op.Returns (Window.Touches words) (Cursor.advance ⟨some block, newer.length + 1⟩) window fun found after =>
      found = some (block, ⟨newer.head?, newer.length⟩) ∧ after = window := by
  have composes := Window.touches_composes words
  refine .bind composes (nextLink_returns room linked covered) ?_
  rintro _ _ ⟨rfl, rfl⟩
  exact .pure composes ⟨rfl, rfl⟩

theorem collect_returns {older newer : List Nat} (room : LinkRoom window (older ++ newer))
    (linked : Linked window.memory none (older ++ newer) none) :
    Op.Returns (Window.Touches (linkWords (older ++ newer)))
      (Cursor.collect newer.length ⟨newer.head?, newer.length⟩) window fun entries after =>
        entries = newer ∧ after = window := by
  have composes := Window.touches_composes (linkWords (older ++ newer))
  induction newer generalizing older with
  | nil => exact .pure composes ⟨rfl, rfl⟩
  | cons block newer ih =>
    have assoc : older ++ block :: newer = (older ++ [block]) ++ newer := by simp
    have covered : ∀ addr, linkWords [block] addr → linkWords (older ++ block :: newer) addr := by
      rintro addr ⟨other, same, within⟩
      exact ⟨other, by simp [List.mem_singleton.mp same], within⟩
    have advance := advance_returns room linked covered
    refine .bind composes advance ?_
    rintro _ _ ⟨rfl, rfl⟩
    rw [assoc] at room linked composes ⊢
    refine .bind composes (ih room linked composes) ?_
    rintro _ _ ⟨rfl, rfl⟩
    exact .pure composes ⟨rfl, rfl⟩

/-- The walk along a list yields what the list stands for. -/
theorem entries_returns (room : LinkRoom window entries) (holds : list.Holds window.memory entries) :
    Op.Returns (Window.Touches (linkWords entries)) list.entries window fun found after =>
      found = entries ∧ after = window := by
  have walk := @collect_returns window [] entries room holds.linked
  rwa [List.nil_append, ← holds.head, ← holds.length] at walk

end FreeList

end Nucleus.Buddy
