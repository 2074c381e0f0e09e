import Nucleus.Proofs.Buddy.Links
import Mathlib.Data.List.Nodup
import Mathlib.Logic.Function.Basic

/-! Any number of free lists in one memory, each of which stands for a sequence of addresses. What is done to one list
rewrites link words of blocks that are on it or come onto it, and those of all other lists lie elsewhere. -/
namespace Nucleus.Buddy

/-- The link words of two blocks do not overlap. -/
def LinksApart (block other : Nat) : Prop := block + linkSize ≤ other ∨ other + linkSize ≤ block

instance (block other : Nat) : Decidable (LinksApart block other) := inferInstanceAs (Decidable (_ ∨ _))

theorem LinksApart.symm {block other : Nat} (apart : LinksApart block other) : LinksApart other block :=
  Or.symm apart

theorem LinksApart.ne {block other : Nat} (apart : LinksApart block other) : block ≠ other := by
  have link : linkSize = 16 := rfl
  unfold LinksApart at apart
  omega

/-- Link words inside a window, those of any two blocks apart. -/
theorem LinkRoom.of_contains {window : Window} {blocks : List Nat} {block : Nat} (member : block ∈ blocks)
    (inside : ∀ block ∈ blocks, window.contains block linkSize = .ok true) (nodup : blocks.Nodup)
    (apart : ∀ block ∈ blocks, ∀ other ∈ blocks, block ≠ other → LinksApart block other) :
    LinkRoom window blocks := by
  have fits := Window.fits_of_contains (inside block member)
  have bounds : ∀ block ∈ blocks, window.base ≤ block ∧ block + linkSize ≤ window.base + window.capacity := by
    intro block member
    have found := inside block member
    rw [Window.contains_eq_ok fits] at found
    exact of_decide_eq_true (Except.ok.inj found)
  exact ⟨fits, fun block member => (bounds block member).1, fun block member => (bounds block member).2, nodup, apart⟩

theorem last_subset (blocks : List Nat) : blocks.getLast?.toList ⊆ blocks :=
  fun _ member => List.mem_of_getLast? (Option.mem_toList.mp member)

theorem first_subset (blocks : List Nat) : blocks.head?.toList ⊆ blocks :=
  fun _ member => List.mem_of_head? (Option.mem_toList.mp member)

variable {ι : Type} {window : Window} {lists : ι → FreeList} {entries : ι → List Nat} {i : ι}

/-- Sequences of addresses of which every link word lies inside the window, where no two overlap. -/
structure Spread (window : Window) (entries : ι → List Nat) : Prop where
  inside : ∀ i, ∀ block ∈ entries i, window.contains block linkSize = .ok true
  nodup : ∀ i, (entries i).Nodup
  apart : ∀ i, ∀ block ∈ entries i, ∀ j, ∀ other ∈ entries j, i ≠ j ∨ block ≠ other → LinksApart block other

/-- Lists that stand for such sequences, each for its own. -/
structure Threaded (window : Window) (lists : ι → FreeList) (entries : ι → List Nat) : Prop where
  spread : Spread window entries
  holds : ∀ i, (lists i).Holds window.memory (entries i)

/-- A block inside the window that overlaps the link words of none on any list. -/
structure Fresh (window : Window) (entries : ι → List Nat) (block : Nat) : Prop where
  inside : window.contains block linkSize = .ok true
  apart : ∀ i, ∀ other ∈ entries i, LinksApart block other

namespace FreeList

/-- A walk over an unchanged window that yields some blocks, in order, and then nothing; it always tells how many are
still to come. -/
def Cursor.Yields (window : Window) : List Nat → Cursor → Prop
  | [], cursor => cursor.remaining = 0 ∧ cursor.advance.run window = ([], .ok (none, window))
  | block :: rest, cursor => cursor.remaining = rest.length + 1 ∧
      Op.Returns (Window.Touches (linkWords [block])) cursor.advance window fun found after =>
        after = window ∧ ∃ next, found = some (block, next) ∧ next.Yields window rest

theorem yields_of_linked {older newer : List Nat} (room : older ++ newer ≠ [] → LinkRoom window (older ++ newer))
    (linked : Linked window.memory none (older ++ newer) none) :
    (Cursor.mk newer.head? newer.length).Yields window newer := by
  induction newer generalizing older with
  | nil => exact ⟨rfl, rfl⟩
  | cons block newer ih =>
    refine ⟨rfl, (advance_returns (room (by simp)) linked fun _ word => word).mono ?_⟩
    rintro found after ⟨rfl, rfl⟩
    refine ⟨rfl, _, rfl, ?_⟩
    rw [← List.singleton_append, ← List.append_assoc] at room linked
    exact ih room linked

theorem start_yields {list : FreeList} {sequence : List Nat} (room : sequence ≠ [] → LinkRoom window sequence)
    (holds : list.Holds window.memory sequence) : list.start.Yields window sequence := by
  have walk := @yields_of_linked window [] sequence room holds.linked
  rwa [← holds.head, ← holds.length] at walk

theorem pop_none {list : FreeList} (holds : list.Holds window.memory []) :
    list.pop.run window = ([], .ok ((none, list), window)) := by
  have tail : list.tail = none := holds.tail
  unfold pop
  rw [tail]
  rfl

end FreeList

namespace Spread

theorem room (spread : Spread window entries) {block : Nat} (member : block ∈ entries i) :
    LinkRoom window (entries i) :=
  .of_contains member (spread.inside i) (spread.nodup i) fun block member other other_member distinct =>
    spread.apart i block member i other other_member (.inr distinct)

theorem of_memory (spread : Spread window entries) (memory : Memory) : Spread { window with memory } entries :=
  ⟨spread.inside, spread.nodup, spread.apart⟩

variable [DecidableEq ι]

theorem unchanged (spread : Spread window entries) : Spread window (Function.update entries i (entries i)) := by
  rwa [Function.update_eq_self]

/-- Of one sequence some entries may go. -/
theorem shrink {sequence : List Nat} (spread : Spread window entries) (kept : sequence.Sublist (entries i)) :
    Spread window (Function.update entries i sequence) := by
  have fewer : ∀ j, (Function.update entries i sequence j).Sublist (entries j) :=
    (Function.forall_update_iff entries fun j blocks => blocks.Sublist (entries j)).mpr
      ⟨kept, fun j _ => List.Sublist.refl (entries j)⟩
  exact {
    inside j block member := spread.inside j block ((fewer j).subset member)
    nodup j := (spread.nodup j).sublist (fewer j)
    apart j block member k other other_member :=
      spread.apart j block ((fewer j).subset member) k other ((fewer k).subset other_member) }

/-- A fresh block may come to one sequence. -/
theorem grow {block : Nat} (spread : Spread window entries) (fresh : Fresh window entries block) :
    Spread window (Function.update entries i (entries i ++ [block])) := by
  have new : block ∉ entries i := fun member => (fresh.apart i block member).ne rfl
  have mem_grown : ∀ j, ∀ other ∈ Function.update entries i (entries i ++ [block]) j,
      other ∈ entries j ∨ j = i ∧ other = block := by
    refine (Function.forall_update_iff entries fun j blocks =>
      ∀ other ∈ blocks, other ∈ entries j ∨ j = i ∧ other = block).mpr ⟨?_, fun j _ other => .inl⟩
    intro other member
    rw [List.mem_append, List.mem_singleton] at member
    exact member.imp_right fun same => ⟨rfl, same⟩
  refine ⟨?_, ?_, ?_⟩
  · intro j other member
    rcases mem_grown j other member with old | ⟨-, rfl⟩
    · exact spread.inside j other old
    · exact fresh.inside
  · refine (Function.forall_update_iff entries fun _ blocks => blocks.Nodup).mpr ⟨?_, fun j _ => spread.nodup j⟩
    rw [← List.concat_eq_append]
    exact List.Nodup.concat new (spread.nodup i)
  · intro j other member k another another_member distinct
    rcases mem_grown j other member with old | ⟨rfl, rfl⟩ <;>
      rcases mem_grown k another another_member with another_old | ⟨rfl, rfl⟩
    · exact spread.apart j other old k another another_old distinct
    · exact (fresh.apart j other old).symm
    · exact fresh.apart k another another_old
    · rcases distinct with distinct | distinct <;> exact absurd rfl distinct

end Spread

namespace Threaded

theorem empty (window : Window) : Threaded window (fun _ : ι => FreeList.empty) fun _ => [] where
  spread := ⟨fun _ _ member => (nomatch member), fun _ => List.nodup_nil, fun _ _ member => (nomatch member)⟩
  holds _ := FreeList.empty_holds window.memory

variable [DecidableEq ι]

/-- An operation on one list that keeps to link words of its blocks, `whole`, leaves every other list as it was. A block
that comes onto the list counts as one of them already. -/
theorem returns {α : Type} {op : Op Window α} {post : α → Window → Prop} {list : α → FreeList}
    {whole touched sequence : List Nat} (threaded : Threaded window lists entries)
    (spread : Spread window (Function.update entries i whole)) (kept : sequence.Sublist whole)
    (own : touched ⊆ whole) (returns : Op.Returns (Window.Touches (linkWords touched)) op window post)
    (holds : ∀ value after, post value after → (list value).Holds after.memory sequence) :
    Op.Returns (Window.Touches (linkWords touched)) op window fun value after =>
      post value after ∧ Threaded after (Function.update lists i (list value)) (Function.update entries i sequence) := by
  have others : ∀ j, j ≠ i → ∀ addr, linkArea (entries j) addr → ¬ linkArea touched addr := by
    rintro j other addr ⟨block, member, low, high⟩ ⟨near, near_member, near_low, near_high⟩
    have apart := spread.apart i near (by rw [Function.update_self]; exact own near_member) j block
      (by rwa [Function.update_of_ne other]) (.inl (Ne.symm other))
    unfold LinksApart at apart
    omega
  have fewer : Spread window (Function.update entries i sequence) := by
    rw [← Function.update_idem (a := i) whole sequence entries]
    exact spread.shrink (by rwa [Function.update_self])
  have framed := returns.remember fun events after touches => show
      Spread after (Function.update entries i sequence) ∧ ∀ j, j ≠ i → (lists j).Holds after.memory (entries j) from by
    refine ⟨?_, fun j other => (threaded.holds j).frame fun addr area =>
      touches.bytes addr (outside_words (others j other addr area))⟩
    rw [touches.only_memory]
    exact fewer.of_memory _
  apply framed.mono
  rintro value after ⟨⟨spread, rest⟩, done⟩
  refine ⟨done, spread, fun j => ?_⟩
  by_cases same : j = i
  · subst same
    rw [Function.update_self, Function.update_self]
    exact holds value after done
  · rw [Function.update_of_ne same, Function.update_of_ne same]
    exact rest j same

theorem push {block : Nat} (threaded : Threaded window lists entries) (fresh : Fresh window entries block) :
    Op.Returns (Window.Touches (linkWords (block :: (entries i).getLast?.toList))) ((lists i).push block) window
      fun list after =>
        Threaded after (Function.update lists i list) (Function.update entries i (entries i ++ [block])) := by
  have grown := threaded.spread.grow (i := i) fresh
  have room : LinkRoom window (block :: entries i) := by
    have member : block ∈ Function.update entries i (entries i ++ [block]) i := by simp
    have whole := grown.room member
    rw [Function.update_self] at whole
    exact whole.perm (List.perm_append_singleton block (entries i))
  have own : block :: (entries i).getLast?.toList ⊆ entries i ++ [block] :=
    List.cons_subset.mpr ⟨by simp, List.subset_append_of_subset_left _ (last_subset _)⟩
  have pushed := FreeList.push_returns room (threaded.holds i) fun _ word => word
  apply (threaded.returns grown (List.Sublist.refl _) own pushed fun _ _ holds => holds).mono
  exact fun _ _ done => done.2

theorem remove {older newer : List Nat} {block : Nat} (threaded : Threaded window lists entries)
    (split : entries i = older ++ block :: newer) :
    Op.Returns (Window.Touches (linkWords (block :: (older.getLast?.toList ++ newer.head?.toList))))
      ((lists i).remove block) window fun list after =>
        Threaded after (Function.update lists i list) (Function.update entries i (older ++ newer)) := by
  have member : block ∈ entries i := by simp [split]
  have room := threaded.spread.room member
  have holds := threaded.holds i
  rw [split] at room holds
  have later : newer.head?.toList ⊆ older ++ block :: newer :=
    List.subset_append_of_subset_right _ (List.Subset.trans (first_subset newer) (List.subset_cons_self block newer))
  have own : block :: (older.getLast?.toList ++ newer.head?.toList) ⊆ older ++ block :: newer :=
    List.cons_subset.mpr ⟨by simp, List.append_subset.mpr
      ⟨List.subset_append_of_subset_left _ (last_subset older), later⟩⟩
  have fewer : (older ++ newer).Sublist (older ++ block :: newer) :=
    (List.Sublist.refl older).append (List.sublist_cons_self block newer)
  have removed := FreeList.remove_returns room holds fun _ word => word
  apply (threaded.returns (split ▸ threaded.spread.unchanged) fewer own removed fun _ _ holds => holds).mono
  exact fun _ _ done => done.2

theorem pop {older : List Nat} {newest : Nat} (threaded : Threaded window lists entries)
    (split : entries i = older ++ [newest]) :
    Op.Returns (Window.Touches (linkWords (newest :: older.getLast?.toList))) (lists i).pop window
      fun popped after => popped.1 = some newest ∧
        Threaded after (Function.update lists i popped.2) (Function.update entries i older) := by
  have member : newest ∈ entries i := by simp [split]
  have room := threaded.spread.room member
  have holds := threaded.holds i
  rw [split] at room holds
  have own : newest :: older.getLast?.toList ⊆ older ++ [newest] :=
    List.cons_subset.mpr ⟨by simp, List.subset_append_of_subset_left _ (last_subset _)⟩
  have popped := FreeList.pop_newest_returns room holds fun _ word => word
  apply (threaded.returns (split ▸ threaded.spread.unchanged) (List.sublist_append_left older [newest]) own popped
    fun _ _ done => done.2).mono
  exact fun _ _ done => ⟨done.1.1, done.2⟩

/-- Any number of lists over one window that stand for sequences of blocks, with all link words inside the window and
apart. Pushing a block that is apart from all of them puts it at the end of the list's sequence; popping answers the
last block and takes it off, or answers nothing and does nothing where there is none; removing a block takes it out
wherever it stands; the walk yields the sequence and then ends. Each time all lists stand for sequences again, the
others for the same ones, and memory has changed in link words of the block and of its direct neighbours alone. -/
theorem lists_stand_for_sequences (threaded : Threaded window lists entries) (i : ι) :
    (∀ block, Fresh window entries block →
      Op.Returns (Window.Touches (linkWords (block :: (entries i).getLast?.toList))) ((lists i).push block) window
        fun list after =>
          Threaded after (Function.update lists i list) (Function.update entries i (entries i ++ [block]))) ∧
    (∀ older newest, entries i = older ++ [newest] →
      Op.Returns (Window.Touches (linkWords (newest :: older.getLast?.toList))) (lists i).pop window
        fun popped after => popped.1 = some newest ∧
          Threaded after (Function.update lists i popped.2) (Function.update entries i older)) ∧
    (entries i = [] → (lists i).pop.run window = ([], .ok ((none, lists i), window))) ∧
    (∀ older block newer, entries i = older ++ block :: newer →
      Op.Returns (Window.Touches (linkWords (block :: (older.getLast?.toList ++ newer.head?.toList))))
        ((lists i).remove block) window fun list after =>
          Threaded after (Function.update lists i list) (Function.update entries i (older ++ newer))) ∧
    (lists i).start.Yields window (entries i) := by
  refine ⟨fun block => threaded.push, fun older newest => threaded.pop, ?_,
    fun older block newer => threaded.remove, ?_⟩
  · intro nothing
    exact FreeList.pop_none (nothing ▸ threaded.holds i)
  · -- An empty list may stand over a window with room for no block.
    refine FreeList.start_yields (fun nonempty => ?_) (threaded.holds i)
    obtain ⟨block, member⟩ := List.exists_mem_of_ne_nil _ nonempty
    exact threaded.spread.room member

/-- Two lists whose blocks lie between each other's: the older block of one is removed, and the other list is what it
was. -/
theorem lists_stand_for_sequences_of_two :
    let memory : Memory := (Memory.filled 0).writeWord 0x1000 Link.absent |>.writeWord 0x1008 0x1020
      |>.writeWord 0x1010 Link.absent |>.writeWord 0x1018 Link.absent
      |>.writeWord 0x1020 0x1000 |>.writeWord 0x1028 Link.absent
    let window : Window := { Window.raw 0x1000 64 with memory }
    let lists (first : Bool) : FreeList :=
      if first then ⟨some 0x1000, some 0x1020, 2⟩ else ⟨some 0x1010, some 0x1010, 1⟩
    let entries (first : Bool) : List Nat := if first then [0x1000, 0x1020] else [0x1010]
    Threaded window lists entries ∧ Fresh window entries 0x1030 ∧
    Op.Returns (Window.Touches (linkWords [0x1000, 0x1020])) ((lists true).remove 0x1000) window fun list after =>
      list.Holds after.memory [0x1020] ∧ (lists false).Holds after.memory [0x1010] := by
  intro memory window lists entries
  have older : memory.readWord 0x1000 = Link.absent ∧ memory.readWord 0x1008 = 0x1020 := by decide +kernel
  have single : memory.readWord 0x1010 = Link.absent ∧ memory.readWord 0x1018 = Link.absent := by decide +kernel
  have newer : memory.readWord 0x1020 = 0x1000 ∧ memory.readWord 0x1028 = Link.absent := by decide +kernel
  have spread : Spread window entries := ⟨by decide, by decide, by decide⟩
  have threaded : Threaded window lists entries := by
    refine ⟨spread, fun first => ?_⟩
    cases first with
    | false => exact ⟨rfl, rfl, rfl, single.1, single.2, trivial⟩
    | true => exact ⟨rfl, rfl, rfl, older.1, older.2, newer.1, newer.2, trivial⟩
  have fresh : Fresh window entries 0x1030 := ⟨by decide, by decide⟩
  refine ⟨threaded, fresh, ?_⟩
  have removed := (threaded.lists_stand_for_sequences true).2.2.2.1 [] 0x1000 [0x1020] rfl
  exact removed.mono fun list after done => ⟨done.holds true, done.holds false⟩

end Threaded

/-! ### Histories -/

/-- What is done to one of several lists. -/
inductive Act (ι : Type) where
  | push (i : ι) (block : Nat)
  | pop (i : ι)
  | remove (i : ι) (block : Nat)

namespace Act
variable [DecidableEq ι]

def perform (lists : ι → FreeList) : Act ι → Op Window (ι → FreeList)
  | push i block => return Function.update lists i (← (lists i).push block)
  | pop i => return Function.update lists i (← (lists i).pop).2
  | remove i block => return Function.update lists i (← (lists i).remove block)

def performAll (lists : ι → FreeList) (acts : List (Act ι)) : Op Window (ι → FreeList) := acts.foldlM perform lists

/-- What the act makes of the sequences. -/
def edit (entries : ι → List Nat) : Act ι → ι → List Nat
  | push i block => Function.update entries i (entries i ++ [block])
  | pop i => Function.update entries i (entries i).dropLast
  | remove i block => Function.update entries i ((entries i).erase block)

/-- Only a block apart from all others comes onto a list, and only a block that is on a list is removed from it. -/
def Allowed (window : Window) (entries : ι → List Nat) : Act ι → Prop
  | push _ block => Fresh window entries block
  | pop _ => True
  | remove i block => block ∈ entries i

def AllAllowed (window : Window) : (ι → List Nat) → List (Act ι) → Prop
  | _, [] => True
  | entries, act :: acts => act.Allowed window entries ∧ AllAllowed window (act.edit entries) acts

omit [DecidableEq ι] in
theorem Allowed.of_memory {act : Act ι} (allowed : act.Allowed window entries) (memory : Memory) :
    act.Allowed { window with memory } entries := by
  cases act with
  | push i block => exact ⟨allowed.inside, allowed.apart⟩
  | pop i => trivial
  | remove i block => exact allowed

theorem AllAllowed.of_memory {acts : List (Act ι)} (allowed : AllAllowed window entries acts) (memory : Memory) :
    AllAllowed { window with memory } entries acts := by
  induction acts generalizing entries with
  | nil => trivial
  | cons act acts ih => exact ⟨allowed.1.of_memory memory, ih allowed.2⟩

/-- After an act the lists stand for the sequences it makes. -/
theorem perform_ends {act : Act ι} (threaded : Threaded window lists entries) (allowed : act.Allowed window entries) :
    Op.Ends (act.perform lists) window fun lists after =>
      (∃ memory, after = { window with memory }) ∧ Threaded after lists (act.edit entries) := by
  have only_memory : ∀ (touched : List Nat) events after,
      Window.Touches (linkWords touched) window events after → ∃ memory, after = { window with memory } :=
    fun _ _ after touches => ⟨after.memory, touches.only_memory⟩
  cases act with
  | push i block =>
    have pushed := (threaded.push (i := i) allowed).remember (only_memory _)
    refine .bind (pushed.widen fun _ _ _ => trivial) ?_
    exact fun _ _ done => .pure done
  | pop i =>
    rcases List.eq_nil_or_concat (entries i) with nothing | ⟨older, newest, split⟩
    · have popped : Op.Ends (lists i).pop window fun answer after => answer = (none, lists i) ∧ after = window :=
        .of_run (FreeList.pop_none (nothing ▸ threaded.holds i)) ⟨rfl, rfl⟩
      refine .bind popped ?_
      rintro _ _ ⟨rfl, rfl⟩
      have same : edit entries (.pop i) = entries := by
        rw [edit, nothing, List.dropLast_nil, ← nothing, Function.update_eq_self]
      refine .pure ⟨⟨_, rfl⟩, ?_⟩
      rwa [same, Function.update_eq_self]
    · rw [List.concat_eq_append] at split
      have popped := (threaded.pop split).remember (only_memory _)
      refine .bind (popped.widen fun _ _ _ => trivial) ?_
      rintro answer after ⟨memory, -, threaded⟩
      refine .pure ⟨memory, ?_⟩
      rwa [edit, split, List.dropLast_concat]
  | remove i block =>
    obtain ⟨older, newer, split⟩ := List.append_of_mem (show block ∈ entries i from allowed)
    have removed := (threaded.remove split).remember (only_memory _)
    refine .bind (removed.widen fun _ _ _ => trivial) ?_
    rintro list after ⟨memory, threaded'⟩
    refine .pure ⟨memory, ?_⟩
    have nodup := threaded.spread.nodup i
    rw [split] at nodup
    have new : block ∉ older := fun member =>
      (List.nodup_append.mp nodup).2.2 block member block List.mem_cons_self rfl
    rwa [edit, split, List.erase_append_right _ new, List.erase_cons_head]

/-- After any history the lists stand for the sequences its acts make, one after the other. -/
theorem performAll_ends {acts : List (Act ι)} (threaded : Threaded window lists entries)
    (allowed : AllAllowed window entries acts) :
    Op.Ends (performAll lists acts) window fun lists after => Threaded after lists (acts.foldl edit entries) := by
  induction acts generalizing window lists entries with
  | nil => exact .pure threaded
  | cons act acts ih =>
    rw [performAll, List.foldlM_cons]
    refine .bind (perform_ends threaded allowed.1) ?_
    rintro lists _ ⟨⟨memory, rfl⟩, threaded⟩
    exact ih threaded (allowed.2.of_memory memory)

/-- So they do if all lists are empty at first. -/
theorem performAll_empty_ends {acts : List (Act ι)} (allowed : AllAllowed window (fun _ => []) acts) :
    Op.Ends (performAll (fun _ => FreeList.empty) acts) window fun lists after =>
      Threaded after lists (acts.foldl edit fun _ => []) :=
  performAll_ends (.empty window) allowed

end Act

end Nucleus.Buddy
