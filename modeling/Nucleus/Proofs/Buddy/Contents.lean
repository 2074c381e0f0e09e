import Nucleus.Proofs.Buddy.Abreast

/-! What lies in memory does not steer the heap: neither what owners write into their payloads, nor what the
window and the storage for split bits hold at the start. The heap reads words that it has written itself. -/
namespace Nucleus

/-- What lies in a window does not move it. -/
theorem Window.shift_withMemory {window : Window} {memory : Memory} {addr : Nat} (start : window.base ≤ addr) :
    window.shift { window with memory } addr = addr := Nat.add_sub_of_le start

namespace Buddy

/-- Two sessions that allocations and releases cannot tell apart. As long as nothing has cleared the split bits,
each session still holds those it started with. -/
structure Indistinct (split otherSplit : BitArray) (session twin : Session) : Prop where
  ready : twin.heap.ready = session.heap.ready
  rootBucket : twin.heap.rootBucket = session.heap.rootBucket
  highWater : twin.heap.highWater = session.heap.highWater
  stats : twin.heap.stats = session.heap.stats
  live : twin.live = session.live
  split : session.heap.ready = false ∧ session.heap.split = split ∧ twin.heap.split = otherSplit ∨
    twin.heap.split.bytes = session.heap.split.bytes
  free : ∀ bucket < maxBuckets, ∃ events more found,
    (Heap.freeBlocks bucket).run session.heap = (events, .ok (found, session.heap)) ∧
    (Heap.freeBlocks bucket).run twin.heap = (more, .ok (found, twin.heap))

theorem Heap.stats_congr {heap other : Heap} (geometry : other.geometry = heap.geometry)
    (lists : other.lists = heap.lists) (root : other.rootBucket = heap.rootBucket)
    (highWater : other.highWater = heap.highWater) : other.stats = heap.stats := by
  simp only [Heap.stats, geometry, lists, root, highWater]

namespace Twins
variable {twins : Twins} {session twin after twinAfter : Session} {heap twinHeap : Heap}
variable {action : Session.Action} {actions others : List Session.Action}

/-- Both windows are the same but for what lies in them. -/
def SamePlace (twins : Twins) : Prop := ∃ memory, twins.other = { twins.window with memory }

theorem SamePlace.shift (place : twins.SamePlace) {addr : Nat} (start : twins.window.base ≤ addr) :
    twins.window.shift twins.other addr = addr := by
  obtain ⟨memory, same⟩ := place
  rw [same, Window.shift_withMemory start]

theorem SamePlace.base (place : twins.SamePlace) : twins.other.base = twins.window.base := by
  obtain ⟨memory, same⟩ := place
  rw [same]

theorem SamePlace.map_shift (place : twins.SamePlace) {found : List Nat}
    (above : ∀ addr ∈ found, twins.window.base ≤ addr) : found.map (twins.window.shift twins.other) = found :=
  (List.map_congr_left fun addr member => place.shift (above addr member)).trans (List.map_id _)

theorem Abreast.live_same (abreast : twins.Abreast session twin) (place : twins.SamePlace) :
    twin.live = session.live := by
  rw [abreast.live_eq]
  refine (List.map_congr_left fun loan member => ?_).trans (List.map_id _)
  have above := abreast.base_le member
  simp only [Loan.shift, place.shift ((Nat.le_add_right _ _).trans above), id]

theorem Abreast.highWater_same (abreast : twins.Abreast session twin) (place : twins.SamePlace) :
    twin.heap.highWater = session.heap.highWater := by
  cases abreast with
  | idle idle =>
    cases idle with
    | fresh => rfl
    | cleared => exact place.base
  | @serving heap twinHeap live book large enough serving twin_serving =>
    have granted : heap.highWater = twins.window.base + book.granted := serving.shows.granted
    have twin_granted : twinHeap.highWater = twins.other.base + book.granted := twin_serving.shows.granted
    simp only [granted, twin_granted, place.base]

theorem Abreast.lists_same (abreast : twins.Abreast session twin) (place : twins.SamePlace) :
    twin.heap.lists = session.heap.lists := by
  apply Vector.ext
  intro bucket valid
  cases abreast with
  | idle idle => rw [idle.first.lists bucket valid, idle.second.lists bucket valid]
  | @serving heap twinHeap live book large enough serving twin_serving =>
    have listed : Heap.listed (twins.otherSite large enough) book bucket =
        Heap.listed (twins.site large enough) book bucket := by
      rw [shift_listed]
      exact place.map_shift fun addr member => twins.base_le_of_listed large enough member
    have holds := twin_serving.shows.lists bucket valid
    rw [listed] at holds
    exact holds.unique (serving.shows.lists bucket valid)

theorem Abreast.indistinct (abreast : twins.Abreast session twin) (place : twins.SamePlace) :
    Indistinct twins.split twins.otherSplit session twin := by
  have highWater := abreast.highWater_same place
  constructor
  case ready => exact abreast.ready_eq
  case rootBucket => exact abreast.root_eq
  case highWater => exact highWater
  case stats =>
    exact Heap.stats_congr abreast.geometry_eq (abreast.lists_same place) abreast.root_eq highWater
  case live => exact abreast.live_same place
  case split =>
    cases abreast with
    | idle idle =>
      cases idle with
      | fresh => exact .inl ⟨rfl, rfl, rfl⟩
      | cleared => exact .inr (BitArray.bytes_clear twins.size)
    | serving _ _ serving twin_serving => exact .inr (serving.shows.split_eq twin_serving.shows rfl)
  case free =>
    intro bucket valid
    obtain ⟨events, more, found, ran, twin_ran, above⟩ := abreast.frees valid
    rw [place.map_shift above] at twin_ran
    exact ⟨events, more, found, ran, twin_ran⟩

theorem Abreast.shift_same (abreast : twins.Abreast session twin) (place : twins.SamePlace)
    (legal : session.Legal action) (ofHeap : action.OfHeap) :
    action.shift twins.window twins.other = action := by
  cases action with
  | allocate request => rfl
  | write addr bytes => cases ofHeap
  | release addr =>
    rcases legal with rfl | ⟨loan, member, rfl⟩
    · rfl
    · have above := abreast.base_le member
      rw [Session.Action.shift, place.shift ((Nat.le_add_right _ _).trans above)]
      split <;> simp_all

/-- Writes on the other side only. -/
theorem Abreast.follow_writes (abreast : twins.Abreast session twin)
    (writes : ∀ action ∈ others, ¬ action.OfHeap) (ended : twin.follow others = some twinAfter) :
    twins.Abreast session twinAfter := by
  induction others generalizing twin with
  | nil =>
    cases ended
    exact abreast
  | cons action rest ih =>
    obtain ⟨legal, events, middle, ran, later⟩ := Session.follow_cons.mp ended
    cases action with
    | allocate request => exact absurd trivial (writes _ List.mem_cons_self)
    | release addr => exact absurd trivial (writes _ List.mem_cons_self)
    | write addr bytes =>
      exact ih (abreast.write_second legal ran) (fun action member => writes action (List.mem_cons_of_mem _ member))
        later

/-- Two runs with the same allocations and releases, and any writes of owners in between. -/
theorem Abreast.follow_both (abreast : twins.Abreast session twin) (place : twins.SamePlace)
    (same : actions.filter (fun action => action.OfHeap) = others.filter fun action => action.OfHeap)
    (ended : session.follow actions = some after) (twin_ended : twin.follow others = some twinAfter) :
    twins.Abreast after twinAfter := by
  induction actions generalizing session twin others with
  | nil =>
    cases ended
    have writes : ∀ action ∈ others, ¬ action.OfHeap := by
      simpa only [decide_eq_true_eq] using List.filter_eq_nil_iff.mp same.symm
    exact abreast.follow_writes writes twin_ended
  | cons action rest ih =>
    obtain ⟨legal, events, middle, ran, later⟩ := Session.follow_cons.mp ended
    by_cases ofHeap : action.OfHeap
    · rw [List.filter_cons_of_pos (by simpa using ofHeap)] at same
      obtain ⟨writes, more, rfl, aside, -, same⟩ := List.filter_eq_cons_iff.mp same.symm
      obtain ⟨written, twin_written, twin_ended⟩ := Session.follow_append.mp twin_ended
      obtain ⟨-, _, twinMiddle, twin_ran, twin_ended⟩ := Session.follow_cons.mp twin_ended
      have abreast := abreast.follow_writes (by simpa only [decide_eq_true_eq] using aside) twin_written
      obtain ⟨_, next, acted, abreast'⟩ := abreast.acts legal ran
      rw [abreast.shift_same place legal ofHeap] at acted
      cases twin_ran.symm.trans acted
      exact ih abreast' same.symm later twin_ended
    · rw [List.filter_cons_of_neg (by simpa using ofHeap)] at same
      cases action with
      | allocate request => exact absurd trivial ofHeap
      | release addr => exact absurd trivial ofHeap
      | write addr bytes => exact ih (abreast.write_first legal ran) same later twin_ended

end Twins

namespace Session
variable {session twin : Session}

/-- Neither what owners write nor what was in memory before makes a difference to allocations and releases: two
runs that differ only in these hand out the same addresses, and cannot be told apart by anything the heap keeps
track of. -/
theorem contents_do_not_matter {geometry : Geometry} {window : Window} {split otherSplit : BitArray}
    (memory : Memory) {actions others : List Action} (fits : window.base + window.capacity < Word.bound)
    (size : otherSplit.size = split.size)
    (same : actions.filter (fun action => action.OfHeap) = others.filter fun action => action.OfHeap)
    (ended : (⟨Heap.fresh geometry window split, []⟩ : Session).follow actions = some session)
    (twin_ended : (⟨Heap.fresh geometry { window with memory } otherSplit, []⟩ : Session).follow others =
      some twin) :
    Indistinct split otherSplit session twin ∧
      ∀ request, ∃ events result heap more twinHeap,
        (Heap.allocate request).run session.heap = (events, .ok (result, heap)) ∧
        (Heap.allocate request).run twin.heap = (more, .ok (result, twinHeap)) := by
  let twins : Twins := ⟨geometry, window, { window with memory }, split, otherSplit, fits, fits, Iff.rfl,
    fun _ _ => Iff.rfl, size⟩
  have place : twins.SamePlace := ⟨memory, rfl⟩
  have start : twins.Abreast ⟨Heap.fresh geometry window split, []⟩
      ⟨Heap.fresh geometry { window with memory } otherSplit, []⟩ := .idle .fresh
  have abreast := start.follow_both place same ended twin_ended
  refine ⟨abreast.indistinct place, fun request => ?_⟩
  obtain ⟨events, result, heap, more, twinHeap, ran, twin_ran, after⟩ := abreast.allocates request
  refine ⟨events, result, heap, more, twinHeap, ran, ?_⟩
  cases result with
  | error error => exact twin_ran
  | ok addr =>
    have above := (Nat.le_add_right _ _).trans (after.base_le List.mem_cons_self)
    rw [Except.map, place.shift above] at twin_ran
    exact twin_ran

/-- The small heap over memory and split bits full of ones. -/
def littered : Session :=
  ⟨Heap.fresh Geometry.small { Window.raw 4096 64 with memory := Memory.filled 255 } (BitArray.filled 1 255), []⟩

theorem littered_indistinct : ∃ session twin,
    small.follow [.allocate 8, .write 4104 [1, 2, 3], .allocate 20, .release 4104] = some session ∧
    littered.follow [.allocate 8, .allocate 20, .write 4136 [0, 0], .write 4104 [9], .release 4104] =
      some twin ∧
    Indistinct (BitArray.filled 1 0) (BitArray.filled 1 255) session twin := by
  have ended : (small.follow [.allocate 8, .write 4104 [1, 2, 3], .allocate 20, .release 4104]).isSome = true ∧
      (littered.follow [.allocate 8, .allocate 20, .write 4136 [0, 0], .write 4104 [9],
        .release 4104]).isSome = true := by decide +kernel
  obtain ⟨session, ran⟩ := Option.isSome_iff_exists.mp ended.1
  obtain ⟨twin, twin_ran⟩ := Option.isSome_iff_exists.mp ended.2
  obtain ⟨indistinct, -⟩ := contents_do_not_matter (Memory.filled 255) (by decide) (by decide) (by rfl) ran
    twin_ran
  exact ⟨session, twin, ran, twin_ran, indistinct⟩

/-- A request that is refused before the heap is prepared leaves the split bits as they were found. -/
theorem littered_split_bits_show : ∃ session twin,
    small.follow [.allocate 100] = some session ∧ littered.follow [.allocate 100] = some twin ∧
    session.heap.ready = false ∧ session.heap.split.bytes = [0] ∧ twin.heap.split.bytes = [255] := by
  have ended : (small.follow [.allocate 100]).map
        (fun session => (session.heap.ready, session.heap.split.bytes)) = some (false, [0]) ∧
      (littered.follow [.allocate 100]).map (fun session => session.heap.split.bytes) = some [255] := by
    decide +kernel
  obtain ⟨session, ran, same⟩ := Option.map_eq_some_iff.mp ended.1
  obtain ⟨twin, twin_ran, twin_bytes⟩ := Option.map_eq_some_iff.mp ended.2
  obtain ⟨idle, bytes⟩ := Prod.mk.inj same
  exact ⟨session, twin, ran, twin_ran, idle, bytes, twin_bytes⟩

end Session

end Buddy

end Nucleus
