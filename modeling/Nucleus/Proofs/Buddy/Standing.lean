import Nucleus.Proofs.Buddy.Attempts
import Nucleus.Proofs.Buddy.Session

/-! How a heap stands that legal actions lead to, wherever its window ends. In a window that does not end at a
word nothing can be stored, so such a heap is never prepared. -/
namespace Nucleus.Buddy

/-- The heap is as it was set up, or an attempt to prepare it has cleared it. -/
inductive Heap.Untouched (geometry : Geometry) (window : Window) (split : BitArray) : Heap → Prop
  | fresh : Untouched geometry window split (Heap.fresh geometry window split)
  | cleared : (Heap.fresh geometry window split).Preparable →
      Untouched geometry window split (Heap.fresh geometry window split).cleared

namespace Heap.Untouched
variable {geometry : Geometry} {window : Window} {split : BitArray} {heap : Heap}

theorem idle (untouched : heap.Untouched geometry window split) : heap.Idle geometry window split.size := by
  cases untouched with
  | fresh => exact idle_fresh _ _ _
  | cleared _ => exact (idle_fresh _ _ _).cleared

theorem preparable (untouched : heap.Untouched geometry window split) (here : heap.Preparable) :
    (Heap.fresh geometry window split).Preparable := by
  cases untouched with
  | fresh => exact here
  | cleared before => exact before

theorem clear (untouched : heap.Untouched geometry window split) (preparable : heap.Preparable) :
    heap.cleared.Untouched geometry window split := by
  have allowed := untouched.preparable preparable
  cases untouched with
  | fresh => exact .cleared allowed
  | cleared _ => exact .cleared allowed

/-- A heap that could be prepared has a site. -/
theorem site (untouched : heap.Untouched geometry window split) (preparable : heap.Preparable)
    (fits : heap.window.base + heap.window.capacity < Word.bound) :
    ∃ site : Site, site.geometry = geometry ∧ site.window = window ∧ site.splitSize = split.size := by
  have allowed := untouched.preparable preparable
  rw [untouched.idle.window] at fits
  exact ⟨⟨geometry, window, split.size, fits, allowed.large, allowed.enough⟩, rfl, rfl, rfl⟩

end Heap.Untouched

namespace Session
variable {geometry : Geometry} {window : Window} {split : BitArray} {session after : Session}
variable {site : Site} {heap last : Heap} {live : List Loan} {book : Book} {action : Action} {request : Nat}
variable {events : List Event}

/-- Nothing was done to the heap yet but to clear it, or it is in service. -/
inductive Stands (geometry : Geometry) (window : Window) (split : BitArray) : Session → Prop
  | idle {heap : Heap} : heap.Untouched geometry window split → Stands geometry window split ⟨heap, []⟩
  | serving {site : Site} {heap : Heap} {live : List Loan} {book : Book} :
      site.geometry = geometry → site.window = window → heap.Serving site live book →
      Stands geometry window split ⟨heap, live⟩

/-- An allocation in a session is one of its heap. -/
theorem allocate_ran (ran : (perform (.allocate request)).run session = (events, .ok ((), after))) :
    ∃ inner result heap, (Heap.allocate request).run session.heap = (inner, .ok (result, heap)) ∧
      after = session.recorded request heap result := by
  rw [perform] at ran
  obtain ⟨_, result, _, _, onHeap_ran, rest⟩ := Op.bind_ran ran
  obtain ⟨heap, acted, rfl⟩ := Op.onPart_ran onHeap_ran
  refine ⟨_, result, heap, acted, ?_⟩
  cases result with
  | ok addr =>
    cases rest
    rfl
  | error error =>
    cases rest
    rfl

/-- What serves a plan is in service. -/
theorem recorded_serves (session : Session) {plan : Except AllocError Block × Book}
    {result : Except AllocError Nat} (served : Heap.Served site session.live request plan result last) :
    ∃ book, last.Serving site (session.recorded request last result).live book := by
  rcases plan with ⟨error | block, book⟩
  · obtain ⟨rfl, serving⟩ := served
    exact ⟨book, serving⟩
  · obtain ⟨rfl, serving⟩ := served
    exact ⟨book, serving⟩

theorem serving_acts (serving : session.heap.Serving site session.live book) (legal : session.Legal action)
    (ran : (perform action).run session = (events, .ok ((), after))) :
    ∃ book, after.heap.Serving site after.live book := by
  cases action with
  | allocate request =>
    obtain ⟨inner, result, heap, acted, rfl⟩ := allocate_ran ran
    by_cases small : request + headerSize ≤ site.geometry.maxBlock
    · obtain ⟨_, _, _, same, -, served⟩ := serving.serves small
      cases acted.symm.trans same
      exact recorded_serves session served
    · have large : session.heap.geometry.maxBlock < request + headerSize := by
        rw [serving.shows.geometry]
        exact Nat.not_le.mp small
      cases acted.symm.trans (Heap.allocate_tooLarge large)
      exact ⟨book, serving⟩
  | release addr =>
    rcases legal with rfl | ⟨loan, member, rfl⟩
    · have positive : ∀ loan ∈ session.live, loan.addr ≠ 0 := fun loan member => by
        rw [(serving.kept loan member).addr]
        exact Nat.succ_ne_zero _
      cases ran.symm.trans (release_nothing session positive)
      exact ⟨book, serving⟩
    · obtain ⟨_, _, _, same, -, -, -, served⟩ := release_serves serving member
      cases ran.symm.trans same
      exact ⟨_, served⟩
  | write addr bytes =>
    obtain ⟨_, same, -, served⟩ := write_serves serving legal
    cases ran.symm.trans same
    exact ⟨book, served⟩

/-- A heap that was prepared comes into service, or its window has no room for the first block. -/
theorem prepared_stands (untouched : heap.Untouched geometry window split) {prepared : Heap}
    {result : Except AllocError Nat} {inner : List Event}
    (small : ¬ heap.geometry.maxBlock < request + headerSize)
    (ran : (Heap.allocate request).run heap = (inner, .ok (result, last)))
    (prepares : Heap.prepare.run heap = (events, .ok (.ok (), prepared))) :
    Stands geometry window split ((⟨heap, []⟩ : Session).recorded request last result) := by
  have idle := untouched.idle
  obtain ⟨preparable, fits⟩ := (Heap.prepare_gives idle.ready).ran prepares
  obtain ⟨site, rfl, rfl, size⟩ := untouched.site preparable fits
  rw [idle.geometry, Nat.not_lt] at small
  rw [← size] at idle
  by_cases granted : linkSize ≤ site.window.ceiling
  · obtain ⟨_, _, _, same, -, served⟩ := idle.serves small granted
    cases ran.symm.trans same
    obtain ⟨book, serving⟩ := recorded_serves ⟨heap, []⟩ served
    exact .serving rfl rfl serving
  · obtain ⟨_, same, -⟩ := idle.refuses (fun _ _ => False) small granted
    cases ran.symm.trans same
    exact .idle (untouched.clear preparable)

theorem allocate_stands (untouched : heap.Untouched geometry window split)
    (ran : (perform (.allocate request)).run ⟨heap, []⟩ = (events, .ok ((), after))) :
    Stands geometry window split after := by
  obtain ⟨inner, result, last, acted, rfl⟩ := allocate_ran ran
  by_cases large : heap.geometry.maxBlock < request + headerSize
  · cases acted.symm.trans (Heap.allocate_tooLarge large)
    exact .idle untouched
  cases (Heap.allocate_attempts request).ran acted with
  | tooLarge _ => exact .idle untouched
  | unprepared _ failed =>
    obtain ⟨-, rfl | ⟨preparable, rfl⟩⟩ := (Heap.prepare_gives untouched.idle.ready).ran failed
    · exact .idle untouched
    · exact .idle (untouched.clear preparable)
  | refused prepares _ _ => exact prepared_stands untouched large acted prepares
  | putBack prepares _ _ _ => exact prepared_stands untouched large acted prepares
  | handed prepares => exact prepared_stands untouched large acted prepares

theorem Stands.acts (stands : Stands geometry window split session) (legal : session.Legal action)
    (ran : (perform action).run session = (events, .ok ((), after))) : Stands geometry window split after := by
  cases stands with
  | serving same_geometry same_window serving =>
    obtain ⟨book, served⟩ := serving_acts serving legal ran
    exact .serving same_geometry same_window served
  | idle untouched =>
    cases action with
    | allocate request => exact allocate_stands untouched ran
    | release addr =>
      rcases legal with rfl | ⟨_, member, -⟩
      · cases ran.symm.trans (release_nothing _ fun _ member => nomatch member)
        exact .idle untouched
      · cases member
    | write addr bytes =>
      obtain ⟨_, member, -⟩ := legal
      cases member

theorem Reached.stands (reached : Reached geometry window split session) :
    Stands geometry window split session := by
  induction reached with
  | start => exact .idle .fresh
  | act _ legal ran stands => exact stands.acts legal ran

theorem Stands.serving_of_ready (stands : Stands geometry window split session)
    (ready : session.heap.ready = true) :
    ∃ site book, site.geometry = geometry ∧ site.window = window ∧
      session.heap.Serving site session.live book := by
  cases stands with
  | idle untouched =>
    rw [untouched.idle.ready] at ready
    cases ready
  | serving same_geometry same_window serving => exact ⟨_, _, same_geometry, same_window, serving⟩

end Session

end Nucleus.Buddy
