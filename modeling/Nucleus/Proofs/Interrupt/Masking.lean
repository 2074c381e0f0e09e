import Mathlib.Data.List.Nodup
import Nucleus.Interrupt.Locks

/-! Whether interrupts are off while locks are held. A guard turns them on when it is dropped if it found them on, so
of a flag that was on there is one trace at any time: the flag itself, or one guard. Interrupts are off under a held
lock as long as that guard is held, which is so when guards are dropped last taken first. -/
namespace Nucleus.Interrupt

theorem isSet_flagBit : isSet flagBit = true := by decide

theorem isSet_zero : isSet 0 = false := by decide

namespace Locks
variable {ι : Type} {locks after : Locks ι} {lock : ι} {guard : Guard ι} {enabled : Bool}

/-- What keeps interrupts on or will turn them on again: the flag, and each guard that found it on. -/
def traces (locks : Locks ι) : Nat :=
  (if locks.switch.enabled then 1 else 0) + locks.guards.countP fun guard => isSet guard.saved

/-- Every lock has one guard at most, and of a flag that was on there is one trace. -/
structure Traced (enabled : Bool) (locks : Locks ι) : Prop where
  nodup : (locks.guards.map Guard.lock).Nodup
  traces : locks.traces = if enabled then 1 else 0

theorem Traced.start (enabled : Bool) : (allFree enabled : Locks ι).Traced enabled where
  nodup := List.nodup_nil
  traces := rfl

/-- Interrupts are on if they were at first and no guard that is held found them on. -/
theorem Traced.enabled_iff (traced : locks.Traced enabled) :
    locks.switch.enabled = true ↔ enabled = true ∧ ∀ guard ∈ locks.guards, isSet guard.saved = false := by
  have unfound : (∀ guard ∈ locks.guards, isSet guard.saved = false) ↔
      locks.guards.countP (fun guard => isSet guard.saved) = 0 := by
    simp only [List.countP_eq_zero, Bool.not_eq_true]
  have total := traced.traces
  rw [Locks.traces] at total
  rw [unfound]
  cases enabled with
  | false =>
    simp only [Bool.false_eq_true, if_false] at total ⊢
    split at total <;> simp_all
  | true =>
    simp only [if_true] at total
    split at total <;> simp_all

/-- Interrupts are off under a held lock, and only the guard that was taken first may have found them on. -/
structure Masked (locks : Locks ι) : Prop where
  off : locks.guards ≠ [] → locks.switch.enabled = false
  later : ∀ guard ∈ locks.guards.dropLast, isSet guard.saved = false

theorem Masked.start (enabled : Bool) : (allFree enabled : Locks ι).Masked where
  off held := absurd rfl held
  later := nofun

variable [DecidableEq ι]

/-! ### One lock -/

theorem holds_iff : locks.holds lock = true ↔ ∃ guard ∈ locks.guards, guard.lock = lock := by
  simp only [holds, List.any_eq_true, decide_eq_true_iff]

theorem take_eq_some : locks.take lock = some after ↔ locks.holds lock = false ∧
    after = ⟨⟨false⟩, ⟨lock, if locks.switch.enabled then flagBit else 0⟩ :: locks.guards⟩ := by
  unfold take
  cases locks.holds lock with
  | true => simp
  | false =>
    simp only [Switch.disable, Bool.false_eq_true, if_false, Option.some.injEq, true_and]
    exact eq_comm

/-- The guard on a lock is dropped from wherever it stands, if no other stands for the same lock. -/
theorem drop_split {front back : List (Guard ι)} (split : locks.guards = front ++ guard :: back)
    (others : ∀ other ∈ front ++ back, other.lock ≠ guard.lock) :
    locks.drop guard.lock = ⟨locks.switch.restore guard.saved, front ++ back⟩ := by
  have ahead : front.find? (·.lock = guard.lock) = none := by
    rw [List.find?_eq_none]
    intro other member
    simp [others other (List.mem_append_left back member)]
  have found : locks.guards.find? (·.lock = guard.lock) = some guard := by
    rw [split, List.find?_append, ahead]
    simp
  have kept : locks.guards.filter (·.lock ≠ guard.lock) = front ++ back := by
    rw [split, List.filter_append, List.filter_cons_of_neg (by simp), ← List.filter_append, List.filter_eq_self]
    exact fun other member => decide_eq_true (others other member)
  simp only [drop, found, kept]

/-- A lock that is dropped as soon as it is taken leaves no trace. -/
theorem drop_take (taken : locks.take lock = some after) : after.drop lock = locks := by
  obtain ⟨free, rfl⟩ := take_eq_some.mp taken
  let guard : Guard ι := ⟨lock, if locks.switch.enabled then flagBit else 0⟩
  have split : guard :: locks.guards = [] ++ guard :: locks.guards := rfl
  have others : ∀ other ∈ [] ++ locks.guards, other.lock ≠ guard.lock := by
    intro other member same
    rw [holds_iff.mpr ⟨other, member, same⟩] at free
    cases free
  refine (drop_split split others).trans ?_
  rcases locks with ⟨⟨_ | _⟩, guards⟩
  · simp [guard, Switch.restore, isSet_zero]
  · simp [guard, Switch.restore, isSet_flagBit, Switch.enable]

theorem Traced.take (traced : locks.Traced enabled) (taken : locks.take lock = some after) :
    after.Traced enabled := by
  obtain ⟨free, rfl⟩ := take_eq_some.mp taken
  constructor
  · rw [List.map_cons, List.nodup_cons]
    refine ⟨?_, traced.nodup⟩
    intro member
    obtain ⟨guard, there, same⟩ := List.mem_map.mp member
    rw [holds_iff.mpr ⟨guard, there, same⟩] at free
    cases free
  · rw [← traced.traces, Locks.traces, Locks.traces]
    cases locks.switch.enabled with
    | true => simp [isSet_flagBit, Nat.add_comm]
    | false => simp [isSet_zero]

/-- The guard on a held lock is the only one. -/
theorem Traced.split (traced : locks.Traced enabled) (held : locks.holds lock = true) :
    ∃ front guard back, guard.lock = lock ∧ locks.guards = front ++ guard :: back ∧
      ∀ other ∈ front ++ back, other.lock ≠ guard.lock := by
  obtain ⟨guard, member, same⟩ := holds_iff.mp held
  obtain ⟨front, back, split⟩ := List.append_of_mem member
  have nodup := traced.nodup
  rw [split, List.map_append, List.map_cons, List.nodup_middle, List.nodup_cons, ← List.map_append] at nodup
  refine ⟨front, guard, back, same, split, ?_⟩
  intro other there alike
  exact nodup.1 (alike ▸ List.mem_map_of_mem there)

theorem Traced.drop (traced : locks.Traced enabled) (held : locks.holds lock = true) :
    (locks.drop lock).Traced enabled := by
  obtain ⟨front, guard, back, rfl, split, others⟩ := traced.split held
  have nodup := traced.nodup
  have before := traced.traces
  rw [drop_split split others]
  constructor
  · rw [split] at nodup
    exact nodup.sublist (((List.sublist_cons_self guard back).append_left front).map Guard.lock)
  · simp only [Locks.traces, split, List.countP_append, List.countP_cons] at before ⊢
    cases set : isSet guard.saved with
    | false => simpa [set, Switch.restore] using before
    | true =>
      -- The trace is with the guard, so the flag is off.
      simp only [set, if_true, Switch.restore, Switch.enable] at before ⊢
      cases enabled <;> simp only [Bool.false_eq_true, if_false, if_true] at before ⊢ <;> omega

/-! ### Many locks -/

end Locks

/-- What is done with locks: a free one is taken, a guard is dropped. -/
inductive Handling (ι : Type) where
  | take (lock : ι)
  | drop (lock : ι)
deriving DecidableEq, Repr

namespace Locks
variable {ι : Type} [DecidableEq ι] {locks after : Locks ι} {lock : ι} {guard : Guard ι} {enabled : Bool}
variable {handling : Handling ι} {handlings : List (Handling ι)}

def handle (locks : Locks ι) : Handling ι → Option (Locks ι)
  | .take lock => locks.take lock
  | .drop lock => if locks.holds lock then some (locks.drop lock) else none

/-- The locks after some handlings, if each is possible. -/
def follow (locks : Locks ι) : List (Handling ι) → Option (Locks ι)
  | [] => some locks
  | handling :: rest => (locks.handle handling).bind fun after => after.follow rest

/-- Each guard that is dropped is the one that was taken last. -/
def LastFirst (locks : Locks ι) : List (Handling ι) → Prop
  | [] => True
  | handling :: rest =>
    (∀ lock, handling = .drop lock → ∃ guard ∈ locks.guards.head?, guard.lock = lock) ∧
    ∀ after ∈ locks.handle handling, after.LastFirst rest

theorem handle_drop (handled : locks.handle (.drop lock) = some after) :
    locks.holds lock = true ∧ after = locks.drop lock := by
  rw [handle] at handled
  split at handled
  · rename_i held
    cases handled
    exact ⟨held, rfl⟩
  · cases handled

theorem Traced.handle (traced : locks.Traced enabled) (handled : locks.handle handling = some after) :
    after.Traced enabled := by
  cases handling with
  | take lock => exact traced.take handled
  | drop lock =>
    obtain ⟨held, rfl⟩ := handle_drop handled
    exact traced.drop held

theorem Traced.follow (traced : locks.Traced enabled) (followed : locks.follow handlings = some after) :
    after.Traced enabled := by
  induction handlings generalizing locks with
  | nil =>
    cases followed
    exact traced
  | cons handling rest ih =>
    obtain ⟨middle, handled, followed⟩ := Option.bind_eq_some_iff.mp followed
    exact ih (traced.handle handled) followed

namespace Masked

theorem take (masked : locks.Masked) (taken : locks.take lock = some after) : after.Masked := by
  obtain ⟨-, rfl⟩ := take_eq_some.mp taken
  constructor
  · exact fun _ => rfl
  · cases held : locks.guards with
    | nil => exact nofun
    | cons first rest =>
      have off : locks.switch.enabled = false := masked.off (by simp [held])
      intro guard member
      simp only [off, Bool.false_eq_true, if_false, List.dropLast_cons_cons, List.mem_cons] at member
      rcases member with rfl | member
      · exact isSet_zero
      · apply masked.later
        rw [held]
        exact member

/-- The guard that was taken last turns interrupts on only if it is the only one. -/
theorem drop_last {rest : List (Guard ι)} (masked : locks.Masked) (latest : locks.guards = guard :: rest)
    (others : ∀ other ∈ rest, other.lock ≠ guard.lock) : (locks.drop guard.lock).Masked := by
  have split : locks.guards = [] ++ guard :: rest := latest
  rw [drop_split split others, List.nil_append]
  cases rest with
  | nil => exact ⟨fun held => absurd rfl held, nofun⟩
  | cons second more =>
    have later := masked.later
    rw [latest, List.dropLast_cons_cons] at later
    have unset : isSet guard.saved = false := later guard List.mem_cons_self
    constructor
    · intro _
      simp only [Switch.restore, unset, Bool.false_eq_true, if_false]
      exact masked.off (by simp [latest])
    · exact fun other member => later other (List.mem_cons_of_mem guard member)

theorem handle (masked : locks.Masked) (traced : locks.Traced enabled)
    (last : ∀ lock, handling = .drop lock → ∃ guard ∈ locks.guards.head?, guard.lock = lock)
    (handled : locks.handle handling = some after) : after.Masked := by
  cases handling with
  | take lock => exact masked.take handled
  | drop lock =>
    obtain ⟨guard, first, rfl⟩ := last lock rfl
    obtain ⟨-, rfl⟩ := handle_drop handled
    obtain ⟨rest, latest⟩ := List.head?_eq_some_iff.mp first
    apply masked.drop_last latest
    have nodup := traced.nodup
    rw [latest, List.map_cons, List.nodup_cons] at nodup
    intro other member same
    exact nodup.1 (same ▸ List.mem_map_of_mem member)

theorem follow (masked : locks.Masked) (traced : locks.Traced enabled) (last : locks.LastFirst handlings)
    (followed : locks.follow handlings = some after) : after.Masked := by
  induction handlings generalizing locks with
  | nil =>
    cases followed
    exact masked
  | cons handling rest ih =>
    obtain ⟨middle, handled, followed⟩ := Option.bind_eq_some_iff.mp followed
    obtain ⟨first, later⟩ := last
    exact ih (masked.handle traced first handled) (traced.handle handled) (later middle handled) followed

end Masked

/-- Whatever locks are taken and dropped, in whatever order: interrupts are on exactly if they were on at first and no
guard that is held found them on. So while a lock is held they are off as long as the guard that found them on is
held; dropping that guard turns them on, whatever locks are still held, and dropping another does not. They are off
under every held lock if each guard that is dropped is the one that was taken last, or if they were off at first. -/
theorem enabled_under_locks (enabled : Bool) (handlings : List (Handling ι)) (locks : Locks ι)
    (followed : (allFree enabled).follow handlings = some locks) :
    (locks.switch.enabled = true ↔ enabled = true ∧ ∀ guard ∈ locks.guards, isSet guard.saved = false) ∧
    (locks.switch.enabled = false → ∀ guard ∈ locks.guards,
      ((locks.drop guard.lock).switch.enabled = true ↔ isSet guard.saved = true)) ∧
    ((allFree enabled : Locks ι).LastFirst handlings ∨ enabled = false → locks.guards ≠ [] →
      locks.switch.enabled = false) := by
  have traced : locks.Traced enabled := (Traced.start enabled).follow followed
  refine ⟨traced.enabled_iff, ?_, ?_⟩
  · intro off guard member
    obtain ⟨front, other, back, same, split, others⟩ := traced.split (holds_iff.mpr ⟨guard, member, rfl⟩)
    have found : other = guard := by
      by_contra different
      rw [split] at member
      rcases List.mem_append.mp member with ahead | behind
      · exact others guard (List.mem_append_left back ahead) same.symm
      · rcases List.mem_cons.mp behind with rfl | behind
        · exact different rfl
        · exact others guard (List.mem_append_right front behind) same.symm
    subst found
    rw [drop_split split others]
    cases set : isSet other.saved with
    | true => simp [Switch.restore, set, Switch.enable]
    | false => simp [Switch.restore, set, off]
  · rintro (last | rfl) held
    · exact ((Masked.start enabled).follow (Traced.start enabled) last followed).off held
    · rw [← Bool.not_eq_true, traced.enabled_iff]
      rintro ⟨on, -⟩
      cases on

/-- Three locks are taken, two are dropped and one of these is taken again. -/
theorem masked_when_nested : ∃ locks : Locks Nat,
    (allFree true).follow [.take 0, .take 1, .take 2, .drop 2, .drop 1, .take 2] = some locks ∧
      locks.guards ≠ [] ∧ locks.switch.enabled = false := by
  refine ⟨_, rfl, by decide, ?_⟩
  obtain ⟨-, -, nested⟩ := enabled_under_locks true [.take 0, .take 1, .take 2, .drop 2, .drop 1, .take 2] _ rfl
  refine nested (.inl ?_) (by decide)
  simp [LastFirst, handle, take, holds, allFree, drop, Switch.disable, Switch.restore]

/-- Of two locks the one that was taken first is dropped first, and interrupts come on under the other. -/
theorem enabled_under_second_lock : ∃ locks : Locks Nat,
    (allFree true).follow [.take 0, .take 1, .drop 0] = some locks ∧
      locks.holds 1 = true ∧ locks.switch.enabled = true :=
  ⟨_, rfl, by decide, by decide⟩

end Locks
end Nucleus.Interrupt
