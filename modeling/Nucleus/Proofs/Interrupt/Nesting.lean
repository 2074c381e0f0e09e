import Nucleus.Proofs.Interrupt.Masking

/-! The interrupt flag is put back. Locks may be dropped in any order: once none is held the flag is as it was before
the first was taken. Among sections that each end before the one around them, those of a lock and those that turn
interrupts off for themselves, interrupts are off from the first beginning to the last end, and each section leaves
everything as it found it. -/
namespace Nucleus.Interrupt
variable {ι : Type}

/-- Once no lock is held the flag is as it was at first. -/
theorem Locks.Traced.enabled_of_free {locks : Locks ι} {enabled : Bool} (traced : locks.Traced enabled)
    (free : locks.guards = []) : locks.switch.enabled = enabled := by
  have unfound : ∀ guard ∈ locks.guards, isSet guard.saved = false := by
    rw [free]
    exact nofun
  rw [Bool.eq_iff_iff, traced.enabled_iff]
  exact and_iff_left unfound

theorem Locks.Traced.stays_off {locks : Locks ι} (traced : locks.Traced false) : locks.switch.enabled = false := by
  rw [← Bool.not_eq_true, traced.enabled_iff]
  rintro ⟨on, -⟩
  cases on

theorem Switch.restore_disable (switch : Switch) : switch.disable.2.restore switch.disable.1 = switch := by
  rcases switch with ⟨_ | _⟩
  · rfl
  · rfl

/-! ### Sections -/

/-- A stretch with interrupts off. -/
inductive Section (ι : Type) where
  /-- From the taking of a lock until its guard is dropped. -/
  | locked (lock : ι)
  /-- From an explicit `disable` until the state it returned is restored. -/
  | explicit
deriving DecidableEq, Repr

inductive Bound (ι : Type) where
  | enter (stretch : Section ι)
  | leave (stretch : Section ι)
deriving DecidableEq, Repr

/-- The sections that are open after some bounds, the latest first, if only the latest is ever left. -/
def nested [DecidableEq ι] (opened : List (Section ι)) : List (Bound ι) → Option (List (Section ι))
  | [] => some opened
  | .enter stretch :: rest => nested (stretch :: opened) rest
  | .leave stretch :: rest =>
    match opened with
    | [] => none
    | latest :: outer => if latest = stretch then nested outer rest else none

/-- The locks, and the states that explicit sections have to restore, the latest first. -/
structure Masking (ι : Type) where
  locks : Locks ι
  saved : List UInt64
deriving DecidableEq, Repr

namespace Masking
variable [DecidableEq ι] {base found masking after : Masking ι} {stretch : Section ι}
variable {opened left : List (Section ι)} {bounds : List (Bound ι)}

def enabled (masking : Masking ι) : Bool := masking.locks.switch.enabled

def enter (masking : Masking ι) : Section ι → Option (Masking ι)
  | .locked lock => (masking.locks.take lock).map fun locks => { masking with locks }
  | .explicit =>
    let (state, switch) := masking.locks.switch.disable
    some ⟨{ masking.locks with switch }, state :: masking.saved⟩

def leave (masking : Masking ι) : Section ι → Option (Masking ι)
  | .locked lock => (masking.locks.handle (.drop lock)).map fun locks => { masking with locks }
  | .explicit =>
    match masking.saved with
    | [] => none
    | state :: saved => some ⟨{ masking.locks with switch := masking.locks.switch.restore state }, saved⟩

def pass (masking : Masking ι) : Bound ι → Option (Masking ι)
  | .enter stretch => masking.enter stretch
  | .leave stretch => masking.leave stretch

/-- What is there after some bounds, if each can be passed. -/
def follow (masking : Masking ι) : List (Bound ι) → Option (Masking ι)
  | [] => some masking
  | bound :: rest => (masking.pass bound).bind fun after => after.follow rest

theorem enabled_enter (entered : found.enter stretch = some masking) : masking.enabled = false := by
  cases stretch with
  | locked lock =>
    obtain ⟨locks, taken, rfl⟩ := Option.map_eq_some_iff.mp entered
    obtain ⟨-, rfl⟩ := Locks.take_eq_some.mp taken
    rfl
  | explicit =>
    cases entered
    rfl

theorem leave_enter (entered : found.enter stretch = some masking) : masking.leave stretch = some found := by
  cases stretch with
  | locked lock =>
    obtain ⟨locks, taken, rfl⟩ := Option.map_eq_some_iff.mp entered
    have held : locks.holds lock = true := by
      obtain ⟨-, rfl⟩ := Locks.take_eq_some.mp taken
      exact Locks.holds_iff.mpr ⟨_, List.mem_cons_self, rfl⟩
    simp only [leave, Locks.handle, held, if_true, Option.map_some, Locks.drop_take taken]
  | explicit =>
    cases entered
    have back : (⟨false⟩ : Switch).restore _ = found.locks.switch := found.locks.switch.restore_disable
    exact congrArg (fun switch => some (⟨{ found.locks with switch }, found.saved⟩ : Masking ι)) back

/-! ### Sections within sections -/

/-- Each open section was entered from a state that can be come back to, and the first of them from `base`. -/
inductive Within (base : Masking ι) : List (Section ι) → Masking ι → Prop where
  | outside : Within base [] base
  | entered {opened : List (Section ι)} {stretch : Section ι} {found masking : Masking ι} :
      Within base opened found → found.enter stretch = some masking → Within base (stretch :: opened) masking

namespace Within

theorem enabled (within : Within base opened masking) (inside : opened ≠ []) : masking.enabled = false := by
  cases within with
  | outside => exact absurd rfl inside
  | entered _ entered => exact enabled_enter entered

theorem leave (within : Within base (stretch :: opened) masking) (left : masking.leave stretch = some after) :
    Within base opened after := by
  cases within with
  | entered outer entered =>
    rw [leave_enter entered] at left
    cases left
    exact outer

theorem follow (within : Within base opened masking) (nests : nested opened bounds = some left)
    (followed : masking.follow bounds = some after) : Within base left after := by
  induction bounds generalizing opened masking with
  | nil =>
    cases nests
    cases followed
    exact within
  | cons bound rest ih =>
    obtain ⟨middle, passed, continued⟩ := Option.bind_eq_some_iff.mp followed
    cases bound with
    | enter stretch => exact ih (within.entered passed) nests continued
    | leave stretch =>
      cases opened with
      | nil => cases nests
      | cons latest outer =>
        -- Only the latest section is left, so the state is the one it was entered from.
        rw [nested] at nests
        split at nests
        · rename_i same
          subst same
          exact ih (within.leave passed) nests continued
        · cases nests

end Within

/-- Whatever free locks are taken and held ones dropped, in whatever order: when none is held the flag is as it was at
first, and a flag that was off at first is never turned on. From any state, with sections of locks and explicit ones
that each end before the one around them: while one is open the flag is off, and when none is, everything is as it was
found. -/
theorem flag_restored :
    (∀ (enabled : Bool) (handlings : List (Handling ι)) (locks : Locks ι),
      (Locks.allFree enabled).follow handlings = some locks →
      (locks.guards = [] → locks.switch.enabled = enabled) ∧ (enabled = false → locks.switch.enabled = false)) ∧
    ∀ (found : Masking ι) (bounds : List (Bound ι)) (opened : List (Section ι)) (after : Masking ι),
      nested [] bounds = some opened → found.follow bounds = some after →
      (opened ≠ [] → after.enabled = false) ∧ (opened = [] → after = found) := by
  constructor
  · intro enabled handlings locks followed
    have traced : locks.Traced enabled := (Locks.Traced.start enabled).follow followed
    constructor
    · exact traced.enabled_of_free
    · rintro rfl
      exact traced.stays_off
  · intro found bounds opened after nests followed
    have within : Within found opened after := Within.outside.follow nests followed
    constructor
    · exact within.enabled
    · rintro rfl
      cases within
      rfl

/-- Interrupts are on although lock 7 is held: they were off when it was taken. -/
def underSeven : Masking Nat := ⟨⟨⟨true⟩, [⟨7, 0⟩]⟩, []⟩

/-- Three locks are dropped out of order, and the flag comes back on. An explicit section that holds a lock and is
itself within a lock leaves interrupts off, and the lock around it turns them on again. -/
theorem flag_restored_out_of_order :
    (∃ locks : Locks Nat,
      (Locks.allFree true).follow [.take 0, .take 1, .take 2, .drop 1, .drop 0, .drop 2] = some locks ∧
        locks.guards = [] ∧ locks.switch.enabled = true) ∧
    (∃ inside, underSeven.follow
        [.enter (.locked 0), .enter .explicit, .enter (.locked 1), .leave (.locked 1), .leave .explicit] =
          some inside ∧ inside.enabled = false) ∧
    ∃ after, underSeven.follow
      [.enter (.locked 0), .enter .explicit, .enter (.locked 1), .leave (.locked 1), .leave .explicit,
        .leave (.locked 0)] = some after ∧ after = underSeven := by
  obtain ⟨any_order, nests⟩ := flag_restored (ι := Nat)
  have dropped : (Locks.allFree true).follow [.take 0, .take 1, .take 2, .drop 1, .drop 0, .drop 2] =
      some (⟨⟨true⟩, []⟩ : Locks Nat) := by decide
  have outer_open : underSeven.follow
      [.enter (.locked 0), .enter .explicit, .enter (.locked 1), .leave (.locked 1), .leave .explicit] =
      some ⟨⟨⟨false⟩, [⟨0, flagBit⟩, ⟨7, 0⟩]⟩, []⟩ := by decide
  have all_left : underSeven.follow
      [.enter (.locked 0), .enter .explicit, .enter (.locked 1), .leave (.locked 1), .leave .explicit,
        .leave (.locked 0)] = some ⟨⟨⟨true⟩, [⟨7, 0⟩]⟩, []⟩ := by decide
  refine ⟨⟨_, dropped, rfl, ?_⟩, ⟨_, outer_open, ?_⟩, ⟨_, all_left, ?_⟩⟩
  · exact (any_order _ _ _ dropped).1 rfl
  · exact (nests _ _ [.locked 0] _ (by decide) outer_open).1 (by decide)
  · exact (nests _ _ [] _ (by decide) all_left).2 rfl

end Masking
end Nucleus.Interrupt
