import Nucleus.Memory.Window

/-! Which bytes a word access reads and writes, and where the accesses of a run lie. -/
namespace Nucleus

/-- A number of bytes is determined by the word they make. -/
theorem Word.eq_of_ofBytes_eq {bytes other : List UInt8} (length : bytes.length = other.length)
    (same : ofBytes bytes = ofBytes other) : bytes = other := by
  induction bytes generalizing other with
  | nil => exact (List.length_eq_zero_iff.mp length.symm).symm
  | cons byte rest ih =>
    cases other with
    | nil => cases length
    | cons first tail =>
      have low := byte.toNat_lt
      have other_low := first.toNat_lt
      simp only [ofBytes, List.foldr_cons] at same
      have head : byte.toNat = first.toNat := by omega
      have rests : ofBytes rest = ofBytes tail := by
        simp only [ofBytes]
        omega
      rw [UInt8.toNat_inj.mp head, ih (Nat.succ.inj length) rests]

namespace Memory

theorem get_writeWord_of_outside (memory : Memory) {addr other : Nat} (value : Nat)
    (outside : other < addr ∨ addr + 8 ≤ other) :
    (memory.writeWord addr value).get other = memory.get other := by
  rw [writeWord, get_write]
  split
  · have past : (Word.toBytes value)[other - addr]? = none := by
      apply List.getElem?_eq_none
      rw [Word.length_toBytes]
      omega
    rw [past, Option.getD_none]
  · rfl

theorem readWord_congr {memory other : Memory} {addr : Nat}
    (same : ∀ i < 8, memory.get (addr + i) = other.get (addr + i)) :
    memory.readWord addr = other.readWord addr := by
  unfold readWord read
  congr 1
  apply List.map_congr_left
  intro i member
  exact same i (List.mem_range.mp member)

theorem readWord_writeWord_of_apart (memory : Memory) {addr other : Nat} (value : Nat)
    (apart : other + 8 ≤ addr ∨ addr + 8 ≤ other) :
    (memory.writeWord addr value).readWord other = memory.readWord other := by
  apply readWord_congr
  intro i inside
  exact get_writeWord_of_outside memory value (by omega)

/-- A word determines its bytes. -/
theorem get_congr {memory other : Memory} {addr place : Nat}
    (same : memory.readWord addr = other.readWord place) {i : Nat} (inside : i < 8) :
    memory.get (addr + i) = other.get (place + i) := by
  have bytes := Word.eq_of_ofBytes_eq (by simp) same
  have byte := congrArg (fun list => list[i]?) bytes
  simpa [read, inside] using byte

end Memory

namespace Event

/-- An access to one of some words, which are given by their addresses. -/
def Within (words : Nat → Prop) : Event → Prop
  | fetched addr => words addr
  | stored addr _ => words addr
  | _ => False

/-- Every access lies below the top of the granted memory as it stands then, and the top only rises;
`last` is the top at the end. -/
def Below : (top : Nat) → List Event → (last : Nat) → Prop
  | top, [], last => last = top
  | top, fetched addr :: rest, last => addr + 8 ≤ top ∧ Below top rest last
  | top, stored addr _ :: rest, last => addr + 8 ≤ top ∧ Below top rest last
  | top, committed granted :: rest, last => top ≤ granted ∧ Below granted rest last
  | top, logged _ :: rest, last => Below top rest last
  | top, took _ :: rest, last => Below top rest last
  | top, dropped _ :: rest, last => Below top rest last
  | top, switched _ _ :: rest, last => Below top rest last

theorem Below.append {top middle last : Nat} {first rest : List Event}
    (before : Below top first middle) (after : Below middle rest last) :
    Below top (first ++ rest) last := by
  induction first generalizing top with
  | nil =>
    cases before
    exact after
  | cons event first ih =>
    cases event with
    | fetched addr => exact ⟨before.1, ih before.2⟩
    | stored addr value => exact ⟨before.1, ih before.2⟩
    | committed granted => exact ⟨before.1, ih before.2⟩
    | logged _ | took _ | dropped _ | switched _ _ => exact ih before

theorem Below.le {top last : Nat} {events : List Event} (below : Below top events last) : top ≤ last := by
  induction events generalizing top with
  | nil =>
    cases below
    exact Nat.le_refl _
  | cons event rest ih =>
    cases event with
    | fetched addr => exact ih below.2
    | stored addr value => exact ih below.2
    | committed granted => exact Nat.le_trans below.1 (ih below.2)
    | logged _ | took _ | dropped _ | switched _ _ => exact ih below

theorem below_of_within {words : Nat → Prop} {top : Nat} {events : List Event}
    (granted : ∀ addr, words addr → addr + 8 ≤ top) (within : ∀ event ∈ events, event.Within words) :
    Below top events top := by
  induction events with
  | nil => rfl
  | cons event rest ih =>
    have tail := ih fun event member => within event (List.mem_cons_of_mem _ member)
    have head := within event List.mem_cons_self
    cases event with
    | fetched addr => exact ⟨granted addr head, tail⟩
    | stored addr value => exact ⟨granted addr head, tail⟩
    | logged _ | took _ | dropped _ | switched _ _ | committed _ => exact head.elim

end Event

namespace Window

/-- Only in a window that ends at a word anything is known to lie inside. -/
theorem fits_of_contains {window : Window} {addr len : Nat} (found : window.contains addr len = .ok true) :
    window.base + window.capacity < Word.bound := by
  refine Decidable.byContradiction fun large => ?_
  unfold contains top Word.add at found
  rw [if_neg large] at found
  split at found <;> cases found

/-- How many bytes from its base on a window will ever grant. -/
def ceiling (window : Window) : Nat :=
  match window.grant with
  | .all => window.capacity
  | .upTo limit _ => limit

/-- The windows that can be set up, over any bytes. -/
inductive Built : Window → Prop
  | raw (base capacity : Nat) : Built (raw base capacity)
  | buffer (base bytes : Nat) : Built (buffer base bytes)
  | withLimit {window : Window} (limit : Nat) : Built window → Built (window.withLimit limit)
  | withMemory {window : Window} (memory : Memory) : Built window → Built { window with memory }

theorem Built.ceiling_le {window : Window} (built : window.Built) : window.ceiling ≤ window.capacity := by
  induction built with
  | raw base capacity => exact Nat.le_refl _
  | buffer base bytes =>
    change bytes ≤ (bytes + 7) / 8 * 8
    omega
  | @withLimit window limit _ ih =>
    cases granted : window.grant with
    | all => simpa only [Window.withLimit, granted] using ih
    | upTo old reserved =>
      simp only [Window.withLimit, granted, ceiling]
      exact Nat.min_le_right _ _
  | withMemory _ _ ih => exact ih

theorem Built.reserved {window : Window} (built : window.Built) : ∀ size ∈ window.reserved?, size = 0 := by
  induction built with
  | raw base capacity =>
    intro size some
    cases some
  | buffer base bytes =>
    intro size some
    cases some
    rfl
  | @withLimit window limit _ ih =>
    cases granted : window.grant with
    | all => simpa only [Window.withLimit, granted] using ih
    | upTo old reserved => simpa only [Window.withLimit, reserved?, granted] using ih
  | withMemory _ _ ih => exact ih

/-- Memory up to a granted top counts as reserved. -/
def reserving (window : Window) (last : Nat) : Window :=
  match window.grant with
  | .all => window
  | .upTo limit reserved => { window with grant := .upTo limit (max reserved (last - window.base)) }

/-- What counts as reserved in a window that started with nothing reserved. -/
theorem Built.reserved_reserving {window : Window} (built : window.Built) (last : Nat) :
    (window.reserving last).reserved? = window.reserved?.map fun _ => last - window.base := by
  have start := built.reserved
  unfold reserving reserved? at *
  cases granted : window.grant with
  | all => simp [granted]
  | upTo limit reserved =>
    rw [granted] at start
    simp [start reserved rfl]

theorem reserving_nothing (window : Window) : window.reserving window.base = window := by
  obtain ⟨base, capacity, grant, bytes⟩ := window
  cases grant <;> simp [reserving]

theorem reserving_withMemory (window : Window) (memory : Memory) (last : Nat) :
    ({ window with memory } : Window).reserving last = { window.reserving last with memory } := by
  obtain ⟨base, capacity, grant, bytes⟩ := window
  cases grant <;> rfl

theorem reserving_reserving (window : Window) {first last : Nat} (order : first ≤ last) :
    (window.reserving first).reserving last = window.reserving last := by
  unfold reserving
  cases granted : window.grant with
  | all => simp [granted]
  | upTo limit reserved =>
    simp only [Window.mk.injEq, Grant.upTo.injEq, true_and, and_true]
    omega

theorem reserve_eq {window : Window} (fits : window.base + window.capacity < Word.bound) {last : Nat}
    (above : window.base ≤ last) :
    window.reserve last =
      .ok (if last ≤ window.base + window.ceiling then (true, window.reserving last)
        else (false, window)) := by
  unfold reserve ceiling reserving
  cases window.grant with
  | all =>
    simp only [top, Word.add_eq_ok fits, bind, Except.bind, pure, Except.pure]
    split <;> simp_all
  | upTo limit reserved =>
    have low : ¬ last < window.base := by omega
    simp only [if_neg low]
    split <;> rename_i denied
    · rw [if_neg (by omega)]
    · rw [if_pos (by omega)]

/-- A window that grants everything up to some address does not end before it. -/
theorem le_ceiling_of_grants {window : Window} (fits : window.base + window.capacity < Word.bound)
    {size : Nat} (grants : ∃ after, window.reserve (window.base + size) = .ok (true, after)) :
    size ≤ window.ceiling := by
  obtain ⟨after, granted⟩ := grants
  rw [reserve_eq fits (Nat.le_add_right _ _)] at granted
  split at granted
  · omega
  · cases granted

@[simp] theorem reserving_base (window : Window) (last : Nat) :
    (window.reserving last).base = window.base := by
  unfold reserving
  split <;> rfl

@[simp] theorem reserving_capacity (window : Window) (last : Nat) :
    (window.reserving last).capacity = window.capacity := by
  unfold reserving
  split <;> rfl

@[simp] theorem reserving_memory (window : Window) (last : Nat) :
    (window.reserving last).memory = window.memory := by
  unfold reserving
  split <;> rfl

@[simp] theorem reserving_ceiling (window : Window) (last : Nat) :
    (window.reserving last).ceiling = window.ceiling := by
  unfold reserving ceiling
  cases granted : window.grant <;> simp [granted]

end Window

end Nucleus
