import Nucleus.Proofs.Returns
import Nucleus.Proofs.Words
import Mathlib.Tactic.Common

/-! Word accesses inside a window return, and change the bytes of their own word at most. -/
namespace Nucleus.Window
variable {words : Nat → Prop} {window : Window}

/-- Accesses some words of the window's memory, given by their addresses, and changes no other bytes. -/
structure Touches (words : Nat → Prop) (before : Window) (events : List Event) (after : Window) :
    Prop where
  only_memory : after = { before with memory := after.memory }
  bytes : ∀ addr, (∀ word, words word → addr < word ∨ word + 8 ≤ addr) →
    after.memory.get addr = before.memory.get addr
  within : ∀ event ∈ events, event.Within words

theorem touches_composes (words : Nat → Prop) : Effect.Composes (Touches words) where
  refl _ := ⟨rfl, fun _ _ => rfl, fun _ member => nomatch member⟩
  trans := by
    intro before first middle second after earlier later
    refine ⟨?_, ?_, ?_⟩
    · rw [later.only_memory, earlier.only_memory]
    · intro addr outside
      rw [later.bytes addr outside, earlier.bytes addr outside]
    · intro event member
      rcases List.mem_append.mp member with member | member
      · exact earlier.within event member
      · exact later.within event member

theorem contains_of_inside (fits : window.base + window.capacity < Word.bound) {addr len : Nat}
    (above : window.base ≤ addr) (below : addr + len ≤ window.base + window.capacity) :
    window.contains addr len = .ok true := by
  rw [contains_eq_ok fits]
  simp [above, below]

theorem fetch_returns (fits : window.base + window.capacity < Word.bound) {addr : Nat}
    (above : window.base ≤ addr) (below : addr + 8 ≤ window.base + window.capacity)
    (covered : words addr) :
    Op.Returns (Touches words) (fetch addr) window fun word after =>
      word = window.memory.readWord addr ∧ after = window := by
  refine ⟨_, _, _, run_fetch (contains_of_inside fits above below), ⟨rfl, fun _ _ => rfl, ?_⟩, rfl, rfl⟩
  intro event member
  rw [List.mem_singleton.mp member]
  exact covered

theorem store_returns (fits : window.base + window.capacity < Word.bound) {addr : Nat} (value : Nat)
    (above : window.base ≤ addr) (below : addr + 8 ≤ window.base + window.capacity)
    (covered : words addr) :
    Op.Returns (Touches words) (store addr value) window fun _ after =>
      after = { window with memory := window.memory.writeWord addr value } := by
  refine ⟨_, _, _, run_store value (contains_of_inside fits above below), ⟨rfl, ?_, ?_⟩, rfl⟩
  · intro other outside
    exact Memory.get_writeWord_of_outside _ _ (outside addr covered)
  · intro event member
    rw [List.mem_singleton.mp member]
    exact covered

end Nucleus.Window
