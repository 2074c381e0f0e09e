import Nucleus.Buddy.FreeList
import Nucleus.Proofs.Returns

/-! Operations that may stop, but not with a certain fault. Accesses to a window and to the lists in it never stop at an
index past the end of a table. -/
namespace Nucleus

namespace Op
variable {σ α β : Type} {fault : Fault} {state : σ}

/-- From `state` the operation does not stop with a fault, and when it returns, its result and last state are as
described. It may stop with another fault. -/
structure Avoids (fault : Fault) (op : Op σ α) (state : σ) (post : α → σ → Prop) : Prop
    extends Gives op state post where
  stops : ∀ {events}, op.run state ≠ (events, .error fault)

/-- A sequence that stopped did so in its first step or after it. -/
theorem bind_stopped {op : Op σ α} {next : α → Op σ β} {events : List Event}
    (stopped : (op >>= next).run state = (events, .error fault)) :
    op.run state = (events, .error fault) ∨
      ∃ earlier value middle later, op.run state = (earlier, .ok (value, middle)) ∧
        (next value).run middle = (later, .error fault) := by
  rcases ran : op.run state with ⟨earlier, other | ⟨value, middle⟩⟩
  · cases (run_bind_error state ran next).symm.trans stopped
    exact .inl rfl
  · rw [run_bind_ok state ran] at stopped
    exact .inr ⟨earlier, value, middle, _, rfl, Prod.ext rfl (Prod.ext_iff.mp stopped).2⟩

namespace Avoids

theorem of_run {op : Op σ α} {events : List Event} {value : α} {after : σ} {post : α → σ → Prop}
    (ran : op.run state = (events, .ok (value, after))) (holds : post value after) :
    Avoids fault op state post where
  ran same := by
    cases ran.symm.trans same
    exact holds
  stops same := by cases ran.symm.trans same

theorem mono {op : Op σ α} {post weaker : α → σ → Prop} (avoids : Avoids fault op state post)
    (weaken : ∀ value after, post value after → weaker value after) : Avoids fault op state weaker :=
  ⟨avoids.toGives.mono weaken, avoids.stops⟩

/-- What returns stops with no fault at all. -/
theorem of_returns {effect : Effect σ} {op : Op σ α} {post : α → σ → Prop}
    (returns : Returns effect op state post) : Avoids fault op state post := by
  obtain ⟨_, _, _, ran, -, holds⟩ := returns
  exact of_run ran holds

theorem pure {value : α} {post : α → σ → Prop} (holds : post value state) :
    Avoids fault (Pure.pure value : Op σ α) state post := of_run rfl holds

theorem bind {op : Op σ α} {next : α → Op σ β} {between : α → σ → Prop} {post : β → σ → Prop}
    (first : Avoids fault op state between)
    (rest : ∀ value after, between value after → Avoids fault (next value) after post) :
    Avoids fault (op >>= next) state post where
  toGives := first.toGives.bind fun value after holds => (rest value after holds).toGives
  stops stopped := by
    rcases bind_stopped stopped with here | ⟨_, value, middle, _, ran, later⟩
    · exact first.stops here
    · exact (rest value middle (first.ran ran)).stops later

theorem get_bind {next : σ → Op σ β} {post : β → σ → Prop} (rest : Avoids fault (next state) state post) :
    Avoids fault (get >>= next) state post := ⟨.get_bind rest.toGives, rest.stops⟩

theorem check_bind {computed : Except Fault α} {next : α → Op σ β} {post : β → σ → Prop}
    (other : computed ≠ .error fault) (rest : ∀ value, computed = .ok value → Avoids fault (next value) state post) :
    Avoids fault ((liftM computed : Op σ α) >>= next) state post where
  toGives := .check_bind fun value same => (rest value same).toGives
  stops stopped := by
    cases computed with
    | ok value => exact (rest value rfl).stops stopped
    | error fault =>
      cases stopped
      exact other rfl

/-- A step that is known to have succeeded. -/
theorem ok_bind {computed : Except Fault α} {value : α} (ok : computed = .ok value) {next : α → Op σ β}
    {post : β → σ → Prop} (rest : Avoids fault (next value) state post) :
    Avoids fault ((liftM computed : Op σ α) >>= next) state post := by
  subst ok
  exact ⟨⟨rest.ran⟩, rest.stops⟩

theorem check {computed : Except Fault α} {post : α → σ → Prop} (other : computed ≠ .error fault)
    (ok : ∀ value, computed = .ok value → post value state) : Avoids fault (liftM computed : Op σ α) state post := by
  rw [← bind_pure (liftM computed : Op σ α)]
  exact check_bind other fun value same => pure (ok value same)

end Avoids

end Op

theorem bind_ne_index {α β : Type} {computed : Except Fault α} {next : α → Except Fault β}
    (first : computed ≠ .error .index) (rest : ∀ value, next value ≠ .error .index) :
    (computed >>= next) ≠ .error .index := by
  cases computed with
  | ok value => exact rest value
  | error fault => simpa [bind, Except.bind] using first

namespace Word

theorem add_ne_index (a b : Nat) : add a b ≠ .error .index := by
  unfold add
  split <;> simp

theorem sub_ne_index (a b : Nat) : sub a b ≠ .error .index := by
  unfold sub
  split <;> simp

theorem shiftLeft_ne_index (a distance : Nat) : shiftLeft a distance ≠ .error .index := by
  unfold shiftLeft
  split <;> simp

end Word

namespace Window
variable {window : Window}

theorem contains_ne_index (window : Window) (addr len : Nat) : window.contains addr len ≠ .error .index := by
  unfold contains
  split
  · exact bind_ne_index (Word.add_ne_index _ _) fun _ => by simp [pure, Except.pure]
  · simp

/-- Outside the window a fetch stops, though not with an index. -/
theorem fetch_avoids (window : Window) (addr : Nat) :
    (fetch addr).Avoids .index window fun _ _ => True := by
  refine .get_bind (.check_bind (contains_ne_index _ _ _) fun allowed _ => ?_)
  cases allowed with
  | true => exact .of_run rfl trivial
  | false => exact .check (by simp) (by simp)

theorem store_avoids (window : Window) (addr value : Nat) :
    (store addr value).Avoids .index window fun _ _ => True := by
  refine .get_bind (.check_bind (contains_ne_index _ _ _) fun allowed _ => ?_)
  cases allowed with
  | true => exact .of_run rfl trivial
  | false => exact .check (by simp) (by simp)

end Window

namespace Buddy.FreeList

theorem previousLink_avoids (block : Nat) (window : Window) :
    (previousLink block).Avoids .index window fun _ _ => True :=
  .bind (Window.fetch_avoids _ _) fun _ _ _ => .pure trivial

theorem nextLink_avoids (block : Nat) (window : Window) :
    (nextLink block).Avoids .index window fun _ _ => True :=
  .bind (Window.fetch_avoids _ _) fun _ _ _ => .pure trivial

/-- The newest entry may be any word: its link is stored inside the window, or the operation stops there. -/
theorem push_avoids (list : FreeList) (block : Nat) (window : Window) :
    (list.push block).Avoids .index window fun _ _ => True := by
  refine .bind (Window.store_avoids _ _ _) fun _ _ _ => .bind (Window.store_avoids _ _ _) fun _ _ _ => ?_
  cases list.tail with
  | none => exact .check_bind (Word.add_ne_index _ _) fun _ _ => .pure trivial
  | some newest =>
    refine .bind (Window.store_avoids _ _ _) fun _ _ _ => ?_
    exact .check_bind (Word.add_ne_index _ _) fun _ _ => .pure trivial

/-- The links that are read may lead anywhere, but no table is indexed by them. -/
theorem remove_avoids (list : FreeList) (block : Nat) (window : Window) :
    (list.remove block).Avoids .index window fun _ _ => True := by
  have shorter : ∀ (window : Window) (result : Nat → FreeList),
      (do return result (← Word.sub list.length 1) : Op Window FreeList).Avoids .index window fun _ _ => True :=
    fun window result => .check_bind (Word.sub_ne_index _ _) fun _ _ => .pure trivial
  refine .bind (previousLink_avoids _ _) fun before _ _ => .bind (nextLink_avoids _ _) fun behind _ _ => ?_
  cases before with
  | none =>
    cases behind with
    | none => exact shorter _ _
    | some next => exact .bind (Window.store_avoids _ _ _) fun _ _ _ => shorter _ _
  | some previous =>
    refine .bind (Window.store_avoids _ _ _) fun _ _ _ => ?_
    cases behind with
    | none => exact shorter _ _
    | some next => exact .bind (Window.store_avoids _ _ _) fun _ _ _ => shorter _ _

end Buddy.FreeList

end Nucleus
