import Nucleus.Op

/-! Operations that return. An effect relates the state before, the events and the state after; effects
that compose are carried from the steps of an operation to the whole. -/
namespace Nucleus

/-- What a run may change and what it leaves behind. -/
abbrev Effect (σ : Type) := σ → List Event → σ → Prop

structure Effect.Composes {σ : Type} (effect : Effect σ) : Prop where
  refl : ∀ state, effect state [] state
  trans : ∀ {before first middle second after},
    effect before first middle → effect middle second after → effect before (first ++ second) after

namespace Op
variable {σ τ α β : Type} {effect : Effect σ} {state : σ}

/-- An operation in two parts ran if the first ran, and then the second. -/
theorem bind_ran {op : Op σ α} {next : α → Op σ β} {events : List Event} {result : β} {after : σ}
    (ran : (op >>= next).run state = (events, .ok (result, after))) :
    ∃ first value middle rest, op.run state = (first, .ok (value, middle)) ∧
      (next value).run middle = (rest, .ok (result, after)) := by
  rw [run_bind] at ran
  rcases opened : op.run state with ⟨first, fault | ⟨value, middle⟩⟩
  · rw [opened] at ran
    cases ran
  · rw [opened, Prod.mk.injEq] at ran
    obtain ⟨-, ran⟩ := ran
    exact ⟨first, value, middle, _, rfl, Prod.ext rfl ran⟩

/-- Where something is seen of the end of a run, the run has ended. -/
theorem ran_of_seen {op : Op σ α} {view : α × σ → β} {seen : β}
    (ended : (op.run state).2.toOption.map view = some seen) :
    ∃ events value after, op.run state = (events, .ok (value, after)) ∧ view (value, after) = seen := by
  rcases ran : op.run state with ⟨events, fault | ⟨value, after⟩⟩
  · rw [ran] at ended
    cases ended
  · rw [ran] at ended
    exact ⟨events, value, after, rfl, Option.some.inj ended⟩

/-- What ran under a lock ran. -/
theorem locked_ran {op : Op σ α} {lock : Lock} {events : List Event} {value : α} {after : σ}
    (ran : (locked lock op).run state = (events, .ok (value, after))) :
    ∃ inner, op.run state = (inner, .ok (value, after)) := by
  obtain ⟨_, _, _, _, took, ran⟩ := bind_ran ran
  cases took
  obtain ⟨inner, _, _, _, ran, left⟩ := bind_ran ran
  obtain ⟨_, _, _, _, dropped, left⟩ := bind_ran left
  cases dropped
  cases left
  exact ⟨inner, ran⟩

/-- Work on a part ran on that part. -/
theorem onPart_ran {part : σ → τ} {put : τ → σ → σ} {op : Op τ α} {events : List Event} {value : α}
    {after : σ} (ran : (onPart part put op).run state = (events, .ok (value, after))) :
    ∃ changed, op.run (part state) = (events, .ok (value, changed)) ∧ after = put changed state := by
  rcases opened : op.run (part state) with ⟨first, fault | ⟨value, changed⟩⟩
  · simp only [Op.run] at opened
    simp only [Op.run, onPart, opened] at ran
    cases ran
  · simp only [Op.run] at opened
    simp only [Op.run, onPart, opened] at ran
    cases ran
    exact ⟨changed, rfl, rfl⟩

/-- Whenever the operation returns, the state after it is in a relation to the state before. -/
def Leaves (relation : σ → σ → Prop) (op : Op σ α) : Prop :=
  ∀ state events value after, op.run state = (events, .ok (value, after)) → relation state after

/-- Relations that carry over from the steps of an operation to the whole. -/
structure Lasting (relation : σ → σ → Prop) : Prop where
  refl : ∀ state, relation state state
  trans : ∀ {before middle after}, relation before middle → relation middle after → relation before after

namespace Leaves
variable {relation : σ → σ → Prop}

theorem pure (lasting : Lasting relation) (value : α) : Leaves relation (Pure.pure value : Op σ α) := by
  intro state events result after ran
  cases ran
  exact lasting.refl state

theorem bind (lasting : Lasting relation) {op : Op σ α} {next : α → Op σ β} (first : Leaves relation op)
    (rest : ∀ value, Leaves relation (next value)) : Leaves relation (op >>= next) := by
  intro state events result after ran
  obtain ⟨_, value, middle, _, ran_first, ran_rest⟩ := bind_ran ran
  exact lasting.trans (first state _ value middle ran_first) (rest value middle _ result after ran_rest)

theorem get (lasting : Lasting relation) : Leaves relation (MonadState.get : Op σ σ) := by
  intro state events result after ran
  cases ran
  exact lasting.refl state

theorem emit (lasting : Lasting relation) (event : Event) : Leaves relation (Op.emit event) := by
  intro state events result after ran
  cases ran
  exact lasting.refl state

theorem mono {op : Op σ α} {weaker : σ → σ → Prop} (leaves : Leaves relation op)
    (weaken : ∀ before after, relation before after → weaker before after) : Leaves weaker op :=
  fun state events value after ran => weaken state after (leaves state events value after ran)

/-- What is answered makes no difference to what is left. -/
theorem of_answer {op : Op σ α} {answer : α → β}
    (leaves : Leaves relation (op >>= fun value => Pure.pure (answer value))) : Leaves relation op := by
  intro state events value after ran
  apply leaves state (events ++ []) (answer value) after
  rw [run_bind_ok state ran, run_pure]

end Leaves

/-- From `state` the operation ends without a fault, and its effect, result and last state are as
described. -/
def Returns (effect : Effect σ) (op : Op σ α) (state : σ) (post : α → σ → Prop) : Prop :=
  ∃ events value after, op.run state = (events, .ok (value, after)) ∧
    effect state events after ∧ post value after

namespace Returns

theorem mono {op : Op σ α} {post weaker : α → σ → Prop} (returns : Returns effect op state post)
    (weaken : ∀ value after, post value after → weaker value after) :
    Returns effect op state weaker := by
  obtain ⟨events, value, after, ran, changed, holds⟩ := returns
  exact ⟨events, value, after, ran, changed, weaken value after holds⟩

theorem widen {larger : Effect σ} {op : Op σ α} {post : α → σ → Prop}
    (returns : Returns effect op state post)
    (allow : ∀ events after, effect state events after → larger state events after) :
    Returns larger op state post := by
  obtain ⟨events, value, after, ran, changed, holds⟩ := returns
  exact ⟨events, value, after, ran, allow events after changed, holds⟩

/-- What the effect says of the last state. -/
theorem remember {op : Op σ α} {post : α → σ → Prop} {fact : σ → Prop}
    (returns : Returns effect op state post)
    (keeps : ∀ events after, effect state events after → fact after) :
    Returns effect op state fun value after => fact after ∧ post value after := by
  obtain ⟨events, value, after, ran, changed, holds⟩ := returns
  exact ⟨events, value, after, ran, changed, keeps events after changed, holds⟩

theorem pure (composes : effect.Composes) {value : α} {post : α → σ → Prop}
    (holds : post value state) : Returns effect (Pure.pure value : Op σ α) state post :=
  ⟨[], value, state, rfl, composes.refl state, holds⟩

theorem bind (composes : effect.Composes) {op : Op σ α} {next : α → Op σ β}
    {between : α → σ → Prop} {post : β → σ → Prop}
    (first : Returns effect op state between)
    (rest : ∀ value after, between value after → Returns effect (next value) after post) :
    Returns effect (op >>= next) state post := by
  obtain ⟨events, value, middle, ran, changed, holds⟩ := first
  obtain ⟨more, result, after, continued, then_changed, done⟩ := rest value middle holds
  refine ⟨events ++ more, result, after, ?_, composes.trans changed then_changed, done⟩
  rw [run_bind_ok state ran, continued]

theorem get_bind {next : σ → Op σ β} {post : β → σ → Prop}
    (rest : Returns effect (next state) state post) :
    Returns effect (get >>= next) state post := rest

theorem check_bind {computed : Except Fault α} {value : α} (ok : computed = .ok value)
    {next : α → Op σ β} {post : β → σ → Prop} (rest : Returns effect (next value) state post) :
    Returns effect ((liftM computed : Op σ α) >>= next) state post := by
  subst ok
  exact rest

theorem check {computed : Except Fault α} {value : α} (composes : effect.Composes)
    (ok : computed = .ok value) {post : α → σ → Prop} (holds : post value state) :
    Returns effect (liftM computed : Op σ α) state post := by
  subst ok
  exact pure composes holds

section Fallible
variable {ε : Type}

theorem fallible_bind (composes : effect.Composes) {op : ExceptT ε (Op σ) α}
    {next : α → ExceptT ε (Op σ) β} {between : Except ε α → σ → Prop} {post : Except ε β → σ → Prop}
    (first : Returns effect op.run state between)
    (ok : ∀ value after, between (.ok value) after → Returns effect (next value).run after post)
    (error : ∀ error after, between (.error error) after → post (.error error) after) :
    Returns effect (op >>= next).run state post := by
  rw [ExceptT.run_bind]
  apply bind composes first
  rintro (failed | value) after holds
  · exact pure composes (error failed after holds)
  · exact ok value after holds

/-- After a step that succeeds, the rest runs. -/
theorem ok_bind (composes : effect.Composes) {op : ExceptT ε (Op σ) α} {next : α → ExceptT ε (Op σ) β}
    {value : α} {between : σ → Prop} {post : Except ε β → σ → Prop}
    (first : Returns effect op.run state fun result after => result = .ok value ∧ between after)
    (rest : ∀ after, between after → Returns effect (next value).run after post) :
    Returns effect (op >>= next).run state post := by
  apply fallible_bind composes first
  · rintro found after ⟨same, holds⟩
    cases same
    exact rest after holds
  · rintro failed after ⟨same, -⟩
    cases same

/-- After a step that fails, nothing runs. -/
theorem error_bind (composes : effect.Composes) {op : ExceptT ε (Op σ) α}
    {next : α → ExceptT ε (Op σ) β} {error : ε} {between : σ → Prop} {post : Except ε β → σ → Prop}
    (first : Returns effect op.run state fun result after => result = .error error ∧ between after)
    (failed : ∀ after, between after → post (.error error) after) :
    Returns effect (op >>= next).run state post := by
  apply fallible_bind composes first
  · rintro found after ⟨same, -⟩
    cases same
  · rintro found after ⟨same, holds⟩
    cases same
    exact failed after holds

theorem tryCatch (composes : effect.Composes) {op : ExceptT ε (Op σ) α}
    {handler : ε → ExceptT ε (Op σ) α} {between post : Except ε α → σ → Prop}
    (first : Returns effect op.run state between)
    (ok : ∀ value after, between (.ok value) after → post (.ok value) after)
    (error : ∀ error after, between (.error error) after → Returns effect (handler error).run after post) :
    Returns effect (ExceptT.run (MonadExcept.tryCatch op handler)) state post := by
  change Returns effect (ExceptT.run op >>= _) state post
  apply bind composes first
  rintro (failed | value) after holds
  · exact error failed after holds
  · exact pure composes (ok value after holds)

theorem lift_bind (composes : effect.Composes) {op : Op σ α} {next : α → ExceptT ε (Op σ) β}
    {between : α → σ → Prop} {post : Except ε β → σ → Prop} (first : Returns effect op state between)
    (rest : ∀ value after, between value after → Returns effect (next value).run after post) :
    Returns effect (ExceptT.run (liftM op >>= next)) state post := by
  have lifted : (ExceptT.run (liftM op >>= next)) = op >>= fun value => (next value).run := by
    rw [ExceptT.run_bind]
    change (Functor.map Except.ok op >>= _) = _
    rw [bind_map_left]
  rw [lifted]
  exact bind composes first rest

theorem run_getThe_bind (next : σ → ExceptT ε (Op σ) β) (state : σ) :
    ExceptT.run (getThe σ >>= next) state = (next state).run state := rfl

theorem getThe_bind {next : σ → ExceptT ε (Op σ) β} {post : Except ε β → σ → Prop}
    (rest : Returns effect (next state).run state post) :
    Returns effect (ExceptT.run (getThe σ >>= next)) state post := rest

theorem set_bind (composes : effect.Composes) {changed : σ} {next : PUnit → ExceptT ε (Op σ) β}
    {post : Except ε β → σ → Prop} (allowed : effect state [] changed)
    (rest : Returns effect (next ()).run changed post) :
    Returns effect (ExceptT.run (set changed >>= next)) state post := by
  obtain ⟨events, value, after, ran, reached, holds⟩ := rest
  exact ⟨events, value, after, ran, composes.trans allowed reached, holds⟩

theorem modify_bind (composes : effect.Composes) {change : σ → σ}
    {next : PUnit → ExceptT ε (Op σ) β} {post : Except ε β → σ → Prop}
    (allowed : effect state [] (change state))
    (rest : Returns effect (next ()).run (change state) post) :
    Returns effect (ExceptT.run (modify change >>= next)) state post := by
  obtain ⟨events, value, after, ran, changed, holds⟩ := rest
  exact ⟨events, value, after, ran, composes.trans allowed changed, holds⟩

theorem lift_check_bind {computed : Except Fault α} {value : α} (ok : computed = .ok value)
    {next : α → ExceptT ε (Op σ) β} {post : Except ε β → σ → Prop}
    (rest : Returns effect (next value).run state post) :
    Returns effect (ExceptT.run (liftM computed >>= next)) state post := by
  subst ok
  exact rest

theorem lift_check (composes : effect.Composes) {computed : Except Fault α} {value : α}
    (ok : computed = .ok value) {post : Except ε α → σ → Prop} (holds : post (.ok value) state) :
    Returns effect (ExceptT.run (liftM computed)) state post := by
  subst ok
  exact pure composes holds

theorem lift (composes : effect.Composes) {op : Op σ α} {between : α → σ → Prop}
    {post : Except ε α → σ → Prop} (returns : Returns effect op state between)
    (ok : ∀ value after, between value after → post (.ok value) after) :
    Returns effect (ExceptT.run (liftM op)) state post := by
  change Returns effect (Functor.map Except.ok op) state post
  rw [map_eq_pure_bind]
  exact bind composes returns fun value after holds => pure composes (ok value after holds)

end Fallible

end Returns

/-- From `state` the operation ends without a fault, whatever it does on the way. -/
abbrev Ends (op : Op σ α) (state : σ) (post : α → σ → Prop) : Prop :=
  Returns (fun _ _ _ => True) op state post

namespace Ends

theorem trivial_composes : Effect.Composes fun (_ : σ) (_ : List Event) (_ : σ) => True :=
  ⟨fun _ => trivial, fun _ _ => trivial⟩

/-- An operation that ends in one way ran in that way. -/
theorem ran {op : Op σ α} {post : α → σ → Prop} (ends : Ends op state post) {events : List Event} {value : α}
    {after : σ} (ran : op.run state = (events, .ok (value, after))) : post value after := by
  obtain ⟨_, _, _, same, -, holds⟩ := ends
  cases ran.symm.trans same
  exact holds

theorem of_run {op : Op σ α} {events : List Event} {value : α} {after : σ} {post : α → σ → Prop}
    (ran : op.run state = (events, .ok (value, after))) (holds : post value after) :
    Ends op state post :=
  ⟨events, value, after, ran, trivial, holds⟩

theorem pure {value : α} {post : α → σ → Prop} (holds : post value state) :
    Ends (Pure.pure value : Op σ α) state post :=
  Returns.pure trivial_composes holds

theorem bind {op : Op σ α} {next : α → Op σ β} {between : α → σ → Prop} {post : β → σ → Prop}
    (first : Ends op state between)
    (rest : ∀ value after, between value after → Ends (next value) after post) :
    Ends (op >>= next) state post :=
  Returns.bind trivial_composes first rest

/-- Work on a part leaves the rest of the state as it was. -/
theorem onPart {part : σ → τ} {put : τ → σ → σ} {op : Op τ α} {post : α → τ → Prop}
    (ends : Ends op (part state) post) :
    Ends (Op.onPart part put op) state
      fun value after => ∃ changed, after = put changed state ∧ post value changed := by
  obtain ⟨events, value, changed, ran, -, holds⟩ := ends
  have whole : (Op.onPart part put op).run state = (events, .ok (value, put changed state)) := by
    simp only [Op.run] at ran
    simp only [Op.onPart, Op.run, ran]
  exact of_run whole ⟨changed, rfl, holds⟩

theorem locked {op : Op σ α} {post : α → σ → Prop} (lock : Lock) (ends : Ends op state post) :
    Ends (Op.locked lock op) state post := by
  obtain ⟨events, value, after, ran, -, holds⟩ := ends
  exact of_run (run_locked state lock ran) holds

end Ends

/-- Whatever the operation returns from `state`, its result and last state are as described. It may stop
instead. -/
structure Gives (op : Op σ α) (state : σ) (post : α → σ → Prop) : Prop where
  ran : ∀ {events value after}, op.run state = (events, .ok (value, after)) → post value after

namespace Gives

/-- What was run. -/
theorem self (op : Op σ α) (state : σ) :
    Gives op state fun value after => ∃ events, op.run state = (events, .ok (value, after)) :=
  ⟨fun ran => ⟨_, ran⟩⟩

theorem mono {op : Op σ α} {post weaker : α → σ → Prop} (gives : Gives op state post)
    (weaken : ∀ value after, post value after → weaker value after) : Gives op state weaker :=
  ⟨fun ran => weaken _ _ (gives.ran ran)⟩

/-- What holds anyway. -/
theorem of_fact {op : Op σ α} {fact : Prop} (holds : fact) : Gives op state fun _ _ => fact := ⟨fun _ => holds⟩

theorem pure {value : α} {post : α → σ → Prop} (holds : post value state) :
    Gives (Pure.pure value : Op σ α) state post := by
  constructor
  intro events result after ran
  cases ran
  exact holds

theorem bind {op : Op σ α} {next : α → Op σ β} {between : α → σ → Prop} {post : β → σ → Prop}
    (first : Gives op state between) (rest : ∀ value after, between value after → Gives (next value) after post) :
    Gives (op >>= next) state post := by
  constructor
  intro events result after ran
  obtain ⟨_, value, middle, _, ran_first, ran_rest⟩ := bind_ran ran
  exact (rest value middle (first.ran ran_first)).ran ran_rest

theorem check {computed : Except Fault α} {post : α → σ → Prop}
    (ok : ∀ value, computed = .ok value → post value state) :
    Gives (liftM computed : Op σ α) state post := by
  constructor
  intro events result after ran
  cases computed with
  | error fault => cases ran
  | ok value =>
    cases ran
    exact ok result rfl

theorem get_bind {next : σ → Op σ β} {post : β → σ → Prop} (rest : Gives (next state) state post) :
    Gives (get >>= next) state post := ⟨rest.ran⟩

theorem check_bind {computed : Except Fault α} {next : α → Op σ β} {post : β → σ → Prop}
    (rest : ∀ value, computed = .ok value → Gives (next value) state post) :
    Gives ((liftM computed : Op σ α) >>= next) state post := by
  cases computed with
  | error fault =>
    constructor
    intro events value after ran
    cases ran
  | ok value => exact ⟨(rest value rfl).ran⟩

section Fallible
variable {ε : Type}

theorem fallible_bind {op : ExceptT ε (Op σ) α} {next : α → ExceptT ε (Op σ) β}
    {between : Except ε α → σ → Prop} {post : Except ε β → σ → Prop} (first : Gives op.run state between)
    (ok : ∀ value after, between (.ok value) after → Gives (next value).run after post)
    (error : ∀ error after, between (.error error) after → post (.error error) after) :
    Gives (op >>= next).run state post := by
  rw [ExceptT.run_bind]
  apply bind first
  rintro (failed | value) after holds
  · exact pure (error failed after holds)
  · exact ok value after holds

theorem tryCatch {op : ExceptT ε (Op σ) α} {handler : ε → ExceptT ε (Op σ) α}
    {between post : Except ε α → σ → Prop} (first : Gives op.run state between)
    (ok : ∀ value after, between (.ok value) after → post (.ok value) after)
    (error : ∀ error after, between (.error error) after → Gives (handler error).run after post) :
    Gives (ExceptT.run (MonadExcept.tryCatch op handler)) state post := by
  change Gives (ExceptT.run op >>= _) state post
  apply bind first
  rintro (failed | value) after holds
  · exact error failed after holds
  · exact pure (ok value after holds)

theorem lift {op : Op σ α} {post : Except ε α → σ → Prop}
    (gives : Gives op state fun value after => post (.ok value) after) :
    Gives (ExceptT.run (liftM op : ExceptT ε (Op σ) α)) state post := by
  change Gives (Functor.map Except.ok op) state post
  rw [map_eq_pure_bind]
  exact bind gives fun value after holds => pure holds

theorem lift_bind {op : Op σ α} {next : α → ExceptT ε (Op σ) β} {between : α → σ → Prop}
    {post : Except ε β → σ → Prop} (first : Gives op state between)
    (rest : ∀ value after, between value after → Gives (next value).run after post) :
    Gives (ExceptT.run (liftM op >>= next)) state post := by
  have lifted : (ExceptT.run (liftM op >>= next)) = op >>= fun value => (next value).run := by
    rw [ExceptT.run_bind]
    change (Functor.map Except.ok op >>= _) = _
    rw [bind_map_left]
  rw [lifted]
  exact bind first rest

theorem getThe_bind {next : σ → ExceptT ε (Op σ) β} {post : Except ε β → σ → Prop}
    (rest : Gives (next state).run state post) : Gives (ExceptT.run (getThe σ >>= next)) state post :=
  ⟨rest.ran⟩

theorem set_bind {changed : σ} {next : PUnit → ExceptT ε (Op σ) β} {post : Except ε β → σ → Prop}
    (rest : Gives (next ()).run changed post) : Gives (ExceptT.run (set changed >>= next)) state post :=
  ⟨rest.ran⟩

theorem modify_bind {change : σ → σ} {next : PUnit → ExceptT ε (Op σ) β} {post : Except ε β → σ → Prop}
    (rest : Gives (next ()).run (change state) post) : Gives (ExceptT.run (modify change >>= next)) state post :=
  ⟨rest.ran⟩

theorem lift_check_bind {computed : Except Fault α} {next : α → ExceptT ε (Op σ) β}
    {post : Except ε β → σ → Prop}
    (rest : ∀ value, computed = .ok value → Gives (next value).run state post) :
    Gives (ExceptT.run (liftM computed >>= next)) state post := by
  cases computed with
  | error fault =>
    constructor
    intro events value after ran
    cases ran
  | ok value => exact rest value rfl

end Fallible

end Gives

end Op

end Nucleus
