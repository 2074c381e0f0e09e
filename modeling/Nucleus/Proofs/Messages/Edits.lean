import Nucleus.Proofs.Messages.Streams

/-! Reads as edits of the line: a walk that changes or removes the messages of one sender and steps past all others.
Walks for two senders do not notice each other, whatever they do to their own messages. -/
namespace Nucleus.Messages
variable {σ τ : Type} {sender other : Nat}

/-- Walks along a line with a state and edits one sender's messages: each stays, with the payload it is given, or
goes. -/
def edit (sender : Nat) (step : σ → List UInt8 → σ × Option (List UInt8)) : σ → List Message → List Message
  | _, [] => []
  | state, message :: rest =>
    if message.sender ≠ sender then message :: edit sender step state rest
    else
      ((step state message.payload).2.map (Message.mk sender)).toList ++
        edit sender step (step state message.payload).1 rest

section Walk
variable {step : σ → List UInt8 → σ × Option (List UInt8)} {state : σ} {message : Message} {rest line : List Message}

theorem edit_other (apart : message.sender ≠ sender) :
    edit sender step state (message :: rest) = message :: edit sender step state rest := by
  rw [edit, if_pos apart]

theorem edit_same (same : message.sender = sender) :
    edit sender step state (message :: rest) =
      ((step state message.payload).2.map (Message.mk sender)).toList ++
        edit sender step (step state message.payload).1 rest := by
  rw [edit, if_neg (not_not_intro same)]

theorem edit_gone (same : message.sender = sender) (gone : (step state message.payload).2 = none) :
    edit sender step state (message :: rest) = edit sender step (step state message.payload).1 rest := by
  rw [edit_same same, gone]
  rfl

theorem edit_kept (same : message.sender = sender) {payload : List UInt8}
    (kept : (step state message.payload).2 = some payload) :
    edit sender step state (message :: rest) =
      ⟨sender, payload⟩ :: edit sender step (step state message.payload).1 rest := by
  rw [edit_same same, kept]
  rfl

theorem edit_still (still : ∀ payload, step state payload = (state, some payload)) :
    edit sender step state line = line := by
  induction line with
  | nil => rfl
  | cons message rest ih =>
    by_cases same : message.sender = sender
    · subst same
      rw [edit_kept rfl (congrArg Prod.snd (still message.payload)), still, ih]
    · rw [edit_other same, ih]

/-- The sender's messages after the walk are those of a walk among them alone. -/
theorem filter_edit_self :
    (edit sender step state line).filter (·.sender = sender) =
      edit sender step state (line.filter (·.sender = sender)) := by
  induction line generalizing state with
  | nil => rfl
  | cons message rest ih =>
    by_cases same : message.sender = sender
    · rw [List.filter_cons_of_pos (by simpa using same)]
      cases kept : (step state message.payload).2 with
      | none => rw [edit_gone same kept, edit_gone same kept, ih]
      | some payload =>
        rw [edit_kept same kept, edit_kept same kept, List.filter_cons_of_pos (by simp), ih]
    · rw [edit_other same, List.filter_cons_of_neg (by simpa using same),
        List.filter_cons_of_neg (by simpa using same), ih]

/-- Another sender's messages stay as they are and in their order. -/
theorem filter_edit_other (apart : other ≠ sender) :
    (edit sender step state line).filter (·.sender = other) = line.filter (·.sender = other) := by
  induction line generalizing state with
  | nil => rfl
  | cons message rest ih =>
    by_cases same : message.sender = sender
    · have unlisted : message.sender ≠ other := fun own => apart (own.symm.trans same)
      rw [List.filter_cons_of_neg (by simpa using unlisted)]
      cases kept : (step state message.payload).2 with
      | none => rw [edit_gone same kept, ih]
      | some payload =>
        rw [edit_kept same kept, List.filter_cons_of_neg (by simpa using Ne.symm apart), ih]
    · rw [edit_other same, List.filter_cons, List.filter_cons, ih]

end Walk

/-- Walks for two senders can be made in either order. -/
theorem edit_comm (apart : sender ≠ other) (step : σ → List UInt8 → σ × Option (List UInt8))
    (othersStep : τ → List UInt8 → τ × Option (List UInt8)) (state : σ) (othersState : τ) (line : List Message) :
    edit sender step state (edit other othersStep othersState line) =
      edit other othersStep othersState (edit sender step state line) := by
  induction line generalizing state othersState with
  | nil => rfl
  | cons message rest ih =>
    by_cases own : message.sender = sender
    · have passed : message.sender ≠ other := own ▸ apart
      rw [edit_other passed]
      cases kept : (step state message.payload).2 with
      | none => rw [edit_gone own kept, edit_gone own kept, ih]
      | some payload => rw [edit_kept own kept, edit_kept own kept, edit_other apart, ih]
    · rw [edit_other own]
      by_cases foreign : message.sender = other
      · cases kept : (othersStep othersState message.payload).2 with
        | none => rw [edit_gone foreign kept, edit_gone foreign kept, ih]
        | some payload =>
          rw [edit_kept foreign kept, edit_kept foreign kept, edit_other (Ne.symm apart), ih]
      · rw [edit_other foreign, edit_other foreign, edit_other own, ih]

namespace Queue

/-- How a read with room for some bytes edits a payload. -/
def drain : (room : Nat) → List UInt8 → Nat × Option (List UInt8)
  | 0, payload => (0, some payload)
  | room + 1, payload =>
    if payload.length ≤ room + 1 then (room + 1 - payload.length, none) else (0, some (payload.drop (room + 1)))

/-- How a read of one whole message edits a payload, and whether it has been served. -/
def pick : (served : Bool) → List UInt8 → Bool × Option (List UInt8)
  | false, _ => (true, none)
  | true, payload => (true, some payload)

theorem takeFromLine_zero (sender : Nat) (line : List Message) : takeFromLine sender line 0 = ([], line) := by
  cases line <;> rfl

theorem takeFromLine_snd (sender room : Nat) (line : List Message) :
    (takeFromLine sender line room).2 = edit sender drain room line := by
  induction line generalizing room with
  | nil => cases room <;> rfl
  | cons message rest ih =>
    cases room with
    | zero => rw [takeFromLine_zero, edit_still fun _ => rfl]
    | succ room =>
      by_cases same : message.sender = sender
      · by_cases fits : message.payload.length ≤ room + 1
        · have drained : drain (room + 1) message.payload = (room + 1 - message.payload.length, none) :=
            if_pos fits
          rw [takeFromLine_fits rest same fits, edit_gone same (congrArg Prod.snd drained), drained, ih]
        · have drained : drain (room + 1) message.payload = (0, some (message.payload.drop (room + 1))) :=
            if_neg fits
          rw [takeFromLine_cut rest same fits, edit_kept same (congrArg Prod.snd drained), drained,
            edit_still fun _ => rfl, same]
      · rw [takeFromLine_other rest same, edit_other same, ih]

theorem takeFirst_snd (sender : Nat) (line : List Message) :
    (takeFirst sender line).2 = edit sender pick false line := by
  induction line with
  | nil => rfl
  | cons message rest ih =>
    by_cases same : message.sender = sender
    · rw [edit_gone same rfl, takeFirst, if_pos same]
      exact (edit_still fun _ => rfl).symm
    · rw [edit_other same, takeFirst, if_neg same]
      exact congrArg (message :: ·) ih

theorem takeFirst_fst (sender : Nat) (line : List Message) :
    (takeFirst sender line).1 = line.find? (·.sender = sender) := by
  induction line with
  | nil => rfl
  | cons message rest ih =>
    by_cases same : message.sender = sender
    · rw [takeFirst, if_pos same, List.find?_cons_of_pos (by simpa using same)]
    · rw [takeFirst, if_neg same, List.find?_cons_of_neg (by simpa using same), ih]

end Queue

end Nucleus.Messages
