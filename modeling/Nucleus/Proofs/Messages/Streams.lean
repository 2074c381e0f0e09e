import Nucleus.Messages.Queue

/-! The bytes each sender has queued, what is taken of them, and the waits that they fall short of. -/
namespace Nucleus.Messages

/-- A sender's bytes in a line of messages, oldest first. -/
def stream (sender : Nat) (line : List Message) : List UInt8 :=
  (line.filter (·.sender = sender)).flatMap Message.payload

variable {sender target total wanted : Nat} {message : Message} {line : List Message}

@[simp] theorem stream_nil : stream sender [] = [] := rfl

theorem stream_cons_same (same : message.sender = sender) :
    stream sender (message :: line) = message.payload ++ stream sender line := by
  simp [stream, same]

theorem stream_cons_other (other : message.sender ≠ sender) :
    stream sender (message :: line) = stream sender line := by
  simp [stream, other]

theorem stream_cons : stream sender (message :: line) =
    (if message.sender = sender then message.payload else []) ++ stream sender line := by
  by_cases same : message.sender = sender
  · rw [stream_cons_same same, if_pos same]
  · rw [stream_cons_other same, if_neg same, List.nil_append]

theorem stream_append (later : List Message) :
    stream sender (line ++ later) = stream sender line ++ stream sender later := by
  simp only [stream, List.filter_append, List.flatMap_append]

namespace Queue
variable {queue : Queue} {wait : Wait}

/-- Stopping early does not change which targets are met. -/
theorem le_countFrom_iff :
    target ≤ countFrom sender target line total ↔ target ≤ total + (stream sender line).length := by
  induction line generalizing total with
  | nil => rfl
  | cons message rest ih =>
    by_cases same : message.sender = sender
    · rw [stream_cons_same same, List.length_append, countFrom, if_neg (not_not_intro same)]
      split
      · omega
      · rw [ih]
        omega
    · rw [stream_cons_other same, countFrom, if_pos same, ih]

theorem offers_iff :
    queue.offers sender wanted = true ↔ wanted ≤ (stream sender queue.messages).length := by
  rw [offers, decide_eq_true_iff, bytesFrom, le_countFrom_iff, Nat.zero_add]

theorem not_offers_iff :
    ¬queue.offers sender wanted = true ↔ (stream sender queue.messages).length < wanted := by
  rw [offers_iff, Nat.not_le]

/-! ### What is taken of a line -/

section Take
variable {room : Nat} (rest : List Message)

theorem takeFromLine_fits (same : message.sender = sender) (fits : message.payload.length ≤ room + 1) :
    takeFromLine sender (message :: rest) (room + 1) =
      (message.payload ++ (takeFromLine sender rest (room + 1 - message.payload.length)).1,
        (takeFromLine sender rest (room + 1 - message.payload.length)).2) := by
  simp [takeFromLine, same, fits]

theorem takeFromLine_cut (same : message.sender = sender) (long : ¬message.payload.length ≤ room + 1) :
    takeFromLine sender (message :: rest) (room + 1) =
      (message.payload.take (room + 1),
        { message with payload := message.payload.drop (room + 1) } :: rest) := by
  simp [takeFromLine, same, long]

theorem takeFromLine_other (other : message.sender ≠ sender) :
    takeFromLine sender (message :: rest) (room + 1) =
      ((takeFromLine sender rest (room + 1)).1, message :: (takeFromLine sender rest (room + 1)).2) := by
  simp [takeFromLine, other]

end Take

/-- What is taken of a line is the start of the sender's bytes; the other senders keep theirs. -/
theorem stream_takeFromLine (sender other room : Nat) (line : List Message) :
    stream other line = (if sender = other then (takeFromLine sender line room).1 else []) ++
      stream other (takeFromLine sender line room).2 := by
  induction line generalizing room with
  | nil => cases room <;> simp [takeFromLine]
  | cons message rest ih =>
    cases room with
    | zero => simp [takeFromLine]
    | succ room =>
      by_cases same : message.sender = sender
      · subst same
        by_cases fits : message.payload.length ≤ room + 1
        · rw [takeFromLine_fits rest rfl fits, stream_cons, ih (room + 1 - message.payload.length)]
          by_cases own : message.sender = other <;> simp [own]
        · rw [takeFromLine_cut rest rfl fits, stream_cons, stream_cons, ← List.append_assoc]
          by_cases own : message.sender = other <;> simp [own]
      · rw [takeFromLine_other rest same, stream_cons, stream_cons, ih (room + 1)]
        by_cases own : message.sender = other
        · have others : sender ≠ other := fun equal => same (own.trans equal.symm)
          simp [others]
        · simp [own]

/-- As much is taken as there is room for, if there is as much. -/
theorem takeFromLine_fst (sender room : Nat) (line : List Message) :
    (takeFromLine sender line room).1 = (stream sender line).take room := by
  induction line generalizing room with
  | nil => cases room <;> simp [takeFromLine]
  | cons message rest ih =>
    cases room with
    | zero => simp [takeFromLine]
    | succ room =>
      by_cases same : message.sender = sender
      · rw [stream_cons_same same, List.take_append]
        by_cases fits : message.payload.length ≤ room + 1
        · rw [takeFromLine_fits rest same fits, List.take_of_length_le fits, ih]
        · have none_left : room + 1 - message.payload.length = 0 := by omega
          rw [takeFromLine_cut rest same fits, none_left, List.take_zero, List.append_nil]
      · rw [takeFromLine_other rest same, stream_cons_other same, ih]

theorem stream_rest (sender room : Nat) (line : List Message) :
    stream sender (takeFromLine sender line room).2 = (stream sender line).drop room := by
  have parts := stream_takeFromLine sender sender room line
  rw [if_pos rfl, takeFromLine_fst] at parts
  apply @List.append_cancel_left _ ((stream sender line).take room)
  rw [List.take_append_drop, ← parts]

/-- The messages of the other senders stay as they are and in their order. -/
theorem others_takeFromLine (sender room : Nat) (line : List Message) :
    (takeFromLine sender line room).2.filter (·.sender ≠ sender) = line.filter (·.sender ≠ sender) := by
  induction line generalizing room with
  | nil => cases room <;> rfl
  | cons message rest ih =>
    cases room with
    | zero => rfl
    | succ room =>
      by_cases same : message.sender = sender
      · by_cases fits : message.payload.length ≤ room + 1
        · rw [takeFromLine_fits rest same fits, ih]
          simp [same]
        · rw [takeFromLine_cut rest same fits]
          simp [same]
      · rw [takeFromLine_other rest same, List.filter_cons_of_pos (by simpa using same), ih,
          List.filter_cons_of_pos (by simpa using same)]

theorem stream_takeFirst (sender other : Nat) (line : List Message)
    (found : (takeFirst sender line).1 = some message) :
    stream other line = (if sender = other then message.payload else []) ++
      stream other (takeFirst sender line).2 := by
  induction line with
  | nil => cases found
  | cons first rest ih =>
    by_cases same : first.sender = sender
    · subst same
      simp only [takeFirst, if_true, Option.some.injEq] at found ⊢
      subst found
      exact stream_cons
    · simp only [takeFirst, if_neg same] at found ⊢
      rw [stream_cons, stream_cons, ih found]
      by_cases own : first.sender = other
      · have others : sender ≠ other := fun equal => same (own.trans equal.symm)
        simp [others]
      · simp [own]

theorem takeFirst_none {line : List Message} (missing : (takeFirst sender line).1 = none) :
    (takeFirst sender line).2 = line := by
  induction line with
  | nil => rfl
  | cons first rest ih =>
    by_cases same : first.sender = sender
    · simp only [takeFirst, if_pos same] at missing
      cases missing
    · simp only [takeFirst, if_neg same] at missing ⊢
      rw [ih missing]

/-! ### Waiting -/

/-- Whatever the owner waits for, the queue holds less. -/
def Short (queue : Queue) : Prop :=
  ∀ wait, queue.waiting = some wait → (stream wait.sender queue.messages).length < wait.required

/-- The bytes of a wait are there and the wait is over. -/
structure Completed (queue : Queue) (wait : Wait) : Prop where
  ended : queue.waiting = none
  enough : wait.required ≤ (stream wait.sender queue.messages).length

theorem Completed.append {longer : Queue} {message : Message} (same : longer.waiting = queue.waiting)
    (messages : longer.messages = queue.messages ++ [message]) (completed : queue.Completed wait) :
    longer.Completed wait where
  ended := same.trans completed.ended
  enough := by
    rw [messages, stream_append, List.length_append]
    exact Nat.le_add_right_of_le completed.enough

theorem Short.of_none (none : queue.waiting = none) : queue.Short := by
  intro wait waits
  rw [none] at waits
  cases waits

theorem Short.await (missing : ¬queue.offers sender wanted = true) :
    (queue.await sender wanted).Short := by
  intro wait waits
  cases waits
  exact not_offers_iff.mp missing

/-- All that queueing a message can do. -/
theorem enqueue_cases (queue : Queue) (refused : Option Allocation) (sender : Nat)
    (payload : List UInt8) :
    queue.enqueue refused sender payload = (.error .outOfMemory, queue) ∨
    ∃ longer : Queue, longer.owner = queue.owner ∧
      longer.messages = queue.messages ++ [⟨sender, payload⟩] ∧
      ((∃ wait, queue.waiting = some wait ∧ longer.Completed wait ∧
          queue.enqueue refused sender payload = (.ok true, longer)) ∨
        longer.waiting = queue.waiting ∧ (queue.Short → longer.Short) ∧
          queue.enqueue refused sender payload = (.ok false, longer)) := by
  cases denied : refuses refused payload with
  | true =>
    left
    simp only [enqueue, denied, if_true]
  | false =>
    right
    have unrefused : ∀ {first second : Except MessageError Bool × Queue},
        (if refuses refused payload = true then first else second) = second := by
      intro first second
      rw [denied]
      rfl
    cases waits : queue.waiting with
    | none =>
      refine ⟨{ queue with messages := queue.messages ++ [⟨sender, payload⟩] }, rfl, rfl, .inr ?_⟩
      exact ⟨waits, fun _ => Short.of_none waits, by rw [enqueue, unrefused, waits]⟩
    | some wait =>
      let longer : Queue := ⟨queue.owner, queue.messages ++ [⟨sender, payload⟩], some wait⟩
      by_cases complete : (wait.sender = sender && longer.offers sender wait.required) = true
      · have parts := complete
        rw [Bool.and_eq_true, decide_eq_true_iff] at parts
        obtain ⟨same, enough⟩ := parts
        refine ⟨{ longer with waiting := none }, rfl, rfl, .inl ⟨wait, rfl, ⟨rfl, ?_⟩, ?_⟩⟩
        · rw [same]
          exact offers_iff.mp enough
        · rw [enqueue, unrefused, waits]
          exact if_pos complete
      · refine ⟨longer, rfl, rfl, .inr ⟨rfl, ?_, ?_⟩⟩
        · intro short other othersWait
          cases othersWait
          by_cases same : wait.sender = sender
          · have missing : ¬longer.offers sender wait.required = true := by
              intro enough
              exact complete (by rw [same, enough]; simp)
            rw [same]
            exact not_offers_iff.mp missing
          · have unchanged : stream wait.sender longer.messages = stream wait.sender queue.messages := by
              rw [stream_append, stream_cons_other (Ne.symm same), stream_nil, List.append_nil]
            rw [unchanged]
            exact short wait waits
        · rw [enqueue, unrefused, waits]
          exact if_neg complete

end Queue

end Nucleus.Messages
