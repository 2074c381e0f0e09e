import Nucleus.Proofs.Messages.Reading

/-! When the owner is woken: by the message that brings the bytes it waits for to the number it waits for, and by no
other. A message that finds no memory changes nothing. -/
namespace Nucleus.Messages
variable {sender required place : Nat} {refused : Option Allocation} {payload : List UInt8} {act : Act}
variable {acts rest : List Act}

namespace Queue
variable {queue : Queue}

/-- With this message, the bytes that the owner waits for are there. -/
def Completes (queue : Queue) (sender : Nat) (payload : List UInt8) : Prop :=
  ∃ required, queue.waiting = some ⟨sender, required⟩ ∧
    required ≤ (stream sender (queue.messages ++ [⟨sender, payload⟩])).length

theorem refuses_iff : refuses refused payload = true ↔
    refused = some .node ∨ refused = some .payload ∧ payload ≠ [] := by
  cases refused with
  | none => simp [refuses]
  | some allocation => cases allocation <;> simp [refuses]

theorem enqueue_refused (denied : refuses refused payload = true) :
    queue.enqueue refused sender payload = (.error .outOfMemory, queue) := if_pos denied

theorem enqueue_completes (granted : ¬refuses refused payload = true) (completes : queue.Completes sender payload) :
    queue.enqueue refused sender payload =
      (.ok true, { queue with messages := queue.messages ++ [⟨sender, payload⟩], waiting := none }) := by
  obtain ⟨required, waits, enough⟩ := completes
  let longer : Queue := ⟨queue.owner, queue.messages ++ [⟨sender, payload⟩], some ⟨sender, required⟩⟩
  have offered : longer.offers sender required = true := offers_iff.mpr enough
  rw [enqueue, if_neg granted, waits]
  exact if_pos (by simpa using offered)

theorem enqueue_appends (granted : ¬refuses refused payload = true) (short : ¬queue.Completes sender payload) :
    queue.enqueue refused sender payload =
      (.ok false, { queue with messages := queue.messages ++ [⟨sender, payload⟩] }) := by
  rw [enqueue, if_neg granted]
  cases waits : queue.waiting with
  | none => rfl
  | some wait =>
    refine if_neg fun offered => ?_
    rw [Bool.and_eq_true, decide_eq_true_iff] at offered
    obtain ⟨rfl, enough⟩ := offered
    exact short ⟨wait.required, waits, offers_iff.mp enough⟩

/-! ### One act of a run -/

/-- An act of a run completes the wait of its queue's owner. -/
def WokenAt (queue : Queue) (acts : List Act) (place : Nat) : Prop :=
  ∃ act, (queue.answered acts)[place]? = some (act, .queued (.ok true))

/-- An act of a run queues a message of the sender, and with it at least `required` bytes of the sender are there. -/
def FilledAt (queue : Queue) (sender required : Nat) (acts : List Act) (place : Nat) : Prop :=
  ∃ refused payload woken,
    (queue.answered acts)[place]? = some (.enqueue refused sender payload, .queued (.ok woken)) ∧
    required ≤ (stream sender (queue.after (acts.take (place + 1))).messages).length

theorem granted_of_queued {woken : Bool}
    (queued : (queue.perform (.enqueue refused sender payload)).1 = .queued (.ok woken)) :
    ¬refuses refused payload = true := by
  intro denied
  simp [perform, enqueue_refused denied] at queued

theorem completes_of_woken (woken : (queue.perform act).1 = .queued (.ok true)) :
    ∃ refused sender payload, act = .enqueue refused sender payload ∧ ¬refuses refused payload = true ∧
      queue.Completes sender payload := by
  cases act with
  | enqueue refused sender payload =>
    have granted := granted_of_queued woken
    refine ⟨refused, sender, payload, rfl, granted, ?_⟩
    by_contra short
    simp [perform, enqueue_appends granted short] at woken
  | fill | takeWhole | await | endWait => cases woken

theorem waiting_of_woken (woken : (queue.perform act).1 = .queued (.ok true)) :
    (queue.perform act).2.waiting = none := by
  obtain ⟨refused, sender, payload, rfl, granted, completes⟩ := completes_of_woken woken
  rw [perform, enqueue_completes granted completes]

/-- An act that moves messages and wakes nobody leaves the wait as it is. -/
theorem waiting_of_unwoken (moves : act.sender? ≠ none) (unwoken : (queue.perform act).1 ≠ .queued (.ok true)) :
    (queue.perform act).2.waiting = queue.waiting := by
  cases act with
  | enqueue refused sender payload =>
    by_cases denied : refuses refused payload = true
    · rw [perform, enqueue_refused denied]
    · by_cases completes : queue.Completes sender payload
      · rw [perform, enqueue_completes denied completes] at unwoken
        exact absurd rfl unwoken
      · rw [perform, enqueue_appends denied completes]
  | fill sender buffer => exact (Act.Reads.fill buffer).waiting queue
  | takeWhole sender => exact Act.Reads.takeWhole.waiting queue
  | await | endWait => exact absurd rfl moves

theorem wokenAt_zero : queue.WokenAt (act :: rest) 0 ↔ (queue.perform act).1 = .queued (.ok true) := by
  simp [WokenAt, answered]

theorem wokenAt_succ : queue.WokenAt (act :: rest) (place + 1) ↔ (queue.perform act).2.WokenAt rest place := Iff.rfl

theorem filledAt_succ : queue.FilledAt sender required (act :: rest) (place + 1) ↔
    (queue.perform act).2.FilledAt sender required rest place := Iff.rfl

/-- While the owner waits for bytes of a sender, the acts that bring them to their number are those that wake it. -/
theorem filledAt_zero (waits : queue.waiting = some ⟨sender, required⟩) :
    queue.FilledAt sender required (act :: rest) 0 ↔ (queue.perform act).1 = .queued (.ok true) := by
  constructor
  · rintro ⟨refused, payload, woken, there, enough⟩
    simp only [answered, List.getElem?_cons_zero, Option.some.injEq, Prod.mk.injEq] at there
    obtain ⟨rfl, queued⟩ := there
    have granted := granted_of_queued queued
    have completes : queue.Completes sender payload := by
      by_contra short
      refine short ⟨required, waits, ?_⟩
      simpa [perform, enqueue_appends granted short] using enough
    rw [perform, enqueue_completes granted completes]
  · intro woken
    obtain ⟨refused, own, payload, rfl, granted, completes⟩ := completes_of_woken woken
    obtain ⟨wanted, same, enough⟩ := completes
    cases waits.symm.trans same
    refine ⟨refused, payload, true, ?_, ?_⟩
    · rw [answered, woken]
      rfl
    · simpa [perform, enqueue_completes granted ⟨required, waits, enough⟩] using enough

/-! ### A whole run -/

theorem not_wokenAt_of_none (moves : ∀ act ∈ acts, act.sender? ≠ none) (none : queue.waiting = none) :
    ¬queue.WokenAt acts place := by
  induction acts generalizing queue place with
  | nil => simp [WokenAt, answered]
  | cons act rest ih =>
    have unwoken : (queue.perform act).1 ≠ .queued (.ok true) := by
      intro woken
      obtain ⟨_, _, _, -, -, _, waits, -⟩ := completes_of_woken woken
      rw [none] at waits
      cases waits
    cases place with
    | zero => rwa [wokenAt_zero]
    | succ place =>
      rw [wokenAt_succ]
      refine ih (fun act member => moves act (List.mem_cons_of_mem _ member)) ?_
      rw [waiting_of_unwoken (moves act List.mem_cons_self) unwoken, none]

/-- Of a run that moves messages, the act that wakes the waiting owner is the first that brings the bytes to their
number. -/
theorem wokenAt_iff (moves : ∀ act ∈ acts, act.sender? ≠ none) (waits : queue.waiting = some ⟨sender, required⟩)
    (place : Nat) : queue.WokenAt acts place ↔ queue.FilledAt sender required acts place ∧
      ∀ earlier < place, ¬queue.FilledAt sender required acts earlier := by
  induction acts generalizing queue place with
  | nil => simp [WokenAt, FilledAt, answered]
  | cons act rest ih =>
    have moves_rest : ∀ act ∈ rest, act.sender? ≠ none := fun act member => moves act (List.mem_cons_of_mem _ member)
    cases place with
    | zero => simp [wokenAt_zero, filledAt_zero waits]
    | succ place =>
      rw [wokenAt_succ, filledAt_succ, Nat.forall_lt_succ_left, filledAt_zero waits]
      by_cases woken : (queue.perform act).1 = .queued (.ok true)
      · -- The wait is over with the first act, so that nobody is woken later.
        simp [woken, not_wokenAt_of_none moves_rest (waiting_of_woken woken)]
      · have still := waiting_of_unwoken (moves act List.mem_cons_self) woken
        simp only [ih moves_rest (still.trans waits), woken, not_false_eq_true, true_and, filledAt_succ]

/-- A message for which an allocation is refused changes nothing; an empty payload needs none. Any other message is
queued last, and it wakes the owner exactly if, counted with an early stop or in full, it brings the bytes of its
sender to the number that the owner waits for from this sender; the wait is then over, and else it stays as it is.
In a run after a wait began the owner is woken at most once: by the first message queued from the sender with which
the bytes are there. -/
theorem woken_exactly_once (queue : Queue) (sender : Nat) :
    (∀ (refused : Option Allocation) (payload : List UInt8),
      let denied := refused = some .node ∨ refused = some .payload ∧ payload ≠ []
      let longer : Queue := { queue with messages := queue.messages ++ [⟨sender, payload⟩] }
      let bytes := stream sender longer.messages
      (denied → queue.enqueue refused sender payload = (.error .outOfMemory, queue)) ∧
      (¬denied → ∃ woken : Bool,
        queue.enqueue refused sender payload =
          (.ok woken, { longer with waiting := if woken then none else queue.waiting }) ∧
        (woken = true ↔ ∃ required, queue.waiting = some ⟨sender, required⟩ ∧ required ≤ bytes.length)) ∧
      ∀ required, required ≤ longer.bytesFrom sender required ↔ required ≤ bytes.length) ∧
    ∀ (required : Nat) (acts : List Act), (∀ act ∈ acts, act.sender? ≠ none) →
      let waiting := queue.await sender required
      {place | waiting.WokenAt acts place}.Subsingleton ∧
      ∀ place, waiting.WokenAt acts place ↔
        waiting.FilledAt sender required acts place ∧
          ∀ earlier < place, ¬waiting.FilledAt sender required acts earlier := by
  constructor
  · intro refused payload denied longer bytes
    refine ⟨fun refusal => enqueue_refused (refuses_iff.mpr refusal), fun unrefused => ?_, fun required => ?_⟩
    · have granted : ¬refuses refused payload = true := fun refusal => unrefused (refuses_iff.mp refusal)
      by_cases completes : queue.Completes sender payload
      · exact ⟨true, enqueue_completes granted completes, iff_of_true rfl completes⟩
      · exact ⟨false, enqueue_appends granted completes, iff_of_false Bool.false_ne_true completes⟩
    · rw [bytesFrom, le_countFrom_iff, Nat.zero_add]
  · intro required acts moves waiting
    have first := wokenAt_iff moves (rfl : waiting.waiting = some ⟨sender, required⟩)
    refine ⟨fun place woken later woken_later => ?_, first⟩
    have filled := (first place).mp woken
    have filled_later := (first later).mp woken_later
    by_contra apart
    rcases Nat.lt_or_gt_of_ne apart with before | before
    · exact filled_later.2 place before filled.1
    · exact filled.2 later before filled_later.1

/-- Sends to an owner that waits for six bytes of 7: one of another sender, one that falls short, one that finds no
memory, one that completes the wait and one that comes later. -/
def sends : List Act :=
  [.enqueue none 6 [0, 0, 0, 0, 0, 0, 0, 0], .enqueue none 7 [1, 2, 3], .enqueue (some .node) 7 [4, 5, 6],
    .enqueue none 7 [4, 5, 6], .enqueue none 7 [7, 8, 9]]

theorem sends_wake_once : (∀ act ∈ sends, act.sender? ≠ none) ∧
    {place | ((ofOwner 1).await 7 6).WokenAt sends place} = {3} :=
  have moves : ∀ act ∈ sends, act.sender? ≠ none := by decide
  ⟨moves, ((woken_exactly_once (ofOwner 1) 7).2 6 sends moves).1.eq_singleton_of_mem ⟨_, rfl⟩⟩

end Queue

end Nucleus.Messages
