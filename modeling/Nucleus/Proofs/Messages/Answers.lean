import Nucleus.Proofs.Messages.History

/-! What a queue answers to the acts of a run, one after the other. -/
namespace Nucleus.Messages

inductive Answer where
  | queued (outcome : Except MessageError Bool)
  | filled (count : Nat) (buffer : List UInt8)
  | taken (message : Option Message)
  /-- A wait begins or ends without an answer. -/
  | noted

/-- Whose messages an act puts into the queue or takes out of it. The owner's waits move nobody's. -/
def Act.sender? : Act → Option Nat
  | .enqueue _ sender _ | .fill sender _ | .takeWhole sender => some sender
  | .await _ _ | .endWait => none

namespace Queue

def perform (queue : Queue) : Act → Answer × Queue
  | .enqueue refused sender payload =>
    let (outcome, queue) := queue.enqueue refused sender payload
    (.queued outcome, queue)
  | .fill sender buffer =>
    let (count, buffer, queue) := queue.fillBuffer sender buffer
    (.filled count buffer, queue)
  | .takeWhole sender =>
    let (message, queue) := queue.takeWhole sender
    (.taken message, queue)
  | .await sender required => (.noted, queue.await sender required)
  | .endWait => (.noted, queue.endWait)

/-- The queue after a run. -/
def after (queue : Queue) (acts : List Act) : Queue := acts.foldl (fun queue act => (queue.perform act).2) queue

/-- The acts of a run, each with its answer. -/
def answered (queue : Queue) : List Act → List (Act × Answer)
  | [] => []
  | act :: rest => (act, (queue.perform act).1) :: (queue.perform act).2.answered rest

variable {queue : Queue}

@[simp] theorem after_nil : queue.after [] = queue := rfl

@[simp] theorem after_cons (act : Act) (rest : List Act) :
    queue.after (act :: rest) = (queue.perform act).2.after rest := rfl

theorem queue_act (history : History) (act : Act) :
    (history.act act).queue = (history.queue.perform act).2 := by
  cases act with
  | enqueue refused sender payload =>
    simp only [History.act, perform]
    rcases history.queue.enqueue refused sender payload with ⟨_ | _, _⟩ <;> rfl
  | takeWhole sender =>
    simp only [History.act, perform]
    rcases history.queue.takeWhole sender with ⟨_ | _, _⟩ <;> rfl
  | fill | await | endWait => rfl

/-- The history of a run ends with the queue after it. -/
theorem queue_history (history : History) (acts : List Act) :
    (acts.foldl History.act history).queue = history.queue.after acts := by
  induction acts generalizing history with
  | nil => rfl
  | cons act rest ih => rw [List.foldl_cons, ih, queue_act, after_cons]

end Queue

end Nucleus.Messages
