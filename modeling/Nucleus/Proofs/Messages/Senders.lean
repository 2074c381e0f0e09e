import Nucleus.Proofs.Messages.Waking

/-! Senders share one line and do not notice each other: what a queue answers to one of them, what it holds of it and
what it offers of it are as if the others had never sent or been read. -/
namespace Nucleus.Messages
variable {sender stranger : Nat} {act : Act} {queue twin third : Queue}

/-- The act is about this sender's messages or about the owner's wait. -/
def Act.concerns (sender : Nat) (act : Act) : Bool := act.sender?.all (· = sender)

namespace Queue

/-- Two queues hold the same messages of a sender, and the same wait for its bytes if their owners wait for them. -/
structure Alike (sender : Nat) (queue twin : Queue) : Prop where
  own : queue.messages.filter (·.sender = sender) = twin.messages.filter (·.sender = sender)
  waits : ∀ required, queue.waiting = some ⟨sender, required⟩ ↔ twin.waiting = some ⟨sender, required⟩

namespace Alike

theorem refl (queue : Queue) : queue.Alike sender queue := ⟨rfl, fun _ => Iff.rfl⟩

theorem trans (alike : queue.Alike sender twin) (next : twin.Alike sender third) : queue.Alike sender third :=
  ⟨alike.own.trans next.own, fun required => (alike.waits required).trans (next.waits required)⟩

theorem stream (alike : queue.Alike sender twin) : stream sender queue.messages = stream sender twin.messages :=
  congrArg (List.flatMap Message.payload) alike.own

theorem offers (alike : queue.Alike sender twin) (wanted : Nat) :
    queue.offers sender wanted = twin.offers sender wanted := by
  rw [Bool.eq_iff_iff, offers_iff, offers_iff, alike.stream]

theorem completes (alike : queue.Alike sender twin) {payload : List UInt8} :
    queue.Completes sender payload ↔ twin.Completes sender payload := by
  simp only [Completes, stream_append, alike.stream, alike.waits]

theorem own_append (alike : queue.Alike sender twin) (message : Message) :
    (queue.messages ++ [message]).filter (·.sender = sender) =
      (twin.messages ++ [message]).filter (·.sender = sender) := by
  rw [List.filter_append, List.filter_append, alike.own]

theorem enqueue (alike : queue.Alike sender twin) (refused : Option Allocation) (payload : List UInt8) :
    (queue.enqueue refused sender payload).1 = (twin.enqueue refused sender payload).1 ∧
      (queue.enqueue refused sender payload).2.Alike sender (twin.enqueue refused sender payload).2 := by
  by_cases denied : refuses refused payload = true
  · rw [enqueue_refused denied, enqueue_refused denied]
    exact ⟨rfl, alike⟩
  · by_cases completes : queue.Completes sender payload
    · rw [enqueue_completes denied completes, enqueue_completes denied (alike.completes.mp completes)]
      exact ⟨rfl, alike.own_append _, fun _ => Iff.rfl⟩
    · rw [enqueue_appends denied completes, enqueue_appends denied (mt alike.completes.mpr completes)]
      exact ⟨rfl, alike.own_append _, alike.waits⟩

theorem read (alike : queue.Alike sender twin) (reads : act.Reads sender) :
    (queue.perform act).1 = (twin.perform act).1 ∧ (queue.perform act).2.Alike sender (twin.perform act).2 := by
  refine ⟨reads.answer_congr alike.own, reads.own_congr alike.own, fun required => ?_⟩
  rw [reads.waiting, reads.waiting, alike.waits]

/-- An act that concerns the sender has the same answer on both sides. -/
theorem perform (alike : queue.Alike sender twin) (concerns : act.concerns sender = true) :
    (queue.perform act).1 = (twin.perform act).1 ∧ (queue.perform act).2.Alike sender (twin.perform act).2 := by
  cases act with
  | enqueue refused own payload =>
    obtain rfl : own = sender := by simpa [Act.concerns, Act.sender?] using concerns
    obtain ⟨outcome, after⟩ := alike.enqueue refused payload
    exact ⟨congrArg Answer.queued outcome, after⟩
  | fill own buffer =>
    obtain rfl : own = sender := by simpa [Act.concerns, Act.sender?] using concerns
    exact alike.read (.fill buffer)
  | takeWhole own =>
    obtain rfl : own = sender := by simpa [Act.concerns, Act.sender?] using concerns
    exact alike.read .takeWhole
  | await own required => exact ⟨rfl, alike.own, fun _ => Iff.rfl⟩
  | endWait => exact ⟨rfl, alike.own, fun _ => Iff.rfl⟩

theorem unnoticed_read (reads : act.Reads stranger) (apart : stranger ≠ sender) :
    (queue.perform act).2.Alike sender queue :=
  ⟨reads.others_stay (Ne.symm apart) queue, fun _ => by rw [reads.waiting]⟩

/-- An act about another sender's messages goes unnoticed. -/
theorem unnoticed (foreign : ¬act.concerns sender = true) : (queue.perform act).2.Alike sender queue := by
  cases act with
  | enqueue refused stranger payload =>
    have apart : stranger ≠ sender := by simpa [Act.concerns, Act.sender?] using foreign
    let message : Message := ⟨stranger, payload⟩
    have own : (queue.messages ++ [message]).filter (·.sender = sender) =
        queue.messages.filter (·.sender = sender) := by
      simp [List.filter_append, message, apart]
    by_cases denied : refuses refused payload = true
    · rw [Queue.perform, enqueue_refused denied]
      exact refl queue
    · by_cases completes : queue.Completes stranger payload
      · rw [Queue.perform, enqueue_completes denied completes]
        refine ⟨own, fun required => iff_of_false (by simp) fun waits => ?_⟩
        obtain ⟨_, others_wait, -⟩ := completes
        cases others_wait.symm.trans waits
        exact apart rfl
      · rw [Queue.perform, enqueue_appends denied completes]
        exact ⟨own, fun _ => Iff.rfl⟩
  | fill stranger buffer => exact unnoticed_read (.fill buffer) (by simpa [Act.concerns, Act.sender?] using foreign)
  | takeWhole stranger => exact unnoticed_read .takeWhole (by simpa [Act.concerns, Act.sender?] using foreign)
  | await | endWait => exact absurd rfl foreign

/-- From queues that are alike for a sender, a run and what of it concerns the sender have the same answers where
they meet, and leave queues that are alike. -/
theorem run (alike : queue.Alike sender twin) (acts : List Act) :
    (queue.answered acts).filter (·.1.concerns sender) = twin.answered (acts.filter (·.concerns sender)) ∧
      (queue.after acts).Alike sender (twin.after (acts.filter (·.concerns sender))) := by
  induction acts generalizing queue twin with
  | nil => exact ⟨rfl, alike⟩
  | cons act rest ih =>
    by_cases concerns : act.concerns sender = true
    · obtain ⟨answer, after⟩ := alike.perform concerns
      obtain ⟨answers, finally_alike⟩ := ih after
      rw [List.filter_cons_of_pos concerns]
      refine ⟨?_, finally_alike⟩
      simp only [answered, List.filter_cons, concerns, if_true, answer, answers]
    · obtain ⟨answers, finally_alike⟩ := ih ((unnoticed concerns).trans alike)
      rw [List.filter_cons_of_neg concerns]
      refine ⟨?_, finally_alike⟩
      simpa only [answered, List.filter_cons, concerns, Bool.false_eq_true, if_false] using answers

end Alike

/-- Whatever is queued, refused and read, and by whom, one sender's part of a run is that of the run without the acts
that are about other senders: the answers to the acts that concern it, what is offered of it at any point, and its
messages in the end. -/
theorem senders_do_not_interfere (queue : Queue) (sender : Nat) (acts : List Act) :
    (queue.answered acts).filter (·.1.concerns sender) = queue.answered (acts.filter (·.concerns sender)) ∧
    (∀ point wanted, (queue.after (acts.take point)).offers sender wanted =
      (queue.after ((acts.take point).filter (·.concerns sender))).offers sender wanted) ∧
    (queue.after acts).messages.filter (·.sender = sender) =
      (queue.after (acts.filter (·.concerns sender))).messages.filter (·.sender = sender) := by
  obtain ⟨answers, alike⟩ := (Alike.refl queue).run acts
  exact ⟨answers, fun point wanted => ((Alike.refl queue).run (acts.take point)).2.offers wanted, alike.own⟩

end Queue

end Nucleus.Messages
