import Nucleus.Proofs.Messages.Streams
import Mathlib.Logic.Function.Basic

/-! What happens to messages on their way through a queue. Of each sender, what was delivered and what is still
queued make up what was sent. The queued messages are some of those that were sent, in the order of arrival;
only a sender's oldest may have lost its front, and that has been delivered. -/
namespace Nucleus.Messages

inductive Act where
  | enqueue (refused : Option Allocation) (sender : Nat) (payload : List UInt8)
  | fill (sender : Nat) (buffer : List UInt8)
  | takeWhole (sender : Nat)
  | await (sender required : Nat)
  | endWait

/-- A queue with the messages that entered it and the pieces that left it, each in order. -/
structure History where
  queue : Queue
  sent : List Message
  received : List Message

namespace History

def start (owner : Nat) : History := ⟨Queue.ofOwner owner, [], []⟩

def act (history : History) : Act → History
  | .enqueue refused sender payload =>
    match history.queue.enqueue refused sender payload with
    | (.ok _, queue) => { history with queue, sent := history.sent ++ [⟨sender, payload⟩] }
    | (.error _, queue) => { history with queue }
  | .fill sender buffer =>
    let (count, buffer, queue) := history.queue.fillBuffer sender buffer
    { history with queue, received := history.received ++ [⟨sender, buffer.take count⟩] }
  | .takeWhole sender =>
    match history.queue.takeWhole sender with
    | (some message, queue) =>
      { history with queue, received := history.received ++ [⟨sender, message.payload⟩] }
    | (none, queue) => { history with queue }
  | .await sender required => { history with queue := history.queue.await sender required }
  | .endWait => { history with queue := history.queue.endWait }

end History

/-- What is left of some messages, in their order. A message lacks at most a front that was delivered, and it is
whole if a message of the same sender stands ahead of it; `ahead` lists the senders met so far. -/
inductive Left (delivered : Nat → List UInt8) : (ahead : List Nat) → List Message → List Message → Prop
  | nil {ahead : List Nat} : Left delivered ahead [] []
  | cons {ahead : List Nat} {sender : Nat} {front payload : List UInt8} {line originals : List Message} :
      front <:+ delivered sender → (sender ∈ ahead → front = []) →
      Left delivered (sender :: ahead) line originals →
      Left delivered ahead (⟨sender, payload⟩ :: line) (⟨sender, front ++ payload⟩ :: originals)

variable {delivered more : Nat → List UInt8} {ahead fewer : List Nat} {line originals : List Message}
variable {sender other : Nat}

namespace Left

/-- What is delivered of senders that stand ahead does not matter, since their messages are whole. -/
theorem mono (left : Left delivered ahead line originals) (subset : fewer ⊆ ahead)
    (same : ∀ other ∉ ahead, more other = delivered other) : Left more fewer line originals := by
  induction left generalizing fewer with
  | nil => exact .nil
  | @cons ahead sender front payload line originals suffix whole _ ih =>
    refine .cons ?_ (fun member => whole (subset member)) (ih (List.cons_subset_cons _ subset) ?_)
    · by_cases met : sender ∈ ahead
      · rw [whole met]
        exact List.nil_suffix
      · rw [same sender met]
        exact suffix
    · exact fun other unmet => same other fun member => unmet (List.mem_cons_of_mem _ member)

theorem append (left : Left delivered ahead line originals) (message : Message) :
    Left delivered ahead (line ++ [message]) (originals ++ [message]) := by
  induction left with
  | nil => exact .cons List.nil_suffix (fun _ => rfl) .nil
  | cons suffix whole _ ih => exact .cons suffix whole ih

/-- Delivering to one sender leaves the messages of the others as they are. -/
theorem deliver (left : Left delivered (sender :: ahead) line originals) (subset : fewer ⊆ sender :: ahead)
    (bytes : List UInt8) : Left (Function.update delivered sender bytes) fewer line originals :=
  left.mono subset fun _ unmet => Function.update_of_ne (List.ne_of_not_mem_cons unmet) _ _

theorem takeFromLine (left : Left delivered ahead line originals) (unmet : sender ∉ ahead) (room : Nat) :
    ∃ kept, kept.Sublist originals ∧
      Left (Function.update delivered sender (delivered sender ++ (Queue.takeFromLine sender line room).1))
        ahead (Queue.takeFromLine sender line room).2 kept := by
  induction line generalizing delivered ahead originals room with
  | nil =>
    cases left
    refine ⟨[], .slnil, ?_⟩
    cases room <;> exact .nil
  | cons message rest ih =>
    cases left with
    | @cons _ first front payload _ originals suffix whole tail =>
      cases room with
      | zero =>
        refine ⟨_, .refl _, ?_⟩
        rw [Queue.takeFromLine, List.append_nil, Function.update_eq_self]
        exact .cons suffix whole tail
      | succ room =>
        by_cases same : first = sender
        · subst same
          by_cases fits : payload.length ≤ room + 1
          · obtain ⟨kept, sublist, left⟩ :=
              ih (tail.deliver (List.subset_cons_self _ _) (delivered first ++ payload)) unmet
                (room + 1 - payload.length)
            have taken := @Queue.takeFromLine_fits first ⟨first, payload⟩ room rest rfl fits
            refine ⟨kept, sublist.cons _, ?_⟩
            simpa only [taken, Function.update_idem, Function.update_self, List.append_assoc] using left
          · -- The front grows by what is taken, and stays the end of what was delivered.
            refine ⟨_, .refl _, ?_⟩
            have cut : front ++ payload = (front ++ payload.take (room + 1)) ++ payload.drop (room + 1) := by
              rw [List.append_assoc, List.take_append_drop]
            rw [@Queue.takeFromLine_cut first ⟨first, payload⟩ room rest rfl fits, cut]
            refine .cons ?_ (fun member => absurd member unmet) (tail.deliver (List.Subset.refl _) _)
            rw [Function.update_self]
            exact List.suffix_append_self_iff.mpr suffix
        · obtain ⟨kept, sublist, left⟩ := ih tail
            (List.not_mem_cons_of_ne_of_not_mem (Ne.symm same) unmet) (room + 1)
          refine ⟨_, sublist.cons_cons _, ?_⟩
          rw [Queue.takeFromLine_other rest same]
          refine .cons ?_ whole left
          rwa [Function.update_of_ne same]

theorem takeFirst (left : Left delivered ahead line originals) (unmet : sender ∉ ahead) {message : Message}
    (found : (Queue.takeFirst sender line).1 = some message) :
    ∃ kept, kept.Sublist originals ∧
      Left (Function.update delivered sender (delivered sender ++ message.payload)) ahead
        (Queue.takeFirst sender line).2 kept := by
  induction line generalizing ahead originals with
  | nil => cases found
  | cons first rest ih =>
    cases left with
    | @cons _ own front payload _ originals suffix whole tail =>
      by_cases same : own = sender
      · subst same
        simp only [Queue.takeFirst, if_true, Option.some.injEq] at found ⊢
        subst found
        exact ⟨originals, .cons _ (.refl _), tail.deliver (List.subset_cons_self _ _) _⟩
      · simp only [Queue.takeFirst, if_neg same] at found ⊢
        obtain ⟨kept, sublist, left⟩ :=
          ih tail (List.not_mem_cons_of_ne_of_not_mem (Ne.symm same) unmet) found
        refine ⟨_, sublist.cons_cons _, .cons ?_ whole left⟩
        rwa [Function.update_of_ne same]

end Left

/-- Of each sender, what was delivered and what is queued make up what was sent; and what is queued is left of
messages that were sent, in their order. -/
structure History.Balanced (history : History) : Prop where
  streams : ∀ sender, stream sender history.sent =
    stream sender history.received ++ stream sender history.queue.messages
  left : ∃ originals, originals.Sublist history.sent ∧
    Left (fun sender => stream sender history.received) [] history.queue.messages originals

namespace History
variable {history : History}

theorem delivered_append (received : List Message) (sender : Nat) (bytes : List UInt8) :
    (fun other => stream other (received ++ [⟨sender, bytes⟩])) =
      Function.update (fun other => stream other received) sender (stream sender received ++ bytes) := by
  funext other
  rw [stream_append]
  by_cases same : other = sender
  · subst same
    simp [stream_cons]
  · simp [stream_cons, Function.update_of_ne same, Ne.symm same]

theorem Balanced.start (owner : Nat) : (start owner).Balanced where
  streams _ := rfl
  left := ⟨[], .slnil, .nil⟩

theorem Balanced.enqueue (balanced : history.Balanced) (refused : Option Allocation) (sender : Nat)
    (payload : List UInt8) : (history.act (.enqueue refused sender payload)).Balanced := by
  obtain ⟨originals, sublist, left⟩ := balanced.left
  have longer : ∀ queue : Queue, queue.messages = history.queue.messages ++ [⟨sender, payload⟩] →
      Balanced { history with queue, sent := history.sent ++ [⟨sender, payload⟩] } := by
    intro queue messages
    refine ⟨fun other => ?_, originals ++ [⟨sender, payload⟩], sublist.append_right _, ?_⟩
    · simp only [messages, stream_append, balanced.streams, List.append_assoc]
    · simp only [messages]
      exact left.append _
  rcases history.queue.enqueue_cases refused sender payload with same | ⟨queue, -, messages, done⟩
  · simp only [act, same]
    exact balanced
  · rcases done with ⟨_, -, -, ran⟩ | ⟨-, -, ran⟩
    · simp only [act, ran]
      exact longer queue messages
    · simp only [act, ran]
      exact longer queue messages

/-- A piece is delivered that the queue gave up. -/
theorem Balanced.deliver (balanced : history.Balanced) {queue : Queue} {sender : Nat} {bytes : List UInt8}
    (streams : ∀ other, stream other history.queue.messages =
      (if sender = other then bytes else []) ++ stream other queue.messages)
    (left : ∀ originals, Left (fun other => stream other history.received) [] history.queue.messages originals →
      ∃ kept, kept.Sublist originals ∧
        Left (Function.update (fun other => stream other history.received) sender
          (stream sender history.received ++ bytes)) [] queue.messages kept) :
    Balanced { history with queue, received := history.received ++ [⟨sender, bytes⟩] } where
  streams other := by
    rw [balanced.streams, streams, stream_append, stream_cons, stream_nil, List.append_nil,
      List.append_assoc]
  left := by
    obtain ⟨originals, sublist, before⟩ := balanced.left
    obtain ⟨kept, fewer, after⟩ := left originals before
    refine ⟨kept, fewer.trans sublist, ?_⟩
    simp only [delivered_append]
    exact after

theorem Balanced.act (balanced : history.Balanced) (act : Act) : (history.act act).Balanced := by
  cases act with
  | enqueue refused sender payload => exact balanced.enqueue refused sender payload
  | fill sender buffer =>
    have returned : (history.queue.fillBuffer sender buffer).2.1.take (history.queue.fillBuffer sender buffer).1 =
        (Queue.takeFromLine sender history.queue.messages buffer.length).1 := List.take_left
    simp only [History.act, returned]
    refine balanced.deliver (fun other => Queue.stream_takeFromLine sender other buffer.length _) ?_
    exact fun originals left => left.takeFromLine List.not_mem_nil buffer.length
  | takeWhole sender =>
    cases found : (Queue.takeFirst sender history.queue.messages).1 with
    | none =>
      simp only [History.act, Queue.takeWhole, found, Queue.takeFirst_none found]
      exact balanced
    | some message =>
      simp only [History.act, Queue.takeWhole, found]
      exact balanced.deliver (fun other => Queue.stream_takeFirst sender other _ found)
        fun originals left => left.takeFirst List.not_mem_nil found
  | await sender required => exact ⟨balanced.streams, balanced.left⟩
  | endWait => exact ⟨balanced.streams, balanced.left⟩

theorem Balanced.foldl (balanced : history.Balanced) (acts : List Act) :
    (acts.foldl History.act history).Balanced := by
  induction acts generalizing history with
  | nil => exact balanced
  | cons act rest ih => exact ih (balanced.act act)

/-- Whatever is asked of a queue, and in whatever order, no byte is lost, delivered twice or out of order: of each
sender, what was delivered and what is queued make up what was sent. The queue holds some of the messages that
were sent, in the order of arrival, each of them whole unless it is its sender's oldest; that one may lack a
front, which is the end of what was delivered. -/
theorem streams_conserved (owner : Nat) (acts : List Act) :
    (∀ sender, stream sender (acts.foldl act (start owner)).sent =
      stream sender (acts.foldl act (start owner)).received ++
        stream sender (acts.foldl act (start owner)).queue.messages) ∧
    ∃ originals, originals.Sublist (acts.foldl act (start owner)).sent ∧
      Left (fun sender => stream sender (acts.foldl act (start owner)).received) []
        (acts.foldl act (start owner)).queue.messages originals :=
  have balanced := (Balanced.start owner).foldl acts
  ⟨balanced.streams, balanced.left⟩

end History

end Nucleus.Messages
