import Nucleus.Proofs.Messages.Answers
import Nucleus.Proofs.Messages.Edits
import Mathlib.Data.List.ReduceOption
import Mathlib.Data.Set.Subsingleton

/-! What a read takes and what it leaves, message by message: a read that is split in two is the same read, reads of
two senders can change places, and a whole message is what a read of its length takes. -/
namespace Nucleus.Messages
variable {sender room place later : Nat} {message : Message} {messages : List Message}

/-- What is left of a message by a reader of a sender who still wants some bytes when coming to it. -/
def Message.leftBy (sender wanted : Nat) (message : Message) : Option Message :=
  if message.sender ≠ sender ∨ wanted = 0 then some message
  else if message.payload.length ≤ wanted then none
  else some { message with payload := message.payload.drop wanted }

/-- How many of `room` bytes of a sender are still wanted at a place in a line. -/
def wantedAt (sender room : Nat) (messages : List Message) (place : Nat) : Nat :=
  room - (stream sender (messages.take place)).length

/-- What a read of `room` bytes of a sender leaves of a line, place by place. -/
def leftovers (sender room : Nat) (messages : List Message) : List (Option Message) :=
  messages.mapIdx fun place message => message.leftBy sender (wantedAt sender room messages place)

/-- The message at a place is left without some of its bytes. -/
def ShortenedAt (sender room : Nat) (messages : List Message) (place : Nat) : Prop :=
  ∃ message shorter, messages[place]? = some message ∧
    (leftovers sender room messages)[place]? = some (some shorter) ∧ shorter ≠ message

namespace Message

theorem leftBy_other (apart : message.sender ≠ sender) (wanted : Nat) : message.leftBy sender wanted = some message :=
  if_pos (.inl apart)

theorem leftBy_zero : message.leftBy sender 0 = some message := if_pos (.inr rfl)

theorem leftBy_fits (same : message.sender = sender) (wanted : room ≠ 0) (fits : message.payload.length ≤ room) :
    message.leftBy sender room = none := by
  rw [leftBy, if_neg (by simp [same, wanted]), if_pos fits]

theorem leftBy_cut (same : message.sender = sender) (wanted : room ≠ 0) (long : ¬message.payload.length ≤ room) :
    message.leftBy sender room = some { message with payload := message.payload.drop room } := by
  rw [leftBy, if_neg (by simp [same, wanted]), if_neg long]

theorem leftBy_eq_none_iff : message.leftBy sender room = none ↔
    message.sender = sender ∧ 0 < room ∧ message.payload.length ≤ room := by
  by_cases same : message.sender = sender
  · by_cases wanted : room = 0
    · simp [wanted, leftBy_zero]
    · by_cases fits : message.payload.length ≤ room
      · simp [leftBy_fits same wanted fits, same, fits, Nat.pos_of_ne_zero wanted]
      · simp [leftBy_cut same wanted fits, fits]
  · simp [leftBy_other same, same]

end Message

theorem leftovers_cons (rest : List Message) : leftovers sender room (message :: rest) =
    message.leftBy sender room :: leftovers sender (room - (stream sender [message]).length) rest := by
  rw [leftovers, List.mapIdx_cons, leftovers]
  congr 1
  apply congrArg (List.mapIdx · rest)
  funext place next
  rw [wantedAt, wantedAt, List.take_succ_cons, ← List.singleton_append, stream_append, List.length_append,
    Nat.sub_sub]

theorem reduceOption_leftovers_zero (messages : List Message) :
    (leftovers sender 0 messages).reduceOption = messages := by
  induction messages with
  | nil => rfl
  | cons message rest ih =>
    rw [leftovers_cons, Nat.zero_sub, Message.leftBy_zero, List.reduceOption_cons_of_some, ih]

theorem getElem?_leftovers (there : messages[place]? = some message) : (leftovers sender room messages)[place]? =
    some (message.leftBy sender (wantedAt sender room messages place)) := by
  rw [leftovers, List.getElem?_mapIdx, there, Option.map_some]

theorem wantedAt_later (room : Nat) (before : place < later) (there : messages[place]? = some message)
    (same : message.sender = sender) :
    wantedAt sender room messages later ≤ wantedAt sender room messages place - message.payload.length := by
  obtain ⟨inside, rfl⟩ := List.getElem?_eq_some_iff.mp there
  have longer : messages.take (place + 1) <+: messages.take later := List.take_prefix_take_left before
  obtain ⟨between, split⟩ := longer
  rw [wantedAt, wantedAt, ← split, stream_append, List.take_succ_eq_append_getElem inside, stream_append,
    stream_cons_same same, stream_nil, List.append_nil, List.length_append, List.length_append]
  omega

/-- Once a reader has left any of a message of the sender, nothing more is wanted. -/
theorem whole_after_left (before : place < later) (there : messages[place]? = some message)
    (same : message.sender = sender)
    (left : message.leftBy sender (wantedAt sender room messages place) ≠ none) (next : Message) :
    next.leftBy sender (wantedAt sender room messages later) = some next := by
  have enough : wantedAt sender room messages place ≤ message.payload.length := by
    by_contra short
    exact left (Message.leftBy_eq_none_iff.mpr ⟨same, by omega, by omega⟩)
  have less := wantedAt_later room before there same
  have none_wanted : wantedAt sender room messages later = 0 := by omega
  rw [none_wanted, Message.leftBy_zero]

/-- Only a message of the sender is shortened, and some of it is left. -/
theorem ShortenedAt.exists_left (shortened : ShortenedAt sender room messages place) :
    ∃ message, messages[place]? = some message ∧ message.sender = sender ∧
      message.leftBy sender (wantedAt sender room messages place) ≠ none := by
  obtain ⟨message, shorter, there, left, differs⟩ := shortened
  rw [getElem?_leftovers there, Option.some.injEq] at left
  refine ⟨message, there, ?_, left ▸ Option.some_ne_none shorter⟩
  by_contra apart
  rw [Message.leftBy_other apart, Option.some.injEq] at left
  exact differs left.symm

theorem ShortenedAt.le (shortened : ShortenedAt sender room messages place)
    (also_shortened : ShortenedAt sender room messages later) : later ≤ place := by
  by_contra before
  obtain ⟨message, there, same, stays⟩ := shortened.exists_left
  obtain ⟨next, shorter, next_there, left, differs⟩ := also_shortened
  rw [getElem?_leftovers next_there, whole_after_left (Nat.lt_of_not_le before) there same stays,
    Option.some.injEq, Option.some.injEq] at left
  exact differs left.symm

namespace Queue

theorem takeFromLine_leftovers (sender room : Nat) (messages : List Message) :
    (takeFromLine sender messages room).2 = (leftovers sender room messages).reduceOption := by
  induction messages generalizing room with
  | nil => cases room <;> rfl
  | cons message rest ih =>
    cases room with
    | zero => rw [takeFromLine_zero, reduceOption_leftovers_zero]
    | succ room =>
      rw [leftovers_cons]
      by_cases same : message.sender = sender
      · have own : (stream sender [message]).length = message.payload.length := by
          rw [stream_cons_same same, stream_nil, List.append_nil]
        by_cases fits : message.payload.length ≤ room + 1
        · rw [takeFromLine_fits rest same fits, Message.leftBy_fits same (by omega) fits, own, ih,
            List.reduceOption_cons_of_none]
        · have none_left : room + 1 - message.payload.length = 0 := by omega
          rw [takeFromLine_cut rest same fits, Message.leftBy_cut same (by omega) fits, own, none_left,
            List.reduceOption_cons_of_some, reduceOption_leftovers_zero]
      · rw [takeFromLine_other rest same, Message.leftBy_other same, stream_cons_other same, stream_nil, ih,
          List.reduceOption_cons_of_some]
        rfl

/-! ### One read -/

theorem fillBuffer_of_taken {queue : Queue} {buffer bytes : List UInt8}
    (taken : takeFromLine sender queue.messages buffer.length = (bytes, messages)) :
    queue.fillBuffer sender buffer = (bytes.length, overlay bytes buffer, { queue with messages }) := by
  simp only [fillBuffer, take, taken]

/-- A read copies the start of the sender's bytes over the start of the buffer, as many as there are and fit, and
leaves the rest of the buffer, the owner and the wait as they are. Place by place it leaves of the line what
`leftovers` says: the messages of other senders; of the sender's, none that ends within the bytes read and was
reached while some were wanted, at most one without its front, and all that follow whole. -/
theorem fillBuffer_exact (queue : Queue) (sender : Nat) (buffer : List UInt8) :
    let bytes := stream sender queue.messages
    let copied := min buffer.length bytes.length
    let left := leftovers sender buffer.length queue.messages
    queue.fillBuffer sender buffer =
        (copied, bytes.take copied ++ buffer.drop copied, { queue with messages := left.reduceOption }) ∧
      left.reduceOption.filter (·.sender ≠ sender) = queue.messages.filter (·.sender ≠ sender) ∧
      stream sender left.reduceOption = bytes.drop copied ∧
      (∀ (place : Nat) (message : Message), queue.messages[place]? = some message →
        let ahead := (stream sender (queue.messages.take place)).length
        (left[place]? = some none ↔ message.sender = sender ∧ ahead < buffer.length ∧
          ahead + message.payload.length ≤ buffer.length)) ∧
      {place | ShortenedAt sender buffer.length queue.messages place}.Subsingleton ∧
      ∀ (place later : Nat) (message next : Message), place < later →
        queue.messages[place]? = some message → message.sender = sender → left[place]? ≠ some none →
        queue.messages[later]? = some next → left[later]? = some (some next) := by
  intro bytes copied left
  have taken : (takeFromLine sender queue.messages buffer.length).1 = bytes.take copied :=
    (takeFromLine_fst sender buffer.length queue.messages).trans List.take_eq_take_min
  have count : (bytes.take copied).length = copied := List.length_take_of_le (Nat.min_le_right _ _)
  have rest : (takeFromLine sender queue.messages buffer.length).2 = left.reduceOption :=
    takeFromLine_leftovers sender buffer.length queue.messages
  refine ⟨?_, ?_, ?_, ?_, fun _ first _ second => Nat.le_antisymm (second.le first) (first.le second), ?_⟩
  · rw [fillBuffer_of_taken (Prod.ext taken rest), overlay, count]
    rfl
  · rw [← rest, others_takeFromLine]
  · rw [← rest, stream_rest]
    exact List.drop_eq_drop_min
  · intro place message there ahead
    rw [getElem?_leftovers there, Option.some.injEq, Message.leftBy_eq_none_iff, wantedAt]
    change _ ∧ 0 < buffer.length - ahead ∧ _ ≤ buffer.length - ahead ↔ _
    omega
  · intro place later message next before there same stays next_there
    rw [getElem?_leftovers there, ne_eq, Option.some.injEq] at stays
    rw [getElem?_leftovers next_there, whole_after_left before there same stays]

/-- Three bytes of 9 are taken, the last of them out of a message that stays. -/
example : leftovers 9 3 [⟨9, [1, 2]⟩, ⟨9, []⟩, ⟨8, [7]⟩, ⟨9, [3, 4]⟩, ⟨9, []⟩] =
    [none, none, some ⟨8, [7]⟩, some ⟨9, [4]⟩, some ⟨9, []⟩] := rfl

/-! ### Two reads -/

/-- A read that stops and goes on is one read, wherever in the line it stops. -/
theorem takeFromLine_snd_add (sender first second : Nat) (messages : List Message) :
    (takeFromLine sender messages (first + second)).2 =
      (takeFromLine sender (takeFromLine sender messages first).2 second).2 := by
  induction messages generalizing first with
  | nil => cases first <;> cases second <;> rfl
  | cons message rest ih =>
    cases first with
    | zero => rw [Nat.zero_add, takeFromLine_zero]
    | succ first =>
      cases second with
      | zero => rw [Nat.add_zero, takeFromLine_zero]
      | succ second =>
        have total : first + 1 + (second + 1) = (first + 1 + second) + 1 := by omega
        by_cases same : message.sender = sender
        · by_cases fits : message.payload.length ≤ first + 1
          · have remaining : first + 1 + second + 1 - message.payload.length =
                (first + 1 - message.payload.length) + (second + 1) := by omega
            rw [total, takeFromLine_fits rest same (by omega), takeFromLine_fits rest same fits, remaining, ih]
          · -- The first read ends within this message, and the second one goes on in what is left of it.
            let remainder : Message := { message with payload := message.payload.drop (first + 1) }
            have own : remainder.sender = sender := same
            have length : remainder.payload.length = message.payload.length - (first + 1) := List.length_drop
            rw [takeFromLine_cut rest same fits, total]
            by_cases both : message.payload.length ≤ first + 1 + second + 1
            · have remaining : first + 1 + second + 1 - message.payload.length =
                  second + 1 - remainder.payload.length := by omega
              rw [takeFromLine_fits rest same both, takeFromLine_fits rest own (by omega), remaining]
            · rw [takeFromLine_cut rest same both, takeFromLine_cut rest own (by omega), List.drop_drop]
              rfl
        · rw [total, takeFromLine_other rest same, takeFromLine_other rest same, takeFromLine_other _ same, ← total,
            ih]

/-- A whole message is what a read of its length takes. -/
theorem takeFromLine_whole (oldest : messages.find? (·.sender = sender) = some message)
    (filled : message.payload ≠ []) :
    takeFromLine sender messages message.payload.length = (message.payload, (takeFirst sender messages).2) := by
  obtain ⟨room, length⟩ := Nat.exists_eq_add_one.mpr (List.length_pos_iff.mpr filled)
  rw [length]
  induction messages with
  | nil => cases oldest
  | cons first rest ih =>
    by_cases same : first.sender = sender
    · rw [List.find?_cons_of_pos (by simpa using same)] at oldest
      cases oldest
      have none_left : room + 1 - message.payload.length = 0 := by omega
      rw [takeFirst, if_pos same, takeFromLine_fits rest same (by omega), none_left, takeFromLine_zero,
        List.append_nil]
    · rw [List.find?_cons_of_neg (by simpa using same)] at oldest
      rw [takeFirst, if_neg same, takeFromLine_other rest same, ih oldest]

theorem takeFromLine_add {first second : Nat} {rest left : List Message} {bytes more : List UInt8}
    (taken : takeFromLine sender messages first = (bytes, rest))
    (next : takeFromLine sender rest second = (more, left)) :
    takeFromLine sender messages (first + second) = (bytes ++ more, left) := by
  have front : (stream sender messages).take first = bytes := by rw [← takeFromLine_fst, taken]
  have behind : stream sender rest = (stream sender messages).drop first := by rw [← stream_rest, taken]
  apply Prod.ext
  · change _ = bytes ++ more
    rw [takeFromLine_fst, List.take_add, front, ← behind, ← takeFromLine_fst, next]
  · rw [takeFromLine_snd_add, taken, next]

theorem take_overlay (bytes buffer : List UInt8) : (overlay bytes buffer).take bytes.length = bytes := List.take_left

theorem fillBuffer_add (queue : Queue) (sender : Nat) {first second whole : List UInt8}
    (lengths : whole.length = first.length + second.length) :
    ∃ count filled middle more refilled filledWhole after,
      queue.fillBuffer sender first = (count, filled, middle) ∧
      middle.fillBuffer sender second = (more, refilled, after) ∧
      queue.fillBuffer sender whole = (count + more, filledWhole, after) ∧
      filledWhole.take (count + more) = filled.take count ++ refilled.take more := by
  rcases taken : takeFromLine sender queue.messages first.length with ⟨bytes, rest⟩
  rcases next : takeFromLine sender rest second.length with ⟨more, left⟩
  have whole_taken : takeFromLine sender queue.messages whole.length = (bytes ++ more, left) := by
    rw [lengths, takeFromLine_add taken next]
  refine ⟨bytes.length, overlay bytes first, { queue with messages := rest }, more.length, overlay more second,
    overlay (bytes ++ more) whole, { queue with messages := left }, fillBuffer_of_taken taken,
    fillBuffer_of_taken next, ?_, ?_⟩
  · rw [fillBuffer_of_taken whole_taken, List.length_append]
  · rw [take_overlay, take_overlay, ← List.length_append, take_overlay]

end Queue

/-- The act takes messages of this sender off the queue. -/
inductive Act.Reads (sender : Nat) : Act → Prop
  | fill (buffer : List UInt8) : Reads sender (.fill sender buffer)
  | takeWhole : Reads sender (.takeWhole sender)

namespace Act.Reads
variable {act : Act}

theorem edits (reads : act.Reads sender) :
    ∃ (σ : Type) (step : σ → List UInt8 → σ × Option (List UInt8)) (state : σ), ∀ queue : Queue,
      (queue.perform act).2 = { queue with messages := edit sender step state queue.messages } := by
  cases reads with
  | fill buffer =>
    refine ⟨Nat, Queue.drain, buffer.length, fun queue => ?_⟩
    rw [← Queue.takeFromLine_snd]
    rfl
  | takeWhole =>
    refine ⟨Bool, Queue.pick, false, fun queue => ?_⟩
    rw [← Queue.takeFirst_snd]
    rfl

/-- What a read answers depends on the messages of its sender alone. -/
theorem answer_congr (reads : act.Reads sender) {queue twin : Queue}
    (own : queue.messages.filter (·.sender = sender) = twin.messages.filter (·.sender = sender)) :
    (queue.perform act).1 = (twin.perform act).1 := by
  cases reads with
  | fill buffer =>
    have bytes : stream sender queue.messages = stream sender twin.messages :=
      congrArg (List.flatMap Message.payload) own
    simp only [Queue.perform, Queue.fillBuffer, Queue.take, Queue.takeFromLine_fst, bytes]
  | takeWhole =>
    simp only [Queue.perform, Queue.takeWhole, Queue.takeFirst_fst, ← List.head?_filter, own]

theorem own_congr (reads : act.Reads sender) {queue twin : Queue}
    (own : queue.messages.filter (·.sender = sender) = twin.messages.filter (·.sender = sender)) :
    (queue.perform act).2.messages.filter (·.sender = sender) =
      (twin.perform act).2.messages.filter (·.sender = sender) := by
  obtain ⟨σ, step, state, edits⟩ := reads.edits
  rw [edits, edits, filter_edit_self, filter_edit_self, own]

theorem others_stay (reads : act.Reads sender) {stranger : Nat} (apart : stranger ≠ sender) (queue : Queue) :
    (queue.perform act).2.messages.filter (·.sender = stranger) =
      queue.messages.filter (·.sender = stranger) := by
  obtain ⟨σ, step, state, edits⟩ := reads.edits
  rw [edits, filter_edit_other apart]

theorem waiting (reads : act.Reads sender) (queue : Queue) : (queue.perform act).2.waiting = queue.waiting := by
  obtain ⟨σ, step, state, edits⟩ := reads.edits
  rw [edits]

theorem comm (reads : act.Reads sender) {foreign : Act} {stranger : Nat} (reads_foreign : foreign.Reads stranger)
    (apart : stranger ≠ sender) (queue : Queue) :
    ((queue.perform foreign).2.perform act).2 = ((queue.perform act).2.perform foreign).2 := by
  obtain ⟨σ, step, state, edits⟩ := reads.edits
  obtain ⟨τ, foreign_step, foreign_state, foreign_edits⟩ := reads_foreign.edits
  rw [edits, foreign_edits, edits, foreign_edits, edit_comm (Ne.symm apart)]

end Act.Reads

/-- Two reads of a sender, one after the other, deliver what one read of both lengths delivers and leave the same
queue. Reads of two senders have the same answers and leave the same queue in either order. A sender's oldest
message, unless it is empty, is taken whole by a read of its length. -/
theorem reads_compose (queue : Queue) (sender : Nat) :
    (∀ first second whole : List UInt8, whole.length = first.length + second.length →
      ∃ count filled middle more refilled filledWhole after,
        queue.fillBuffer sender first = (count, filled, middle) ∧
        middle.fillBuffer sender second = (more, refilled, after) ∧
        queue.fillBuffer sender whole = (count + more, filledWhole, after) ∧
        filledWhole.take (count + more) = filled.take count ++ refilled.take more) ∧
    (∀ stranger, stranger ≠ sender → ∀ own foreign : Act, own.Reads sender → foreign.Reads stranger →
      ((queue.perform foreign).2.perform own).1 = (queue.perform own).1 ∧
      ((queue.perform own).2.perform foreign).1 = (queue.perform foreign).1 ∧
      ((queue.perform foreign).2.perform own).2 = ((queue.perform own).2.perform foreign).2) ∧
    (∀ message, queue.messages.find? (·.sender = sender) = some message → message.payload ≠ [] →
      ∀ buffer : List UInt8, buffer.length = message.payload.length →
        ∃ after, queue.takeWhole sender = (some message, after) ∧
          queue.fillBuffer sender buffer = (message.payload.length, message.payload, after)) := by
  refine ⟨fun first second whole => queue.fillBuffer_add sender, ?_, ?_⟩
  · intro stranger apart own foreign reads reads_foreign
    refine ⟨?_, ?_, reads.comm reads_foreign apart queue⟩
    · exact reads.answer_congr (reads_foreign.others_stay (Ne.symm apart) queue)
    · exact reads_foreign.answer_congr (reads.others_stay apart queue)
  · intro message oldest filled buffer length
    have whole := Queue.takeFromLine_whole oldest filled
    have covered : Queue.overlay message.payload buffer = message.payload := by
      rw [Queue.overlay, ← length, List.drop_length, List.append_nil]
    refine ⟨{ queue with messages := (Queue.takeFirst sender queue.messages).2 }, ?_, ?_⟩
    · simp only [Queue.takeWhole, Queue.takeFirst_fst, oldest]
    · rw [Queue.fillBuffer_of_taken (length ▸ whole), covered]

/-- Its oldest message is read to the end before an empty one of the same sender. -/
def letters : Queue := ⟨1, [⟨7, [1, 2]⟩, ⟨8, [9]⟩, ⟨7, []⟩, ⟨7, [3, 4]⟩], none⟩

theorem letters_compose :
    (∃ count filled middle more refilled filledWhole after,
      letters.fillBuffer 7 [0, 0] = (count, filled, middle) ∧
      middle.fillBuffer 7 [0] = (more, refilled, after) ∧
      letters.fillBuffer 7 [0, 0, 0] = (count + more, filledWhole, after) ∧
      filledWhole.take (count + more) = filled.take count ++ refilled.take more) ∧
    ((letters.perform (.takeWhole 8)).2.perform (.fill 7 [0, 0])).2 =
      ((letters.perform (.fill 7 [0, 0])).2.perform (.takeWhole 8)).2 ∧
    ∃ after, letters.takeWhole 7 = (some ⟨7, [1, 2]⟩, after) ∧ letters.fillBuffer 7 [0, 0] = (2, [1, 2], after) :=
  have composed := reads_compose letters 7
  ⟨composed.1 [0, 0] [0] [0, 0, 0] rfl, (composed.2.1 8 (by decide) _ _ (.fill [0, 0]) .takeWhole).2.2,
    composed.2.2 ⟨7, [1, 2]⟩ rfl (by decide) [0, 0] rfl⟩

end Nucleus.Messages
