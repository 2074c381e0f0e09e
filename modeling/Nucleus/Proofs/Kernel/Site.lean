import Nucleus.Kernel.Transfer
import Nucleus.Proofs.Messages.Streams

/-! A receive apart from the kernel. It works on its queue and its buffer, and leaves the processes to a host of
which it asks little: whether a process is known, and to block one. Each look takes all the bytes it wants or none,
whatever becomes of the queue and the host between two looks. -/
namespace Nucleus.Kernel
open Messages

/-- Whoever runs the processes, as far as a receive can tell. -/
structure Host (τ : Type) where
  knows : Nat → τ → Bool × τ
  block : Nat → τ → τ

structure Site (τ : Type) where
  queue : Queue
  buffer : List UInt8
  host : τ

namespace Site
variable {τ : Type} {host : Host τ} {sender : Nat} {before after : Site τ}

/-- One look, with the queue locked throughout. -/
def look (host : Host τ) (sender : Nat) (site : Site τ) : Look × Site τ :=
  if site.queue.offers sender site.buffer.length then
    let (bytes, queue) := site.queue.endWait.take sender site.buffer.length
    (.delivered, { site with queue, buffer := Queue.overlay bytes site.buffer })
  else
    match host.knows site.queue.owner site.host with
    | (true, asked) =>
      (.blocked, { site with
        queue := site.queue.await sender site.buffer.length, host := host.block site.queue.owner asked })
    | (false, asked) => (.ownerGone, { site with queue := site.queue.endWait, host := asked })

/-- The buffer holds the first of the sender's bytes, these are off the queue, and the wait is over. -/
structure Delivers (sender : Nat) (before after : Site τ) : Prop where
  enough : before.buffer.length ≤ (stream sender before.queue.messages).length
  filled : after.buffer = (stream sender before.queue.messages).take before.buffer.length
  rest : stream sender after.queue.messages = (stream sender before.queue.messages).drop before.buffer.length
  others : after.queue.messages.filter (·.sender ≠ sender) = before.queue.messages.filter (·.sender ≠ sender)
  waiting : after.queue.waiting = none
  host : after.host = before.host

/-- Fewer bytes are queued than the buffer takes, and neither has changed. -/
structure Misses (sender : Nat) (before after : Site τ) : Prop where
  missing : (stream sender before.queue.messages).length < before.buffer.length
  buffer : after.buffer = before.buffer
  messages : after.queue.messages = before.queue.messages

def AllOrNothing (host : Host τ) (sender : Nat) (before after : Site τ) : Look → Prop
  | .delivered => before.Delivers sender after
  | .blocked => before.Misses sender after ∧ (host.knows before.queue.owner before.host).1 = true ∧
      after.queue.waiting = some ⟨sender, before.buffer.length⟩
  | .ownerGone => before.Misses sender after ∧ (host.knows before.queue.owner before.host).1 = false ∧
      after.queue.waiting = none

theorem look_delivers (host : Host τ) (offered : before.queue.offers sender before.buffer.length = true) :
    ∃ after, before.look host sender = (.delivered, after) ∧ before.Delivers sender after := by
  have enough := Queue.offers_iff.mp offered
  have taken : (before.queue.endWait.take sender before.buffer.length).1 =
      (stream sender before.queue.messages).take before.buffer.length :=
    Queue.takeFromLine_fst sender before.buffer.length before.queue.messages
  refine ⟨{ before with
    queue := (before.queue.endWait.take sender before.buffer.length).2
    buffer := Queue.overlay (before.queue.endWait.take sender before.buffer.length).1 before.buffer },
    by rw [look, if_pos offered], enough, ?_, ?_, ?_, rfl, rfl⟩
  · have length : ((stream sender before.queue.messages).take before.buffer.length).length =
        before.buffer.length := List.length_take_of_le enough
    change Queue.overlay _ before.buffer = _
    rw [Queue.overlay, taken, length, List.drop_length, List.append_nil]
  · exact Queue.stream_rest sender before.buffer.length before.queue.messages
  · exact Queue.others_takeFromLine sender before.buffer.length before.queue.messages

theorem look_all_or_nothing (host : Host τ) (sender : Nat) (before : Site τ) :
    before.AllOrNothing host sender (before.look host sender).2 (before.look host sender).1 := by
  by_cases offered : before.queue.offers sender before.buffer.length = true
  · obtain ⟨after, looked, delivers⟩ := look_delivers host offered
    rw [looked]
    exact delivers
  · have missing := Queue.not_offers_iff.mp offered
    rw [look, if_neg offered]
    rcases answer : host.knows before.queue.owner before.host with ⟨_ | _, asked⟩
    · exact ⟨⟨missing, rfl, rfl⟩, by rw [answer], rfl⟩
    · exact ⟨⟨missing, rfl, rfl⟩, by rw [answer], rfl⟩

end Site

/-- A receive that returns: the looks that found too little, each before and after, and the last one. Between two
looks its owner has given up the processor, and `yields` says what it may find when it runs again. -/
inductive Receives {τ : Type} (host : Host τ) (sender : Nat) (yields : Site τ → Site τ → Prop) :
    (start : Site τ) → (earlier : List (Site τ × Site τ)) → (last : Site τ) → Look → (after : Site τ) → Prop
  | ends {last after : Site τ} {outcome : Look} :
      last.look host sender = (outcome, after) → outcome ≠ .blocked →
      Receives host sender yields last [] last outcome after
  | parks {site blocked resumed last after : Site τ} {earlier : List (Site τ × Site τ)} {outcome : Look} :
      site.look host sender = (.blocked, blocked) → yields blocked resumed →
      Receives host sender yields resumed earlier last outcome after →
      Receives host sender yields site ((site, blocked) :: earlier) last outcome after

namespace Receives
variable {τ : Type} {host : Host τ} {sender : Nat} {yields : Site τ → Site τ → Prop}
variable {start last after : Site τ} {earlier : List (Site τ × Site τ)} {outcome : Look}

theorem mono {more : Site τ → Site τ → Prop} (allow : ∀ blocked resumed, yields blocked resumed → more blocked resumed)
    (receives : Receives host sender yields start earlier last outcome after) :
    Receives host sender more start earlier last outcome after := by
  induction receives with
  | ends looked ended => exact .ends looked ended
  | parks looked yielded _ ih => exact .parks looked (allow _ _ yielded) ih

theorem ending (receives : Receives host sender yields start earlier last outcome after) :
    last.AllOrNothing host sender after outcome ∧ outcome ≠ .blocked := by
  induction receives with
  | @ends last after outcome looked ended =>
    have whole := last.look_all_or_nothing host sender
    rw [looked] at whole
    exact ⟨whole, ended⟩
  | parks _ _ _ ih => exact ih

theorem waiting (receives : Receives host sender yields start earlier last outcome after) :
    ∀ look ∈ earlier, look.1.AllOrNothing host sender look.2 .blocked := by
  induction receives with
  | ends => exact nofun
  | @parks site blocked _ _ _ _ _ looked _ _ ih =>
    have whole := site.look_all_or_nothing host sender
    rw [looked] at whole
    intro look member
    rcases List.mem_cons.mp member with rfl | later
    · exact whole
    · exact ih look later

/-- While nobody else writes to the buffer, it stays as it was until the last look. -/
theorem buffer_last (receives : Receives host sender yields start earlier last outcome after)
    (own : ∀ blocked resumed, yields blocked resumed → resumed.buffer = blocked.buffer) :
    last.buffer = start.buffer := by
  induction receives with
  | ends => rfl
  | @parks site blocked resumed _ _ _ _ looked yielded _ ih =>
    have whole := site.look_all_or_nothing host sender
    rw [looked] at whole
    obtain ⟨misses, -⟩ := whole
    rw [ih, own blocked resumed yielded, misses.buffer]

/-- What holds at first and again whenever the owner is back holds at the last look. -/
theorem keeps {fact : Site τ → Prop} (receives : Receives host sender yields start earlier last outcome after)
    (holds : fact start)
    (back : ∀ site blocked resumed, fact site → site.look host sender = (.blocked, blocked) →
      yields blocked resumed → fact resumed) : fact last := by
  induction receives with
  | ends => exact holds
  | parks looked yielded _ ih => exact ih (back _ _ _ holds looked yielded)

theorem keeps_parked {fact later : Site τ → Prop}
    (receives : Receives host sender yields start earlier last outcome after) (parked : earlier ≠ [])
    (holds : fact start) (stays : ∀ site, later site → fact site)
    (back : ∀ site blocked resumed, fact site → site.look host sender = (.blocked, blocked) →
      yields blocked resumed → later resumed) : later last := by
  cases receives with
  | ends => exact absurd rfl parked
  | parks looked yielded rest =>
    exact rest.keeps (back _ _ _ holds looked yielded) fun site blocked resumed fact =>
      back site blocked resumed (stays site fact)

theorem of_empty (receives : Receives host sender yields start earlier last outcome after)
    (empty : start.buffer = []) : earlier = [] ∧ outcome = .delivered ∧ after.host = start.host := by
  have offered : start.queue.offers sender start.buffer.length = true := by
    rw [empty]
    exact Queue.offers_iff.mpr (Nat.zero_le _)
  obtain ⟨filled, looked, delivers⟩ := Site.look_delivers host offered
  cases receives with
  | ends ended =>
    cases looked.symm.trans ended
    exact ⟨rfl, rfl, delivers.host⟩
  | parks blocked => cases looked.symm.trans blocked

end Receives

end Nucleus.Kernel
