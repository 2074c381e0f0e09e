import Nucleus.Proofs.Kernel.Activities
import Nucleus.Proofs.Kernel.Turns

/-! Relations between the kernel before a call and the kernel after it. A receive that stays parked leaves the kernel
that others find while it waits, so such a relation need only be known of calls with nobody else around. -/
namespace Nucleus

theorem Op.Lasting.compositional {σ : Type} {relation : σ → σ → Prop} (lasting : Op.Lasting relation) :
    Kernel.Compositional fun _ op => op.Leaves relation where
  pure := .pure lasting
  bind := .bind lasting
  log _ _ := .emit lasting _

namespace Kernel
open Messages Processes Syscall

variable {ρ : Type} {rounds : List (Op Kernel ρ)} {relation : Kernel → Kernel → Prop}
variable {number sender : Nat} {buffer : Buffer}

section Reads
variable (lasting : Op.Lasting relation)
include lasting

theorem currentPid_leaves : (onTable Scheduler.currentPid).Leaves relation := by
  intro kernel events value after ran
  obtain ⟨-, rfl⟩ := currentPid_returns.ran ran
  exact lasting.refl after

theorem knows_leaves (pid : Nat) : (onTable (Scheduler.knows pid)).Leaves relation := by
  intro kernel events value after ran
  obtain ⟨-, rfl⟩ := (knows_returns pid).ran ran
  exact lasting.refl after

theorem findQueue_leaves (owner : Nat) : (onRegistry (Registry.findQueue owner)).Leaves relation := by
  intro kernel events value after ran
  obtain ⟨-, rfl⟩ := (findQueue_returns owner).ran ran
  exact lasting.refl after

end Reads

/-- Between two looks of a receive its owner is out of the processor, just as it is when the receive stays parked. -/
theorem receive_leaves (lasting : Op.Lasting relation)
    (alone : (receive (σ := Kernel) (ρ := ρ) number sender buffer []).Leaves relation)
    (during : ∀ round ∈ rounds, round.Leaves relation) :
    (receive number sender buffer rounds).Leaves relation := by
  induction rounds with
  | nil => exact alone
  | cons round later ih =>
    intro kernel events result after ran
    obtain ⟨early, looked, seen, rest, look_ran, ran⟩ := Op.bind_ran ran
    cases looked with
    | delivered =>
      cases ran
      exact alone kernel _ (.delivered, [], 0) after (Op.run_bind_ok kernel look_ran _)
    | ownerGone =>
      cases ran
      exact alone kernel _ (.ownerGone, [], 0) after (Op.run_bind_ok kernel look_ran _)
    | blocked =>
      obtain ⟨left, _, parked, _, yield_ran, ran⟩ := Op.bind_ran ran
      obtain ⟨_, _, resumed, _, round_ran, ran⟩ := Op.bind_ran ran
      obtain ⟨_, _, ended, _, later_ran, ran⟩ := Op.bind_ran ran
      cases ran
      have parks : (receive (σ := Kernel) (ρ := ρ) number sender buffer []).run kernel =
          (early ++ (left ++ []), .ok ((.parked, [], 0), parked)) := by
        rw [receive, Op.run_bind_ok kernel look_ran]
        simp only
        rw [Op.run_bind_ok seen yield_ran]
        rfl
      have waits := alone kernel _ _ parked parks
      have runs := during round List.mem_cons_self parked _ _ resumed round_ran
      have rests := ih (fun next member => during next (List.mem_cons_of_mem round member)) resumed _ _ _ later_ran
      exact lasting.trans (lasting.trans waits runs) rests

/-- Only a receive lets others run: of another call nothing but the count of the rounds depends on them. -/
theorem dispatch_leaves (lasting : Op.Lasting relation) {refused : Option Allocation} {frame : Frame}
    (alone : (dispatch (σ := Kernel) (ρ := ρ) refused [] frame).Leaves relation)
    (receives : ∀ number sender buffer, (receive number sender buffer rounds).Leaves relation) :
    (dispatch refused rounds frame).Leaves relation := by
  have served := alone.of_answer
  refine .bind lasting ?_ fun _ => .pure lasting _
  rw [serve] at served ⊢
  cases selected : Selector.ofNumber? frame.selector with
  | none => exact .bind lasting (.emit lasting _) fun _ => .pure lasting _
  | some selector =>
    rw [selected] at served
    cases selector with
    | alloc => exact .bind lasting served.of_answer fun _ => .pure lasting _
    | free => exact .bind lasting served.of_answer fun _ => .pure lasting _
    | send => exact .bind lasting served.of_answer fun _ => .pure lasting _
    | receive =>
      refine lasting.compositional.serveReceive ?_ ?_ receives _ _ _
      · rw [Task.inside_kernel]
        exact currentPid_leaves lasting
      · intro owner
        rw [Task.inside_kernel]
        exact findQueue_leaves lasting owner

end Kernel
end Nucleus
