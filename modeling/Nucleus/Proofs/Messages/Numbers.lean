import Nucleus.Messages.Registry

/-! What becomes of the queues and of their numbers as the registry changes. -/
namespace Nucleus.Messages.Registry
variable {registry before after : Registry} {owner number other : Nat} {queue old : Queue}

theorem queue_put_self (there : registry.queues[number]? = some old) :
    (registry.put number queue).queues[number]? = some queue := by
  obtain ⟨below, -⟩ := Array.getElem?_eq_some_iff.mp there
  exact Array.getElem?_setIfInBounds_self_of_lt below

theorem queue_put_other (apart : other ≠ number) :
    (registry.put number queue).queues[other]? = registry.queues[other]? :=
  Array.getElem?_setIfInBounds_ne (Ne.symm apart)

theorem put_put (first second : Queue) :
    (registry.put number first).put number second = registry.put number second := by
  simp only [put, Array.setIfInBounds_setIfInBounds]

theorem put_same (there : registry.queues[number]? = some queue) : registry.put number queue = registry := by
  obtain ⟨below, rfl⟩ := Array.getElem?_eq_some_iff.mp there
  have unchanged : registry.queues.setIfInBounds number registry.queues[number] = registry.queues := by
    rw [Array.setIfInBounds_def, dif_pos below, Array.set_getElem_self]
  rw [put, unchanged]

/-- Every registered number is that of a queue of the owner it is registered for. -/
def Leads (registry : Registry) : Prop :=
  ∀ owner number, registry.number? owner = some number →
    ∃ queue, registry.queues[number]? = some queue ∧ queue.owner = owner

/-- All queues stay as they are; new ones are empty. -/
structure Grows (before after : Registry) : Prop where
  kept : ∀ {number : Nat} {queue : Queue}, before.queues[number]? = some queue →
    after.queues[number]? = some queue
  fresh : ∀ {number : Nat} {queue : Queue}, after.queues[number]? = some queue →
    before.queues[number]? = some queue ∨ queue.messages = [] ∧ queue.waiting = none

theorem Grows.of_queues (same : after.queues = before.queues) : Grows before after where
  kept there := by
    rw [same]
    exact there
  fresh there := by
    left
    rw [← same]
    exact there

theorem grows_create : Grows registry (registry.create owner).2 := by
  unfold create
  split
  · exact Grows.of_queues rfl
  constructor
  · intro number queue there
    obtain ⟨below, -⟩ := Array.getElem?_eq_some_iff.mp there
    rw [Array.getElem?_push_lt below]
    exact (Array.getElem?_eq_getElem below).symm.trans there
  · intro number queue there
    rw [Array.getElem?_push] at there
    split at there
    · cases there
      exact .inr ⟨rfl, rfl⟩
    · exact .inl there

theorem grows_destroy : Grows registry (registry.destroy owner).2 := Grows.of_queues rfl

/-! ### Who is registered -/

theorem create_snd (unused : registry.number? owner = none) : (registry.create owner).2 =
    ⟨registry.queues.push (Queue.ofOwner owner), registry.numbers.insert owner registry.queues.size⟩ := by
  simp only [create, unused]

theorem number?_create (unused : registry.number? owner = none) :
    (registry.create owner).2.number? other =
      if owner = other then some registry.queues.size else registry.number? other := by
  simp only [create_snd unused, number?, Std.TreeMap.getElem?_insert, Nat.compare_eq_eq]

theorem number?_create_of_some (found : registry.number? other = some number) :
    (registry.create owner).2.number? other = some number := by
  cases unused : registry.number? owner with
  | some _ => simpa only [Registry.create, unused] using found
  | none =>
    have apart : owner ≠ other := by
      rintro rfl
      cases unused.symm.trans found
    rw [number?_create unused, if_neg apart, found]

theorem number?_destroy :
    (registry.destroy owner).2.number? other = if owner = other then none else registry.number? other := by
  simp only [destroy, number?, Std.TreeMap.getElem?_erase, Nat.compare_eq_eq]

theorem queueOf?_create_self (unused : registry.number? owner = none) :
    (registry.create owner).2.queueOf? owner = some (Queue.ofOwner owner) := by
  rw [queueOf?, number?_create unused, if_pos rfl, Option.bind_some, create_snd unused]
  exact Array.getElem?_push_size

namespace Leads

theorem queueOf?_isSome (leads : registry.Leads) (owner : Nat) :
    (registry.queueOf? owner).isSome = (registry.number? owner).isSome := by
  cases found : registry.number? owner with
  | none =>
    rw [queueOf?, found]
    rfl
  | some number =>
    obtain ⟨queue, there, -⟩ := leads owner number found
    rw [queueOf?, found, Option.bind_some, there, Option.isSome_some, Option.isSome_some]

theorem owner_queueOf? (leads : registry.Leads) (found : registry.queueOf? owner = some queue) :
    queue.owner = owner := by
  obtain ⟨number, registered, there⟩ := Option.bind_eq_some_iff.mp found
  obtain ⟨known, here, owned⟩ := leads owner number registered
  cases there.symm.trans here
  exact owned

/-- A pid that has a queue keeps it; any other gets a number that was never used. -/
theorem create (leads : registry.Leads) : (registry.create owner).2.Leads := by
  have grows : Grows registry (registry.create owner).2 := grows_create
  unfold Registry.create at grows ⊢
  split at grows
  · exact leads
  intro asked number found
  rw [number?, Std.TreeMap.getElem?_insert] at found
  split at found
  · rename_i same
    rw [Nat.compare_eq_eq] at same
    subst same
    cases found
    exact ⟨Queue.ofOwner owner, Array.getElem?_push_size, rfl⟩
  · obtain ⟨queue, there, owned⟩ := leads asked number found
    exact ⟨queue, grows.kept there, owned⟩

/-- Queues that are made keep out of the way of those there are. -/
theorem queueOf?_create_other (leads : registry.Leads) (unused : registry.number? owner = none)
    (apart : owner ≠ other) : (registry.create owner).2.queueOf? other = registry.queueOf? other := by
  have grows : Grows registry (registry.create owner).2 := grows_create
  rw [queueOf?, queueOf?, number?_create unused, if_neg apart]
  cases found : registry.number? other with
  | none => rfl
  | some number =>
    obtain ⟨queue, there, -⟩ := leads other number found
    rw [Option.bind_some, Option.bind_some, grows.kept there, there]

theorem destroy (leads : registry.Leads) : (registry.destroy owner).2.Leads := by
  intro asked number found
  change (registry.numbers.erase owner)[asked]? = some number at found
  rw [Std.TreeMap.getElem?_erase] at found
  split at found
  · cases found
  · exact leads asked number found

theorem put (leads : registry.Leads) (there : registry.queues[number]? = some old)
    (owned : queue.owner = old.owner) : (registry.put number queue).Leads := by
  intro asked found_number found
  obtain ⟨known, known_there, known_owned⟩ := leads asked found_number found
  by_cases same : found_number = number
  · subst same
    cases there.symm.trans known_there
    exact ⟨queue, queue_put_self there, owned.trans known_owned⟩
  · exact ⟨known, by rw [queue_put_other same, known_there], known_owned⟩

/-- A queue that its owner is no longer led to is nobody's. -/
theorem queueOf?_put (leads : registry.Leads) (there : registry.queues[number]? = some old)
    (dropped : registry.number? old.owner ≠ some number) (owner : Nat) :
    (registry.put number queue).queueOf? owner = registry.queueOf? owner := by
  change (registry.number? owner).bind (fun other => (registry.put number queue).queues[other]?) = _
  cases found : registry.number? owner with
  | none => rw [queueOf?, found, Option.bind_none, Option.bind_none]
  | some other =>
    have apart : other ≠ number := by
      rintro rfl
      obtain ⟨known, known_there, rfl⟩ := leads owner other found
      cases there.symm.trans known_there
      exact dropped found
    rw [queueOf?, found, Option.bind_some, Option.bind_some, queue_put_other apart]

end Leads

end Nucleus.Messages.Registry
