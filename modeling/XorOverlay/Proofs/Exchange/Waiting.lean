import Mathlib
import XorOverlay.Exchange.Pending
import XorOverlay.Proofs.Entries

/-!
The steps of waiting callers, and what they leave alone. Completing a request takes a caller off the
list and then fills its mailbox, finishing looks into the mailbox and then clears the tag; each of
these halves changes nothing for other tags and other callers.
-/

namespace XorOverlay

set_option autoImplicit false

/-- What a caller that looks into its mailbox for the last time ends with. -/
def Mailbox.outcome : Mailbox → Except Failure Response
  | .answered response => .ok response
  | .abandoned => .error Failure.abandoned
  | .waiting => .error .timedOut

namespace Pending

/-- Whoever waits under a tag is taken off the list. -/
def take (tag : Tag) (pending : Pending) : Option (Caller × Pending) :=
  (pending.slots.lookup tag).map fun caller =>
    (caller, { pending with slots := pending.slots.filter fun slot => slot.1 != tag })

/-- A response is taken for a caller, and then handed over. -/
theorem complete_eq (response : Response) (pending : Pending) :
    pending.complete response =
      match pending.take response.tag with
      | some (caller, taken) => (true, taken.deliverTo caller (.answered response))
      | none => (false, pending) := by
  rw [complete, take]
  cases pending.slots.lookup response.tag with
  | none => rfl
  | some caller => rfl

theorem outcome_eq (caller : Caller) (pending : Pending) :
    pending.outcome caller = (pending.mailbox caller).outcome := by
  rw [outcome]
  cases pending.mailbox caller with
  | waiting => rfl
  | answered response => rfl
  | abandoned => rfl

theorem lookup_deliver (caller other : Caller) (mailbox : Mailbox) (pending : Pending) :
    (pending.deliverTo caller mailbox).mail.lookup other =
      (pending.mail.lookup other).map fun held => if other = caller then mailbox else held := by
  rw [deliverTo]
  dsimp only
  induction pending.mail with
  | nil => rfl
  | cons entry rest ih =>
      obtain ⟨owner, held⟩ := entry
      rw [List.map_cons, List.lookup_cons, List.lookup_cons, ih]
      by_cases mine : owner = caller
      · subst mine
        by_cases here : other = owner
        · simp [here]
        · simp [here, beq_false_of_ne here]
      · by_cases here : other = owner
        · subst here
          simp [mine]
        · simp [mine, beq_false_of_ne here]

theorem slots_discard (tag : Tag) (pending : Pending) :
    (pending.discard tag).slots = pending.slots.filter fun slot => slot.1 != tag := by
  rw [discard]
  cases pending.slots.lookup tag with
  | none => rfl
  | some caller => rfl

theorem next_discard (tag : Tag) (pending : Pending) :
    (pending.discard tag).next = pending.next := by
  rw [discard]
  cases pending.slots.lookup tag with
  | none => rfl
  | some caller => rfl

theorem lookup_discard {tag : Tag} {other : Caller} {pending : Pending}
    (apart : pending.slots.lookup tag ≠ some other) :
    (pending.discard tag).mail.lookup other = pending.mail.lookup other := by
  rw [discard]
  cases held : pending.slots.lookup tag with
  | none => rfl
  | some caller =>
      have distinct : other ≠ caller := fun same => apart (held.trans (congrArg some same.symm))
      dsimp only
      rw [lookup_deliver]
      simp [distinct]

/-- Nothing changes for other tags and other callers. -/
structure Spares (tag : Tag) (caller : Caller) (before after : Pending) : Prop where
  slots : ∀ other, other ≠ tag → after.slots.lookup other = before.slots.lookup other
  mail : ∀ other, other ≠ caller → after.mail.lookup other = before.mail.lookup other
  next : before.next ≤ after.next
  distinct : (before.slots.map Prod.fst).Nodup → (after.slots.map Prod.fst).Nodup

variable {tag : Tag} {caller : Caller} {pending : Pending}

theorem lookup_cleared (tag other : Tag) (slots : List (Tag × Caller)) (apart : other ≠ tag) :
    (slots.filter fun slot => slot.1 != tag).lookup other = slots.lookup other := by
  rw [lookup_without, if_neg apart]

theorem cleared_distinct {slots : List (Tag × Caller)} (distinct : (slots.map Prod.fst).Nodup)
    (tag : Tag) : ((slots.filter fun slot => slot.1 != tag).map Prod.fst).Nodup :=
  distinct.sublist (List.filter_sublist.map Prod.fst)

theorem spares_refl (tag : Tag) (caller : Caller) (pending : Pending) :
    Spares tag caller pending pending :=
  ⟨fun _ _ => rfl, fun _ _ => rfl, le_rfl, id⟩

theorem register_spares (free : pending.slots.lookup tag = none) :
    Spares tag pending.next pending (pending.register tag).2 := by
  have next := next_discard tag pending
  refine ⟨?_, ?_, ?_, ?_⟩
  · intro other apart
    rw [register, List.lookup_cons, beq_false_of_ne apart, slots_discard]
    exact lookup_cleared tag other pending.slots apart
  · intro other apart
    rw [register, next, List.lookup_cons, beq_false_of_ne apart]
    exact lookup_discard (by rw [free]; simp)
  · rw [register, next]
    exact Nat.le_succ _
  · intro distinct
    rw [register, slots_discard, List.map_cons, List.nodup_cons]
    refine ⟨?_, cleared_distinct distinct tag⟩
    intro listed
    obtain ⟨slot, kept, same⟩ := List.mem_map.mp listed
    exact bne_iff_ne.mp (List.mem_filter.mp kept).2 same

theorem registered_eq (tag : Tag) (pending : Pending) :
    (pending.register tag).1 = pending.next ∧
      (pending.register tag).2.slots.lookup tag = some pending.next ∧
      (pending.register tag).2.mail.lookup pending.next = some .waiting ∧
      (pending.register tag).2.next = pending.next + 1 := by
  rw [register, next_discard]
  simp

theorem take_spares (tag : Tag) (caller : Caller) (pending : Pending) :
    Spares tag caller pending
      { pending with slots := pending.slots.filter fun slot => slot.1 != tag } :=
  ⟨fun other apart => lookup_cleared tag other pending.slots apart, fun _ _ => rfl, le_rfl,
    fun distinct => cleared_distinct distinct tag⟩

theorem deliver_spares (tag : Tag) (caller : Caller) (mailbox : Mailbox) (pending : Pending) :
    Spares tag caller pending (pending.deliverTo caller mailbox) := by
  refine ⟨fun _ _ => rfl, ?_, le_rfl, id⟩
  intro other apart
  rw [lookup_deliver]
  simp [apart]

theorem withdraw_spares (own : ∀ held, pending.slots.lookup tag = some held → held = caller) :
    Spares tag caller pending (pending.withdraw caller tag) := by
  refine ⟨?_, ?_, ?_, ?_⟩
  · intro other apart
    rw [withdraw, slots_discard]
    exact lookup_cleared tag other pending.slots apart
  · intro other apart
    rw [withdraw, lookup_without, if_neg apart]
    exact lookup_discard fun held => apart (own other held)
  · rw [withdraw, next_discard]
  · intro distinct
    rw [withdraw, slots_discard]
    exact cleared_distinct distinct tag

theorem withdrawn_eq (caller : Caller) (tag : Tag) (pending : Pending) :
    (pending.withdraw caller tag).slots.lookup tag = none ∧
      (pending.withdraw caller tag).mail.lookup caller = none ∧
      (pending.withdraw caller tag).next = pending.next := by
  rw [withdraw, slots_discard, next_discard]
  exact ⟨(lookup_without tag tag _).trans (if_pos rfl),
    (lookup_without caller caller _).trans (if_pos rfl), rfl⟩

end Pending
end XorOverlay
