import Mathlib
import XorOverlay.Proofs.Routing.TableHistory

/-!
What holds of every table a node can come to have. The buckets are aligned blocks that cut the
identifier space into pieces, each contact is in the piece of its identifier and on one list only,
and contacts are parked in those buckets alone that are past splitting.
-/

namespace XorOverlay

set_option autoImplicit false

/-- A bucket with parked contacts is past splitting. It cannot be that single-identifier bucket
which covers nothing but the owner, because the owner is never parked. -/
theorem Bucket.parked_apart {owner : Ident} {capacity : Nat} {bucket : Bucket}
    (sound : bucket.Sound owner capacity) (parked : bucket.parked ≠ []) :
    ¬bucket.covers owner = true ∧ bucket.depth % 5 = 0 := by
  have rest := sound.resting parked
  rw [splittable_iff] at rest
  by_cases flat : bucket.depth = 0
  · refine ⟨?_, by rw [flat]⟩
    intro home
    obtain ⟨contact, member⟩ := List.exists_mem_of_ne_nil _ parked
    have held : contact ∈ bucket.contacts := List.mem_append_right _ member
    exact sound.foreign contact held
      (eq_of_depth_zero sound.aligned flat (sound.covered contact held) home)
  · have deep : 0 < bucket.depth := Nat.pos_of_ne_zero flat
    constructor
    · intro home
      exact rest ⟨deep, Or.inl home⟩
    · by_contra uneven
      exact rest ⟨deep, Or.inr uneven⟩

/-- After any additions and removals the buckets are aligned blocks that tile the identifiers below
`2 ^ 160`, no list is longer than it may be, every contact lies in the range of its bucket, no
identifier occurs twice and the owner's nowhere, and a bucket with parked contacts neither covers
the owner nor has a depth off the multiples of 5. -/
theorem Table.representation_invariant (owner : Ident) (capacity : Nat) (start : Nanoseconds)
    (changes : List Table.Change) :
    let table := (Table.empty owner capacity start).after changes
    Bucket.Tiles 0 table.buckets (2 ^ 160) ∧
      (∀ bucket ∈ table.buckets,
        bucket.Aligned ∧ bucket.live.length ≤ capacity ∧ bucket.parked.length ≤ 5 * capacity ∧
          (∀ contact ∈ bucket.live ++ bucket.parked,
            bucket.lower ≤ contact.id.toNat ∧ contact.id.toNat ≤ bucket.upper) ∧
          (bucket.parked ≠ [] → ¬bucket.covers owner = true ∧ bucket.depth % 5 = 0)) ∧
      ((table.live ++ table.parked).map Contact.id).Nodup ∧
      ∀ contact ∈ table.live ++ table.parked, contact.id ≠ owner := by
  intro table
  have sound : table.Sound := after_sound (empty_sound owner capacity start) changes
  have kept := after_owner (Table.empty owner capacity start) changes
  have sameOwner : table.owner = owner := kept.1
  have sameCapacity : table.capacity = capacity := kept.2
  refine ⟨sound.tiled, ?_, contacts_distinct sound, ?_⟩
  · intro bucket member
    have held := sound.sound bucket member
    rw [sameOwner, sameCapacity] at held
    refine ⟨held.aligned, held.liveBound, held.parkedBound, ?_, Bucket.parked_apart held⟩
    intro contact among
    exact (Bucket.covers_iff _ _).mp (held.covered contact among)
  · intro contact member
    rw [← sameOwner]
    exact contacts_foreign sound contact member

end XorOverlay
