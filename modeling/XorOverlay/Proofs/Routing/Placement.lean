import Mathlib
import XorOverlay.Proofs.Routing.BucketSound
import XorOverlay.Routing.Table

/-!
Placing a contact in a bucket, through however many splits. The buckets that take its place tile its
range and keep the invariant, and among them they hold its live contacts and at most the one placed.
-/

namespace XorOverlay.Bucket

set_option autoImplicit false

/-- Buckets in order, the first beginning at `lower` and each next one where the one before ends,
up to but not including `upper`. -/
def Tiles : Nat → List Bucket → Nat → Prop
  | lower, [], upper => lower = upper
  | lower, bucket :: rest, upper =>
    bucket.lower = lower ∧ bucket.lower ≤ bucket.upper ∧ Tiles (bucket.upper + 1) rest upper

theorem tiles_append (first second : List Bucket) (lower upper : Nat) :
    Tiles lower (first ++ second) upper ↔
      ∃ border, Tiles lower first border ∧ Tiles border second upper := by
  induction first generalizing lower with
  | nil =>
      constructor
      · intro tiled
        exact ⟨lower, rfl, tiled⟩
      · rintro ⟨border, rfl, tiled⟩
        exact tiled
  | cons bucket rest ih =>
      simp only [List.cons_append, Tiles, ih]
      constructor
      · rintro ⟨begins, ordered, border, before, after⟩
        exact ⟨border, ⟨begins, ordered, before⟩, after⟩
      · rintro ⟨border, ⟨begins, ordered, before⟩, after⟩
        exact ⟨begins, ordered, border, before, after⟩

theorem tiles_le {buckets : List Bucket} {lower upper : Nat} (tiled : Tiles lower buckets upper) :
    lower ≤ upper := by
  induction buckets generalizing lower with
  | nil => exact Nat.le_of_eq tiled
  | cons bucket rest ih =>
      obtain ⟨begins, ordered, after⟩ := tiled
      have later := ih after
      omega

theorem tiles_singleton {bucket : Bucket} (aligned : bucket.Aligned) :
    Tiles bucket.lower [bucket] (bucket.upper + 1) := by
  have positive : 0 < 2 ^ bucket.depth := Nat.two_pow_pos bucket.depth
  have ends := aligned.2
  refine ⟨rfl, ?_, rfl⟩
  omega

/-- Placement follows the splits: it ends in a bucket that takes the contact in or may not be split,
and is otherwise what happens in the half on the side of the contact, beside the other half. -/
theorem place_induction {owner : Ident} {capacity : Nat} {now : Nanoseconds} {contact : Contact}
    {motive : Bucket → List Bucket → Bool → Prop}
    (settled : ∀ bucket,
      ((bucket.add capacity now contact).2 = true ∨ ¬bucket.splittable owner = true) →
      motive bucket [(bucket.add capacity now contact).1] (bucket.add capacity now contact).2)
    (lowerHalf : ∀ bucket placed live, (bucket.add capacity now contact).2 = false →
      bucket.splittable owner = true → contact.id.toNat ≤ bucket.midpoint →
      motive (bucket.split capacity now).1 placed live →
      motive bucket (placed ++ [(bucket.split capacity now).2]) live)
    (upperHalf : ∀ bucket placed live, (bucket.add capacity now contact).2 = false →
      bucket.splittable owner = true → ¬contact.id.toNat ≤ bucket.midpoint →
      motive (bucket.split capacity now).2 placed live →
      motive bucket ((bucket.split capacity now).1 :: placed) live)
    (bucket : Bucket) :
    motive bucket (bucket.place owner capacity now contact).1
      (bucket.place owner capacity now contact).2 := by
  induction bucket using place.induct owner capacity now contact with
  | case1 bucket room _ _ _ =>
      rw [place, if_pos room]
      apply settled bucket
      rw [add_answer]
      exact Or.inl room
  | case2 bucket full may low _ _ _ ih =>
      rw [place, if_neg full, dif_pos may, if_pos low]
      apply lowerHalf bucket _ _ _ may low ih
      rw [add_answer]
      exact Bool.eq_false_iff.mpr full
  | case3 bucket full may high _ _ _ ih =>
      rw [place, if_neg full, dif_pos may, if_neg high]
      apply upperHalf bucket _ _ _ may high ih
      rw [add_answer]
      exact Bool.eq_false_iff.mpr full
  | case4 bucket full rest _ _ _ =>
      rw [place, if_neg full, dif_neg rest]
      exact settled bucket (Or.inr rest)

theorem place_tiles {owner : Ident} {capacity : Nat} (now : Nanoseconds) {contact : Contact}
    {bucket : Bucket} (sound : bucket.Sound owner capacity)
    (inside : bucket.covers contact.id = true) (stranger : contact.id ≠ owner) :
    Tiles bucket.lower (bucket.place owner capacity now contact).1 (bucket.upper + 1) ∧
      ∀ part ∈ (bucket.place owner capacity now contact).1, part.Sound owner capacity := by
  revert sound inside
  refine place_induction (motive := fun bucket placed _ =>
    bucket.Sound owner capacity → bucket.covers contact.id = true →
      Tiles bucket.lower placed (bucket.upper + 1) ∧
        ∀ part ∈ placed, part.Sound owner capacity) ?_ ?_ ?_ bucket
  · intro bucket final sound inside
    have filled := add_sound now sound inside stranger final
    have tiled := tiles_singleton filled.aligned
    obtain ⟨lower, upper⟩ := add_range capacity now contact bucket
    rw [lower, upper] at tiled
    refine ⟨tiled, ?_⟩
    intro part member
    rw [List.mem_singleton.mp member]
    exact filled
  · intro bucket placed live _ may low ih sound inside
    obtain ⟨soundLower, soundUpper⟩ := split_sound now sound may
    obtain ⟨tiled, parts⟩ := ih soundLower ((split_covers capacity now inside).1.mpr low)
    have range := split_range capacity now bucket
    have other := tiles_singleton soundUpper.aligned
    rw [range.1, range.2.1] at tiled
    rw [range.2.2.1, range.2.2.2] at other
    refine ⟨(tiles_append _ _ _ _).mpr ⟨_, tiled, other⟩, ?_⟩
    intro part member
    rcases List.mem_append.mp member with inner | outer
    · exact parts part inner
    · rw [List.mem_singleton.mp outer]
      exact soundUpper
  · intro bucket placed live _ may high ih sound inside
    obtain ⟨soundLower, soundUpper⟩ := split_sound now sound may
    obtain ⟨tiled, parts⟩ := ih soundUpper ((split_covers capacity now inside).2.mpr high)
    have range := split_range capacity now bucket
    have other := tiles_singleton soundLower.aligned
    rw [range.2.2.1, range.2.2.2] at tiled
    rw [range.1, range.2.1] at other
    refine ⟨(tiles_append [_] _ _ _).mpr ⟨_, other, tiled⟩, ?_⟩
    intro part member
    rcases List.mem_cons.mp member with rfl | inner
    · exact soundLower
    · exact parts part inner

theorem split_live_perm {owner : Ident} {capacity : Nat} (now : Nanoseconds) {bucket : Bucket}
    (sound : bucket.Sound owner capacity) (may : bucket.splittable owner = true) :
    ((bucket.split capacity now).1.live ++ (bucket.split capacity now).2.live).Perm
      bucket.live := by
  obtain ⟨⟨lower, upper⟩, _⟩ := split_live now sound may
  rw [lower, upper]
  exact List.filter_append_perm _ bucket.live

/-- A contact that is not live in a bucket that cannot take it in is not live in its halves. -/
theorem fresh_of_full {capacity : Nat} {now : Nanoseconds} {contact : Contact} {bucket : Bucket}
    (full : (bucket.add capacity now contact).2 = false) {part : List Contact}
    (kept : part ⊆ bucket.live) : without contact.id part = part := by
  rw [add_answer, Bool.or_eq_false_iff] at full
  apply without_eq_self
  intro known member
  exact absent_of_not_holds (Bool.eq_false_iff.mp full.1) known (kept member)

/-- No placement drops a live contact, brings a parked one back, or adds one but the contact
placed. -/
theorem place_live {owner : Ident} {capacity : Nat} (now : Nanoseconds) (contact : Contact)
    {bucket : Bucket} (sound : bucket.Sound owner capacity) :
    ((bucket.place owner capacity now contact).1.flatMap live).Perm
      (if (bucket.place owner capacity now contact).2 = true then
        without contact.id bucket.live ++ [contact]
      else bucket.live) := by
  revert sound
  refine place_induction (motive := fun bucket placed answer =>
    bucket.Sound owner capacity → (placed.flatMap live).Perm
      (if answer = true then without contact.id bucket.live ++ [contact] else bucket.live))
    ?_ ?_ ?_ bucket
  · intro bucket _ _
    rw [List.flatMap_singleton, add_live]
  · intro bucket placed answer full may _ ih sound
    have halves := split_live_perm now sound may
    have inner := ih (split_sound now sound may).1
    rw [fresh_of_full full fun _ member => halves.subset (List.mem_append_left _ member)] at inner
    rw [List.flatMap_append, List.flatMap_singleton, fresh_of_full full (List.Subset.refl _)]
    refine (inner.append_right _).trans ?_
    cases answer with
    | true =>
        refine List.Perm.trans ?_ (halves.append_right [contact])
        simp only [if_true, List.append_assoc]
        exact List.Perm.append_left _ List.perm_append_comm
    | false => exact halves
  · intro bucket placed answer full may _ ih sound
    have halves := split_live_perm now sound may
    have inner := ih (split_sound now sound may).2
    rw [fresh_of_full full fun _ member => halves.subset (List.mem_append_right _ member)]
      at inner
    rw [List.flatMap_cons, fresh_of_full full (List.Subset.refl _)]
    refine (inner.append_left _).trans ?_
    cases answer with
    | true =>
        refine List.Perm.trans ?_ (halves.append_right [contact])
        rw [if_pos rfl, List.append_assoc]
    | false => exact halves

end XorOverlay.Bucket
