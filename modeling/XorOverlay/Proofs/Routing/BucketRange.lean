import Mathlib
import XorOverlay.Proofs.IdentBlock
import XorOverlay.Routing.Bucket

/-!
Ranges of buckets. A bucket covers one aligned block of identifiers, so what it covers is a matter
of the bits above its depth, and a split cuts the block into the two blocks of half its size.
-/

namespace XorOverlay.Bucket

open XorOverlay.Ident

set_option autoImplicit false

/-- The range is the aligned block of `2 ^ depth` identifiers that begins at its lower end. -/
def Aligned (bucket : Bucket) : Prop :=
  2 ^ bucket.depth ∣ bucket.lower ∧ bucket.upper + 1 = bucket.lower + 2 ^ bucket.depth

theorem covers_iff (id : Ident) (bucket : Bucket) :
    bucket.covers id = true ↔ bucket.lower ≤ id.toNat ∧ id.toNat ≤ bucket.upper := by
  simp only [covers, Bool.and_eq_true, decide_eq_true_eq]

theorem covers_congr {first second : Bucket} (lower : first.lower = second.lower)
    (upper : first.upper = second.upper) (id : Ident) : first.covers id = second.covers id := by
  simp only [covers, lower, upper]

theorem depth_congr {first second : Bucket} (lower : first.lower = second.lower)
    (upper : first.upper = second.upper) : first.depth = second.depth := by
  simp only [depth, lower, upper]

theorem splittable_congr {first second : Bucket} (lower : first.lower = second.lower)
    (upper : first.upper = second.upper) (owner : Ident) :
    first.splittable owner = second.splittable owner := by
  simp only [splittable, depth_congr lower upper, covers_congr lower upper]

theorem depth_of_width {bucket : Bucket} {depth : Nat}
    (width : bucket.upper + 1 = bucket.lower + 2 ^ depth) : bucket.depth = depth := by
  have positive : 0 < 2 ^ depth := Nat.two_pow_pos depth
  have count : bucket.upper - bucket.lower + 1 = 2 ^ depth := by omega
  rw [Bucket.depth, count, Nat.log2_two_pow]

theorem aligned_of_width {bucket : Bucket} (depth : Nat) (divides : 2 ^ depth ∣ bucket.lower)
    (width : bucket.upper + 1 = bucket.lower + 2 ^ depth) : bucket.Aligned := by
  unfold Aligned
  rw [depth_of_width width]
  exact ⟨divides, width⟩

theorem aligned_congr {first second : Bucket} (lower : first.lower = second.lower)
    (upper : first.upper = second.upper) (aligned : second.Aligned) : first.Aligned := by
  unfold Aligned
  rw [depth_congr lower upper, lower, upper]
  exact aligned

theorem whole_aligned (now : Nanoseconds) : (empty 0 (Ident.total - 1) now).Aligned := by
  have positive : 0 < 2 ^ 160 := Nat.two_pow_pos 160
  have count : Ident.total = 2 ^ 160 := rfl
  apply aligned_of_width 160
  · exact Nat.dvd_zero _
  · show Ident.total - 1 + 1 = 0 + 2 ^ 160
    omega

theorem covers_iff_div {bucket : Bucket} (aligned : bucket.Aligned) (id : Ident) :
    bucket.covers id = true ↔
      id.toNat / 2 ^ bucket.depth = bucket.lower / 2 ^ bucket.depth := by
  have positive : 0 < 2 ^ bucket.depth := Nat.two_pow_pos bucket.depth
  have begins := Nat.div_mul_cancel aligned.1
  have ends := aligned.2
  rw [covers_iff, Nat.div_eq_iff positive, begins]
  omega

/-- A bucket that covers one identifier covers exactly the block around it. -/
theorem covers_iff_same_block {bucket : Bucket} (aligned : bucket.Aligned) {a : Ident}
    (covered : bucket.covers a = true) (b : Ident) :
    bucket.covers b = true ↔ SameBlock bucket.depth a b := by
  rw [covers_iff_div aligned] at covered ⊢
  rw [same_block_iff_div, covered, eq_comm]

theorem covers_owner_iff {bucket : Bucket} (aligned : bucket.Aligned) {id : Ident}
    (covered : bucket.covers id = true) (owner : Ident) :
    bucket.covers owner = true ↔ id.rank owner ≤ bucket.depth := by
  rw [covers_iff_same_block aligned covered, rank_le_iff]

theorem eq_of_depth_zero {bucket : Bucket} (aligned : bucket.Aligned) (flat : bucket.depth = 0)
    {a b : Ident} (first : bucket.covers a = true) (second : bucket.covers b = true) : a = b := by
  rw [covers_iff_same_block aligned first, flat, same_block_zero_iff] at second
  exact second

theorem splittable_iff (owner : Ident) (bucket : Bucket) :
    bucket.splittable owner = true ↔
      0 < bucket.depth ∧ (bucket.covers owner = true ∨ bucket.depth % 5 ≠ 0) := by
  simp only [splittable, Bool.and_eq_true, Bool.or_eq_true, decide_eq_true_eq]
  exact Iff.rfl

theorem split_width {bucket : Bucket} (aligned : bucket.Aligned) (deep : 0 < bucket.depth) :
    bucket.midpoint + 1 = bucket.lower + 2 ^ (bucket.depth - 1) ∧
      bucket.upper + 1 = bucket.midpoint + 1 + 2 ^ (bucket.depth - 1) := by
  have half : 2 ^ bucket.depth = 2 * 2 ^ (bucket.depth - 1) := by
    rw [← pow_succ', Nat.sub_add_cancel deep]
  have positive : 0 < 2 ^ (bucket.depth - 1) := Nat.two_pow_pos _
  have ends := aligned.2
  rw [half] at ends
  unfold midpoint
  omega

theorem lower_half_depth (capacity : Nat) (now : Nanoseconds) {bucket : Bucket}
    (aligned : bucket.Aligned) (deep : 0 < bucket.depth) :
    (bucket.split capacity now).1.depth = bucket.depth - 1 := by
  have range := split_range capacity now bucket
  apply depth_of_width
  rw [range.1, range.2.1]
  exact (split_width aligned deep).1

theorem upper_half_depth (capacity : Nat) (now : Nanoseconds) {bucket : Bucket}
    (aligned : bucket.Aligned) (deep : 0 < bucket.depth) :
    (bucket.split capacity now).2.depth = bucket.depth - 1 := by
  have range := split_range capacity now bucket
  apply depth_of_width
  rw [range.2.2.1, range.2.2.2]
  exact (split_width aligned deep).2

theorem half_divides {bucket : Bucket} (aligned : bucket.Aligned) :
    2 ^ (bucket.depth - 1) ∣ bucket.lower :=
  (pow_dvd_pow 2 (Nat.sub_le _ _)).trans aligned.1

theorem split_aligned (capacity : Nat) (now : Nanoseconds) {bucket : Bucket}
    (aligned : bucket.Aligned) (deep : 0 < bucket.depth) :
    (bucket.split capacity now).1.Aligned ∧ (bucket.split capacity now).2.Aligned := by
  have range := split_range capacity now bucket
  have width := split_width aligned deep
  constructor
  · apply aligned_of_width (bucket.depth - 1)
    · rw [range.1]
      exact half_divides aligned
    · rw [range.1, range.2.1]
      exact width.1
  · apply aligned_of_width (bucket.depth - 1)
    · rw [range.2.2.1, width.1]
      exact (half_divides aligned).add (dvd_refl _)
    · rw [range.2.2.1, range.2.2.2]
      exact width.2

theorem split_covers (capacity : Nat) (now : Nanoseconds) {bucket : Bucket} {id : Ident}
    (covered : bucket.covers id = true) :
    ((bucket.split capacity now).1.covers id = true ↔ id.toNat ≤ bucket.midpoint) ∧
      ((bucket.split capacity now).2.covers id = true ↔ ¬id.toNat ≤ bucket.midpoint) := by
  have range := split_range capacity now bucket
  rw [covers_iff] at covered
  rw [covers_iff, covers_iff, range.1, range.2.1, range.2.2.1, range.2.2.2]
  omega

end XorOverlay.Bucket
