import Mathlib
import XorOverlay.Proofs.IdentBlock

/-!
Distances and ranks. The rank is the bit length of the distance, so identifiers in the order of
their distances to a target are in the order of their ranks too, and ranks make an ultrametric: of
the three ranks among three identifiers the two largest are equal.
-/

namespace XorOverlay.Ident

set_option autoImplicit false

theorem same_block_symm {depth : Nat} {a b : Ident} (same : SameBlock depth a b) :
    SameBlock depth b a :=
  fun place above => (same place above).symm

theorem same_block_trans {depth : Nat} {a b c : Ident} (first : SameBlock depth a b)
    (second : SameBlock depth b c) : SameBlock depth a c :=
  fun place above => (first place above).trans (second place above)

theorem rank_comm (a b : Ident) : a.rank b = b.rank a := by
  apply le_antisymm
  · exact (rank_le_iff a b _).mpr (same_block_symm ((rank_le_iff b a _).mp le_rfl))
  · exact (rank_le_iff b a _).mpr (same_block_symm ((rank_le_iff a b _).mp le_rfl))

theorem rank_le_max (a b c : Ident) : a.rank c ≤ max (a.rank b) (b.rank c) := by
  rw [rank_le_iff]
  apply same_block_trans (b := b)
  · exact (rank_le_iff a b _).mp (le_max_left _ _)
  · exact (rank_le_iff b c _).mp (le_max_right _ _)

/-- Of three identifiers, one that is closer to the second than the second to the third is as far
from the third. -/
theorem rank_eq_of_lt {a b c : Ident} (less : a.rank b < b.rank c) : a.rank c = b.rank c := by
  have there := rank_le_max a b c
  have back := rank_le_max b a c
  rw [rank_comm b a] at back
  omega

theorem rank_le_iff_distance (a b : Ident) (depth : Nat) :
    a.rank b ≤ depth ↔ a.distance b < 2 ^ depth := by
  have bits : ∀ place, (a.distance b).testBit place =
      (a.bits.getLsbD place ^^ b.bits.getLsbD place) := by
    intro place
    rw [distance, toNat, BitVec.testBit_toNat, offset, BitVec.getLsbD_xor]
  rw [rank_le_iff]
  constructor
  · intro same
    apply Nat.lt_pow_two_of_testBit
    intro place above
    rw [bits, same place above, Bool.xor_self]
  · intro small place above
    have clear : (a.distance b).testBit place = false :=
      Nat.testBit_lt_two_pow (small.trans_le (Nat.pow_le_pow_right (by decide) above))
    rw [bits] at clear
    simpa using clear

/-- Whoever is no farther by distance is no farther by rank. -/
theorem rank_mono {a b target : Ident} (near : a.distance target ≤ b.distance target) :
    a.rank target ≤ b.rank target := by
  rw [rank_le_iff_distance]
  exact near.trans_lt ((rank_le_iff_distance b target _).mp le_rfl)

end XorOverlay.Ident
