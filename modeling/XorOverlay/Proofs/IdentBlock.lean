import Mathlib
import XorOverlay.Ident

/-!
Blocks of identifiers. Dropping the `depth` low-order bits sorts the identifier space into aligned
blocks of `2 ^ depth`, and the rank of a distance is the depth of the smallest block that two
identifiers share. Buckets are blocks, so every fact on ranges and ranks comes down to this one.
-/

namespace XorOverlay.Ident

set_option autoImplicit false

/-- Two identifiers agree on every bit of weight `2 ^ depth` and above. -/
def SameBlock (depth : Nat) (a b : Ident) : Prop :=
  ∀ place, depth ≤ place → a.bits.getLsbD place = b.bits.getLsbD place

theorem same_block_iff_div (depth : Nat) (a b : Ident) :
    SameBlock depth a b ↔ a.toNat / 2 ^ depth = b.toNat / 2 ^ depth := by
  constructor
  · intro same
    apply Nat.eq_of_testBit_eq
    intro place
    rw [Nat.testBit_div_two_pow, Nat.testBit_div_two_pow]
    simpa only [toNat, BitVec.testBit_toNat] using same (place + depth) (by omega)
  · intro same place high
    have shifted : place - depth + depth = place := by omega
    have bit := congrArg (fun number => number.testBit (place - depth)) same
    simp only [Nat.testBit_div_two_pow, shifted] at bit
    simpa only [toNat, BitVec.testBit_toNat] using bit

instance (depth : Nat) (a b : Ident) : Decidable (SameBlock depth a b) :=
  decidable_of_iff _ (same_block_iff_div depth a b).symm

theorem same_block_mono {low high : Nat} {a b : Ident} (le : low ≤ high)
    (same : SameBlock low a b) : SameBlock high a b :=
  fun place above => same place (le.trans above)

theorem eq_of_toNat_eq {a b : Ident} (same : a.toNat = b.toNat) : a = b := by
  cases a
  cases b
  exact congrArg Ident.mk (BitVec.eq_of_toNat_eq same)

theorem same_block_zero_iff (a b : Ident) : SameBlock 0 a b ↔ a = b := by
  rw [same_block_iff_div]
  simp only [pow_zero, Nat.div_one]
  exact ⟨eq_of_toNat_eq, congrArg toNat⟩

theorem toNat_lt_total (id : Ident) : id.toNat < total :=
  id.bits.isLt

/-- What is left of `count` bits without the clear ones in front reaches no higher than `depth`
exactly if all bits from there on are clear. -/
theorem clear_below_iff (bits : BitVec 160) (depth count : Nat) :
    count - clearBelow bits count ≤ depth ↔
      ∀ place, depth ≤ place → place < count → bits.getLsbD place = false := by
  induction count with
  | zero => simp [clearBelow]
  | succ count ih =>
      unfold clearBelow
      by_cases top : bits.getLsbD count = true
      · rw [if_pos top]
        constructor
        · intro short place high below
          omega
        · intro clear
          by_contra long
          have cleared := clear count (by omega) (by omega)
          rw [top] at cleared
          exact Bool.noConfusion cleared
      · rw [if_neg top, Nat.add_sub_add_right, ih]
        constructor
        · intro clear place high below
          rcases Nat.lt_succ_iff_lt_or_eq.mp below with less | same
          · exact clear place high less
          · rw [same]
            exact Bool.eq_false_iff.mpr top
        · intro clear place high below
          exact clear place high (by omega)

/-- The rank is the depth of the smallest block that holds both identifiers. -/
theorem rank_le_iff (a b : Ident) (depth : Nat) :
    a.rank b ≤ depth ↔ SameBlock depth a b := by
  unfold rank leadingZeros bitCount
  rw [clear_below_iff]
  constructor
  · intro clear place high
    by_cases below : place < 160
    · have bit := clear place high below
      simp only [offset, BitVec.getLsbD_xor] at bit
      simpa only [bne_eq_false_iff_eq] using bit
    · rw [BitVec.getLsbD_of_ge _ _ (by omega), BitVec.getLsbD_of_ge _ _ (by omega)]
  · intro same place high below
    simp only [offset, BitVec.getLsbD_xor, same place high, bne_self_eq_false]

theorem rank_le_bit_count (a b : Ident) : a.rank b ≤ bitCount :=
  Nat.sub_le _ _

theorem rank_pos_iff (a b : Ident) : 0 < a.rank b ↔ a ≠ b := by
  rw [Nat.pos_iff_ne_zero, ne_eq, ne_eq, ← Nat.le_zero, rank_le_iff, same_block_zero_iff]

end XorOverlay.Ident
