import Mathlib
import XorOverlay.Proofs.BigEndian
import XorOverlay.Proofs.Distance
import XorOverlay.Proofs.Routing.TableHistory

/-!
Ranks as bit lengths. The bytes on which two identifiers differ spell their distance, and the rank
counts the bits of that number: the clear bits in front are those of the clear bytes and of the first
byte that is not clear. As the bit length of a distance, the rank is the depth of the smallest aligned
block around both identifiers, which makes it an ultrametric.
-/

namespace XorOverlay

set_option autoImplicit false

namespace Octets

/-- The clear bits in front of the first set one: eight for each clear byte, and those of the first
byte that is not clear. -/
def clearBits : Octets → Nat
  | [] => 0
  | byte :: rest => if byte = 0 then clearBits rest + 8 else 8 - byte.toNat.size

theorem value_cons (byte : UInt8) (rest : Octets) :
    value (byte :: rest) = byte.toNat * 256 ^ rest.length + value rest := by
  induction rest using List.reverseRecOn with
  | nil => simp [value]
  | append_singleton rest last ih =>
      rw [← List.cons_append, value_append_singleton, ih, value_append_singleton,
        List.length_append, List.length_singleton, pow_succ]
      ring

/-- What is set above `width` bits counts on top of them, whatever stands below. -/
theorem size_above {high width low : Nat} (set : 0 < high) (below : low < 2 ^ width) :
    (high * 2 ^ width + low).size = high.size + width := by
  apply le_antisymm
  · rw [Nat.size_le, pow_add]
    have small : high + 1 ≤ 2 ^ high.size := Nat.lt_size_self high
    calc high * 2 ^ width + low
        < (high + 1) * 2 ^ width := by rw [add_one_mul]; omega
      _ ≤ 2 ^ high.size * 2 ^ width := Nat.mul_le_mul_right _ small
  · have positive : 0 < high.size := Nat.size_pos.mpr set
    have large : 2 ^ (high.size - 1) ≤ high := Nat.lt_size.mp (by omega)
    have top : high.size - 1 + width < (high * 2 ^ width + low).size := by
      rw [Nat.lt_size, pow_add]
      exact (Nat.mul_le_mul_right _ large).trans (Nat.le_add_right _ _)
    omega

/-- The bit length of a number and the clear bits in front make up its bytes. -/
theorem size_value (bytes : Octets) :
    (value bytes).size + clearBits bytes = 8 * bytes.length := by
  induction bytes with
  | nil => rfl
  | cons byte rest ih =>
      have power : 256 ^ rest.length = 2 ^ (8 * rest.length) := by
        rw [pow_mul]
        norm_num
      have below := value_lt rest
      rw [value_cons, clearBits, List.length_cons, power]
      rw [power] at below
      by_cases clear : byte = 0
      · subst clear
        simp only [if_true, UInt8.toNat_zero, zero_mul, zero_add]
        omega
      · have set : 0 < byte.toNat := by
          rw [Nat.pos_iff_ne_zero]
          exact fun none => clear (UInt8.toNat_inj.mp none)
        have fits : byte.toNat.size ≤ 8 := Nat.size_le.mpr byte.toNat_lt
        rw [if_neg clear, size_above set below]
        omega

/-- Numbers differ byte by byte. -/
theorem bigEndian_xor (width first second : Nat) :
    bigEndian width (first ^^^ second) =
      List.zipWith (· ^^^ ·) (bigEndian width first) (bigEndian width second) := by
  induction width generalizing first second with
  | zero => rfl
  | succ width ih =>
      have above : (first ^^^ second) / 256 = first / 256 ^^^ second / 256 :=
        @Nat.xor_div_two_pow first second 8
      rw [bigEndian, bigEndian, bigEndian, above, ih, UInt8.ofNat_xor, List.zipWith_append]
      · rfl
      · rw [length_bigEndian, length_bigEndian]

end Octets

namespace Ident

/-- The bytes on which two identifiers differ. -/
theorem octets_offset (a b : Ident) :
    (a.offset b).octets = List.zipWith (· ^^^ ·) a.octets b.octets := by
  have number : (a.offset b).toNat = a.toNat ^^^ b.toNat := BitVec.toNat_xor a.bits b.bits
  rw [octets, number, Octets.bigEndian_xor]
  rfl

theorem rank_eq_size (a b : Ident) : a.rank b = (a.distance b).size := by
  apply le_antisymm
  · rw [rank_le_iff_distance]
    exact Nat.lt_size_self _
  · rw [Nat.size_le, ← rank_le_iff_distance]

theorem rank_add_clear_bits (a b : Ident) :
    a.rank b + Octets.clearBits (List.zipWith (· ^^^ ·) a.octets b.octets) = 160 := by
  have bits := Octets.size_value (a.offset b).octets
  rw [value_octets, length_octets, octets_offset] at bits
  rw [rank_eq_size, distance, bits]
  rfl

/-- The aligned block of `2 ^ depth` numbers from `start` on. -/
def block (depth start : Nat) : Set Nat :=
  {number | 2 ^ depth ∣ start ∧ start ≤ number ∧ number < start + 2 ^ depth}

theorem same_block_iff_mem (depth : Nat) (a b : Ident) :
    SameBlock depth a b ↔ ∃ start, a.toNat ∈ block depth start ∧ b.toNat ∈ block depth start := by
  have positive : 0 < 2 ^ depth := Nat.two_pow_pos depth
  have inside : ∀ id : Ident, ∀ start, 2 ^ depth ∣ start →
      (start ≤ id.toNat ∧ id.toNat < start + 2 ^ depth ↔
        id.toNat / 2 ^ depth = start / 2 ^ depth) := by
    intro id start divides
    have begins := Nat.div_mul_cancel divides
    rw [Nat.div_eq_iff positive, begins]
    omega
  rw [same_block_iff_div]
  constructor
  · intro same
    have divides : 2 ^ depth ∣ a.toNat / 2 ^ depth * 2 ^ depth := Nat.dvd_mul_left _ _
    have index : a.toNat / 2 ^ depth * 2 ^ depth / 2 ^ depth = a.toNat / 2 ^ depth :=
      Nat.mul_div_cancel _ positive
    refine ⟨a.toNat / 2 ^ depth * 2 ^ depth, ⟨divides, ?_⟩, ⟨divides, ?_⟩⟩
    · rw [inside a _ divides, index]
    · rw [inside b _ divides, index, same]
  · rintro ⟨start, ⟨divides, first⟩, ⟨_, second⟩⟩
    rw [inside a start divides] at first
    rw [inside b start divides] at second
    rw [first, second]

/-- The rank of two identifiers is the bit length of their distance, which their bytes spell, so it
can be read off the clear bits in front of the bytes on which they differ. It is an ultrametric in
which of three ranks the two largest are equal; its balls are the aligned blocks of powers of two, and
a bucket of a table is the ball of its depth around whatever it covers. -/
theorem rank_measures_blocks (a b c : Ident) :
    (a.distance b = Octets.value (List.zipWith (· ^^^ ·) a.octets b.octets) ∧
      a.rank b = (a.distance b).size ∧
      a.rank b = 160 - Octets.clearBits (List.zipWith (· ^^^ ·) a.octets b.octets)) ∧
    ((a.rank b = 0 ↔ a = b) ∧ a.rank b = b.rank a ∧ a.rank b ≤ 160) ∧
    (a.rank c ≤ max (a.rank b) (b.rank c) ∧
      (a.rank b ≠ b.rank c → a.rank c = max (a.rank b) (b.rank c))) ∧
    (∀ depth, a.rank b ≤ depth ↔
      ∃ start, a.toNat ∈ block depth start ∧ b.toNat ∈ block depth start) ∧
    ∀ (owner : Ident) (capacity : Nat) (start : Nanoseconds) (changes : List Table.Change),
      ∀ bucket ∈ ((Table.empty owner capacity start).after changes).buckets,
        bucket.covers a = true → (bucket.covers b = true ↔ a.rank b ≤ bucket.depth) := by
  refine ⟨⟨?_, rank_eq_size a b, ?_⟩, ⟨?_, rank_comm a b, rank_le_bit_count a b⟩,
    ⟨rank_le_max a b c, ?_⟩, ?_, ?_⟩
  · rw [← octets_offset, value_octets]
    rfl
  · have bits := rank_add_clear_bits a b
    omega
  · rw [← Nat.le_zero, rank_le_iff, same_block_zero_iff]
  · intro differ
    rcases Nat.lt_or_gt_of_ne differ with less | greater
    · rw [rank_eq_of_lt less, max_eq_right less.le]
    · have back : c.rank b < b.rank a := by
        rw [rank_comm c b, rank_comm b a]
        exact greater
      rw [rank_comm a c, rank_eq_of_lt back, rank_comm b a, max_eq_left greater.le]
  · intro depth
    rw [rank_le_iff, same_block_iff_mem]
  · intro owner capacity start changes bucket member covered
    have sound : ((Table.empty owner capacity start).after changes).Sound :=
      Table.after_sound (Table.empty_sound owner capacity start) changes
    exact Bucket.covers_owner_iff (sound.sound bucket member).aligned covered b

/-- Two neighbours differ in one bit, but a carry into the next byte sets nine bits apart. -/
theorem carry_widens_rank :
    (ofNat 254).rank (ofNat 255) ≠ (ofNat 255).rank (ofNat 256) ∧
      (ofNat 254).rank (ofNat 256) =
        max ((ofNat 254).rank (ofNat 255)) ((ofNat 255).rank (ofNat 256)) := by
  have differ : (ofNat 254).rank (ofNat 255) ≠ (ofNat 255).rank (ofNat 256) := by
    decide +kernel
  exact ⟨differ, (rank_measures_blocks (ofNat 254) (ofNat 255) (ofNat 256)).2.2.1.2 differ⟩

end Ident
end XorOverlay
