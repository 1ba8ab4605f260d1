import Mathlib
import XorOverlay.Ident

/-!
Numbers spelt in bytes. A number of `width` bytes is read back modulo `256 ^ width`, so a count or a
length survives exactly if it fits its field; identifiers always fit theirs.
-/

namespace XorOverlay

set_option autoImplicit false

namespace Octets

theorem length_bigEndian (width number : Nat) : (bigEndian width number).length = width := by
  induction width generalizing number with
  | zero => rfl
  | succ width ih => rw [bigEndian, List.length_append, ih, List.length_singleton]

theorem value_append_singleton (bytes : Octets) (byte : UInt8) :
    value (bytes ++ [byte]) = value bytes * 256 + byte.toNat := by
  simp only [value, List.foldl_append, List.foldl_cons, List.foldl_nil]

theorem value_bigEndian (width number : Nat) :
    value (bigEndian width number) = number % 256 ^ width := by
  induction width generalizing number with
  | zero => rw [pow_zero, Nat.mod_one]; rfl
  | succ width ih =>
      rw [bigEndian, value_append_singleton, ih, UInt8.toNat_ofNat']
      have split : number % 256 ^ (width + 1) =
          number % 256 + 256 * (number / 256 % 256 ^ width) := by
        rw [pow_succ', Nat.mod_mul]
      omega

theorem value_bigEndian_of_lt {width number : Nat} (fits : number < 256 ^ width) :
    value (bigEndian width number) = number := by
  rw [value_bigEndian, Nat.mod_eq_of_lt fits]

theorem value_lt (bytes : Octets) : value bytes < 256 ^ bytes.length := by
  induction bytes using List.reverseRecOn with
  | nil => simp [value]
  | append_singleton bytes byte ih =>
      have bounded := byte.toNat_lt
      rw [value_append_singleton, List.length_append, List.length_singleton, pow_succ]
      omega

/-- Bytes are the spelling of the number they spell. -/
theorem bigEndian_value (bytes : Octets) : bigEndian bytes.length (value bytes) = bytes := by
  induction bytes using List.reverseRecOn with
  | nil => rfl
  | append_singleton bytes byte ih =>
      have bounded := byte.toNat_lt
      have above : (value bytes * 256 + byte.toNat) / 256 = value bytes := by omega
      have last : UInt8.ofNat (value bytes * 256 + byte.toNat) = byte := by
        rw [← UInt8.toNat_inj, UInt8.toNat_ofNat']
        omega
      rw [value_append_singleton, List.length_append, List.length_singleton, bigEndian, above, ih,
        last]

end Octets

namespace Ident

theorem length_octets (id : Ident) : id.octets.length = byteCount :=
  Octets.length_bigEndian byteCount id.toNat

theorem ofNat_toNat (id : Ident) : ofNat id.toNat = id :=
  congrArg Ident.mk (BitVec.ofNat_toNat _ id.bits)

theorem value_octets (id : Ident) : Octets.value id.octets = id.toNat := by
  apply Octets.value_bigEndian_of_lt
  have bound := id.bits.isLt
  have room : 256 ^ byteCount = 2 ^ 160 := by norm_num [byteCount]
  rw [room]
  exact bound

theorem ofNat_value_octets (id : Ident) : ofNat (Octets.value id.octets) = id := by
  rw [value_octets, ofNat_toNat]

theorem octets_ofNat_value {bytes : Octets} (length : bytes.length = byteCount) :
    (ofNat (Octets.value bytes)).octets = bytes := by
  have bound := Octets.value_lt bytes
  have room : 256 ^ byteCount = 2 ^ 160 := by norm_num [byteCount]
  have small : Octets.value bytes % 2 ^ 160 = Octets.value bytes := by
    rw [length, room] at bound
    exact Nat.mod_eq_of_lt bound
  have spelt := Octets.bigEndian_value bytes
  rw [length] at spelt
  simp only [octets, toNat, ofNat, BitVec.toNat_ofNat, small, spelt]

theorem octets_injective : Function.Injective octets := by
  intro first second same
  rw [← first.ofNat_value_octets, same, second.ofNat_value_octets]

theorem of_octets (id : Ident) : ofOctets id.octets = .ok id := by
  unfold ofOctets
  rw [if_pos (length_octets _), ofNat_value_octets]

theorem octets_of_ok {bytes : Octets} {id : Ident} (parsed : ofOctets bytes = .ok id) :
    bytes = id.octets := by
  unfold ofOctets at parsed
  split_ifs at parsed with length
  obtain rfl := Except.ok.inj parsed
  exact (octets_ofNat_value length).symm

end Ident
end XorOverlay
