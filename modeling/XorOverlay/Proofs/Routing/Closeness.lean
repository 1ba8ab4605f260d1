import Mathlib
import XorOverlay.Proofs.BitLength
import XorOverlay.Proofs.Routing.Nearest

/-!
The order of closeness. Contacts placed around a target are compared by rank, and between equal ranks
by the bytes of their offsets. Byte strings of one length are in the order of the numbers they spell,
and ranks in the order of the distances, so both steps together compare distances: a total order in
which a tie means one identifier, whatever the endpoints.
-/

namespace XorOverlay

set_option autoImplicit false

namespace Octets

theorem compare_byte (x y : UInt8) : compare x y = compare x.toNat y.toNat := by
  change compareOfLessAndEq x y = _
  rw [Nat.compare_eq_ite_lt]
  simp only [compareOfLessAndEq, UInt8.lt_iff_toNat_lt, ← UInt8.toNat_inj]
  split_ifs <;> first | rfl | omega

/-- Byte strings of one length are in dictionary order as the numbers they spell are in theirs. -/
theorem compare_value {first second : Octets} (same : first.length = second.length) :
    compare (value first) (value second) = compare first second := by
  induction first generalizing second with
  | nil =>
      rw [List.eq_nil_of_length_eq_zero same.symm]
      rfl
  | cons x xs ih =>
      cases second with
      | nil => cases same
      | cons y ys =>
          have lengths : xs.length = ys.length := Nat.succ.inj same
          have below := value_lt xs
          have under := value_lt ys
          rw [value_cons, value_cons, lengths, List.compare_cons_cons, compare_byte, ← ih lengths]
          rw [lengths] at below
          rcases lt_trichotomy x.toNat y.toNat with less | equal | greater
          · have higher : (x.toNat + 1) * 256 ^ ys.length ≤ y.toNat * 256 ^ ys.length :=
              Nat.mul_le_mul_right _ less
            rw [add_one_mul] at higher
            rw [Nat.compare_eq_lt.mpr less, Ordering.lt_then, Nat.compare_eq_lt]
            omega
          · rw [equal, Nat.compare_eq_eq.mpr rfl, Ordering.eq_then, Nat.compare_eq_ite_lt,
              Nat.compare_eq_ite_lt]
            simp
          · have higher : (y.toNat + 1) * 256 ^ ys.length ≤ x.toNat * 256 ^ ys.length :=
              Nat.mul_le_mul_right _ greater
            rw [add_one_mul] at higher
            rw [Nat.compare_eq_gt.mpr greater, Ordering.gt_then, Nat.compare_eq_gt]
            omega

end Octets

namespace Ranked

instance : Std.TransCmp compare :=
  inferInstanceAs (Std.TransCmp (compareLex (compareOn Ranked.rank)
    (compareOn fun entry : Ranked => entry.offset.toNat)))

/-- An entry goes in front of the first that is not closer, so what was in order stays in order. -/
theorem insert_in_order (entry : Ranked) {entries : List Ranked}
    (ordered : entries.Pairwise fun a b => (a.compare b).isLE = true) :
    (insert entry entries).Pairwise fun a b => (a.compare b).isLE = true := by
  induction entries with
  | nil => exact List.pairwise_singleton _ _
  | cons first rest ih =>
      obtain ⟨before, later⟩ := List.pairwise_cons.mp ordered
      rw [insert]
      split_ifs with near
      · have less : first.compare entry = .lt := beq_iff_eq.mp near
        refine List.pairwise_cons.mpr ⟨?_, ih later⟩
        intro other member
        rcases List.mem_cons.mp ((insert_perm entry rest).mem_iff.mp member) with rfl | old
        · rw [less]
          rfl
        · exact before other old
      · have reach : (entry.compare first).isLE = true := by
          have swapped : entry.compare first = (first.compare entry).swap :=
            Std.OrientedCmp.eq_swap
          rw [swapped, Ordering.isLE_swap, Ordering.isGE_iff_ne_lt]
          exact fun less => near (beq_iff_eq.mpr less)
        refine List.pairwise_cons.mpr ⟨?_, ordered⟩
        intro other member
        rcases List.mem_cons.mp member with rfl | behind
        · exact reach
        · exact Std.TransCmp.isLE_trans reach (before other behind)

theorem sort_perm (entries : List Ranked) : (sort entries).Perm entries := by
  induction entries with
  | nil => exact List.Perm.refl _
  | cons entry rest ih => exact (insert_perm entry (sort rest)).trans (ih.cons entry)

theorem sort_in_order (entries : List Ranked) :
    (sort entries).Pairwise fun a b => (a.compare b).isLE = true := by
  induction entries with
  | nil => exact List.Pairwise.nil
  | cons entry rest ih => exact insert_in_order entry ih

theorem compare_around (target : Ident) (x y : Contact) :
    (around target x).compare (around target y) =
      Ord.compare (x.id.distance target) (y.id.distance target) := by
  have forth := @Ident.rank_mono x.id y.id target
  have back := @Ident.rank_mono y.id x.id target
  change (Ord.compare (x.id.rank target) (y.id.rank target)).then
    (Ord.compare (x.id.distance target) (y.id.distance target)) = _
  rw [Nat.compare_eq_ite_lt, Nat.compare_eq_ite_lt]
  split_ifs <;> first | rfl | omega

theorem compare_around_octets (target : Ident) (x y : Contact) :
    (around target x).compare (around target y) =
      (Ord.compare (x.id.rank target) (y.id.rank target)).then
        (Ord.compare (x.id.offset target).octets (y.id.offset target).octets) := by
  have lengths : (x.id.offset target).octets.length = (y.id.offset target).octets.length := by
    rw [Ident.length_octets, Ident.length_octets]
  rw [← Octets.compare_value lengths, Ident.value_octets, Ident.value_octets]
  rfl

theorem same_peer_iff (target : Ident) (x y : Contact) :
    (around target x).samePeer (around target y) = true ↔ x.id = y.id := by
  rw [samePeer, beq_iff_eq]
  rfl

/-- Contacts in the order of closeness are in ascending distance, and none is in front of one of
smaller rank. -/
theorem ranks_in_order {target : Ident} {contacts : List Contact}
    (ordered : (contacts.map (around target)).Pairwise fun a b => (a.compare b).isLE = true) :
    contacts.Pairwise fun x y => x.id.distance target ≤ y.id.distance target ∧
      x.id.rank target ≤ y.id.rank target := by
  refine (List.pairwise_map.mp ordered).imp ?_
  intro x y reach
  rw [compare_around, Nat.isLE_compare] at reach
  exact ⟨reach, Ident.rank_mono reach⟩

/-- Sorting contacts around a target puts the contacts themselves in order. -/
theorem sort_around (target : Ident) (contacts : List Contact) :
    ∃ sorted : List Contact,
      sort (contacts.map (around target)) = sorted.map (around target) ∧ sorted.Perm contacts ∧
        (sorted.map (around target)).Pairwise fun a b => (a.compare b).isLE = true := by
  have perm := sort_perm (contacts.map (around target))
  have placed : ((sort (contacts.map (around target))).map contact).map (around target) =
      sort (contacts.map (around target)) := by
    have own : ∀ entry ∈ sort (contacts.map (around target)),
        (around target ∘ contact) entry = id entry := by
      intro entry member
      obtain ⟨known, _, rfl⟩ := List.mem_map.mp (perm.mem_iff.mp member)
      rfl
    rw [List.map_map, List.map_congr_left own, List.map_id]
  refine ⟨(sort (contacts.map (around target))).map contact, placed.symm, ?_, ?_⟩
  · have contactsPerm := perm.map contact
    rw [contact_around] at contactsPerm
    exact contactsPerm
  · rw [placed]
    exact sort_in_order _

/-- Comparing contacts around a target compares their distances to it, whether the offsets are taken
as numbers or byte by byte. So it is a total order, which holds two contacts equal exactly if they are
the same peer, that is if they have one identifier; and whatever is sorted by it, the library's own
sort included, has ascending distances and ascending ranks. -/
theorem closeness_compares_distances (target : Ident) :
    (∀ x y : Contact,
      let a := around target x
      let b := around target y
      a.compare b = Ord.compare (x.id.distance target) (y.id.distance target) ∧
        a.compare b = (Ord.compare (x.id.rank target) (y.id.rank target)).then
          (Ord.compare (x.id.offset target).octets (y.id.offset target).octets) ∧
        (a.compare b = .eq ↔ a.samePeer b = true) ∧ (a.samePeer b = true ↔ x.id = y.id)) ∧
    Std.TransCmp (fun x y : Contact => (around target x).compare (around target y)) ∧
    (∀ contacts : List Contact,
      (contacts.map (around target)).Pairwise (fun a b => (a.compare b).isLE = true) →
        contacts.Pairwise fun x y => x.id.distance target ≤ y.id.distance target ∧
          x.id.rank target ≤ y.id.rank target) ∧
    ∀ contacts : List Contact, ∃ sorted : List Contact,
      sort (contacts.map (around target)) = sorted.map (around target) ∧ sorted.Perm contacts ∧
        (sorted.map (around target)).Pairwise fun a b => (a.compare b).isLE = true := by
  refine ⟨?_, ?_, fun contacts => ranks_in_order, sort_around target⟩
  · intro x y a b
    refine ⟨compare_around target x y, compare_around_octets target x y, ?_,
      same_peer_iff target x y⟩
    rw [same_peer_iff, compare_around, Nat.compare_eq_eq]
    exact ⟨Ident.distance_injective, fun same => by rw [same]⟩
  · exact { eq_swap := Std.OrientedCmp.eq_swap, isLE_trans := Std.TransCmp.isLE_trans }

/-- Four contacts around zero; the last three share a rank and are told apart by their offsets. -/
theorem four_around_zero :
    let contacts := [1, 4, 6, 7].map fun number => (⟨Ident.ofNat number, none⟩ : Contact)
    (contacts.map (around Ident.zero)).Pairwise (fun a b => (a.compare b).isLE = true) ∧
      contacts.Pairwise fun x y =>
        x.id.distance Ident.zero ≤ y.id.distance Ident.zero ∧
          x.id.rank Ident.zero ≤ y.id.rank Ident.zero := by
  intro contacts
  have ordered : (contacts.map (around Ident.zero)).Pairwise fun a b =>
      (a.compare b).isLE = true := by
    decide +kernel
  exact ⟨ordered, (closeness_compares_distances Ident.zero).2.2.1 contacts ordered⟩

end Ranked
end XorOverlay
