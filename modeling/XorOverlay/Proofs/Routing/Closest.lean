import Mathlib
import XorOverlay.Proofs.Routing.TableHistory

/-!
Lists of closest contacts. A list that is cut back to its first entries after each insertion is the
beginning of the list that was never cut, and entries with different offsets may be inserted in any
order. What a table answers as its closest contacts therefore depends on which contacts are live,
and neither on their buckets nor on their order.
-/

namespace XorOverlay

set_option autoImplicit false

namespace Ident

theorem offset_left_injective {a b target : Ident} (same : a.offset target = b.offset target) :
    a = b := by
  have bits : a.bits ^^^ target.bits = b.bits ^^^ target.bits := congrArg Ident.bits same
  have equal : a.bits = b.bits := (BitVec.xor_left_inj target.bits).mp bits
  exact congrArg Ident.mk equal

end Ident

namespace Ranked

theorem closer_iff (a b : Ranked) : a.closer b = true ↔
    a.rank < b.rank ∨ a.rank = b.rank ∧ a.offset.toNat < b.offset.toNat := by
  unfold closer compare
  rw [beq_iff_eq, Ordering.then_eq_lt, Nat.compare_eq_lt, Nat.compare_eq_eq, Nat.compare_eq_lt]

theorem closer_total {a b : Ranked} (apart : a.offset ≠ b.offset) :
    a.closer b = true ∨ b.closer a = true := by
  have differ : a.offset.toNat ≠ b.offset.toNat :=
    fun same => apart (Ident.eq_of_toNat_eq same)
  rw [closer_iff, closer_iff]
  omega

theorem insert_perm (entry : Ranked) (best : List Ranked) :
    (insert entry best).Perm (entry :: best) := by
  induction best with
  | nil => exact List.Perm.refl _
  | cons first rest ih =>
      rw [insert]
      split_ifs
      · exact (ih.cons first).trans (List.Perm.swap entry first rest)
      · exact List.Perm.refl _

theorem insert_comm {a b : Ranked} (apart : a.offset ≠ b.offset) (best : List Ranked) :
    insert a (insert b best) = insert b (insert a best) := by
  have order := closer_total apart
  rw [closer_iff, closer_iff] at order
  induction best with
  | nil =>
      simp only [insert, closer_iff]
      split_ifs <;> first | rfl | omega
  | cons first rest ih =>
      by_cases beforeA : first.closer a = true
      · by_cases beforeB : first.closer b = true
        · simp only [insert, beforeA, beforeB, if_true, ih]
        · have chain : b.closer a = true := by
            rw [closer_iff] at beforeA beforeB ⊢
            omega
          simp only [insert, beforeA, beforeB, chain, if_true, if_false, Bool.false_eq_true]
      · by_cases beforeB : first.closer b = true
        · have chain : a.closer b = true := by
            rw [closer_iff] at beforeA beforeB ⊢
            omega
          simp only [insert, beforeA, beforeB, chain, if_true, if_false, Bool.false_eq_true]
        · simp only [insert, beforeA, beforeB, if_false, Bool.false_eq_true, closer_iff]
          split_ifs <;> first | rfl | omega

/-- What an insertion leaves among the first entries depends on the first entries alone. -/
theorem take_insert (count : Nat) (entry : Ranked) (best : List Ranked) :
    (insert entry (best.take count)).take count = (insert entry best).take count := by
  induction best generalizing count with
  | nil => rw [List.take_nil]
  | cons first rest ih =>
      cases count with
      | zero => rfl
      | succ count =>
          rw [List.take_succ_cons, insert, insert]
          split_ifs
          · rw [List.take_succ_cons, List.take_succ_cons, ih]
          · cases count with
            | zero => rfl
            | succ count =>
                simp only [List.take_succ_cons, List.take_take, Nat.min_eq_left (Nat.le_succ count)]

theorem foldl_keepClosest (count : Nat) (entries best : List Ranked) :
    entries.foldl (keepClosest count) (best.take count) =
      (entries.foldl (fun best entry => insert entry best) best).take count := by
  induction entries generalizing best with
  | nil => rfl
  | cons entry entries ih =>
      rw [List.foldl_cons, List.foldl_cons, keepClosest, take_insert, ih]

theorem foldl_insert_perm (entries best : List Ranked) :
    (entries.foldl (fun best entry => insert entry best) best).Perm (entries ++ best) := by
  induction entries generalizing best with
  | nil => exact List.Perm.refl _
  | cons entry entries ih =>
      rw [List.foldl_cons]
      exact (ih _).trans (((insert_perm entry best).append_left entries).trans
        List.perm_middle)

end Ranked

namespace Table

/-- The live contacts that may be among the closest to a target. -/
def eligible (target : Ident) (excluded : Option Ident) (table : Table) : List Contact :=
  table.live.filter fun contact => contact.id != target && some contact.id != excluded

theorem closest_eq (target : Ident) (count : Nat) (excluded : Option Ident) (table : Table) :
    table.closest target count excluded =
      (((((table.eligible target excluded).map (Ranked.around target)).foldl
        (fun best entry => Ranked.insert entry best) []).take count).map Ranked.contact) := by
  have uncut := Ranked.foldl_keepClosest count
    ((table.eligible target excluded).map (Ranked.around target)) []
  rw [List.take_nil] at uncut
  rw [← uncut, List.foldl_map]
  rfl

theorem mem_closest {target : Ident} {count : Nat} {excluded : Option Ident} {table : Table}
    {contact : Contact} (listed : contact ∈ table.closest target count excluded) :
    contact ∈ table.live ∧ contact.id ≠ target ∧ some contact.id ≠ excluded := by
  rw [closest_eq] at listed
  obtain ⟨entry, taken, rfl⟩ := List.mem_map.mp listed
  have among := (Ranked.foldl_insert_perm _ _).mem_iff.mp (List.mem_of_mem_take taken)
  rw [List.append_nil] at among
  obtain ⟨known, member, rfl⟩ := List.mem_map.mp among
  obtain ⟨live, chosen⟩ := List.mem_filter.mp member
  rw [Bool.and_eq_true, bne_iff_ne, bne_iff_ne] at chosen
  exact ⟨live, chosen.1, chosen.2⟩

theorem length_closest (target : Ident) (count : Nat) (excluded : Option Ident) (table : Table) :
    (table.closest target count excluded).length ≤ count := by
  rw [closest_eq, List.length_map]
  exact List.length_take_le _ _

/-- Which contacts are closest depends on who is live alone. -/
theorem closest_perm {target : Ident} {excluded : Option Ident} {first second : Table}
    (sound : first.Sound)
    (same : (first.eligible target excluded).Perm (second.eligible target excluded))
    (count : Nat) : first.closest target count excluded = second.closest target count excluded := by
  rw [closest_eq, closest_eq]
  congr 2
  -- Insertions of contacts at different distances commute; live contacts have different names.
  refine (same.map (Ranked.around target)).foldl_eq' ?_ _
  intro a inFirst b inSecond best
  obtain ⟨one, memberOne, rfl⟩ := List.mem_map.mp inFirst
  obtain ⟨two, memberTwo, rfl⟩ := List.mem_map.mp inSecond
  by_cases apart : one.id = two.id
  · have equal : one = two := List.inj_on_of_nodup_map (live_distinct sound)
      (List.mem_of_mem_filter memberOne) (List.mem_of_mem_filter memberTwo) apart
    rw [equal]
  · exact Ranked.insert_comm (fun equal => apart (Ident.offset_left_injective equal.symm)) best

end Table
end XorOverlay
