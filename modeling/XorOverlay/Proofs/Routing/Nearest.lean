import Mathlib
import XorOverlay.Proofs.Distance
import XorOverlay.Proofs.Routing.Closest

/-!
Contacts in the order of their distances. Sorted insertion keeps contacts of different names in
strictly ascending distance to the target, and there is only one such order. The closest contacts of
a table are therefore the first of its eligible live contacts in ascending distance, and the first
of a larger list are the first of every part that contains them.
-/

namespace XorOverlay

set_option autoImplicit false

namespace Ident

theorem distance_injective {a b target : Ident} (same : a.distance target = b.distance target) :
    a = b :=
  offset_left_injective (eq_of_toNat_eq same)

end Ident

/-- Each contact strictly closer to the target than all behind it. -/
def Ascending (target : Ident) (contacts : List Contact) : Prop :=
  contacts.Pairwise fun a b => a.id.distance target < b.id.distance target

namespace Ranked

theorem closer_around (target : Ident) (a b : Contact) :
    (around target a).closer (around target b) = true ↔
      a.id.distance target < b.id.distance target := by
  have forth := @Ident.rank_mono a.id b.id target
  have back := @Ident.rank_mono b.id a.id target
  rw [closer_iff]
  simp only [around]
  change a.id.rank target < b.id.rank target ∨ a.id.rank target = b.id.rank target ∧
    a.id.distance target < b.id.distance target ↔ _
  omega

/-- Inserting a contact with a new name among contacts in ascending distance. -/
theorem insert_ascending {target : Ident} {contact : Contact} {contacts : List Contact}
    (ascending : Ascending target contacts)
    (fresh : ∀ known ∈ contacts, known.id ≠ contact.id) :
    ∃ longer, insert (around target contact) (contacts.map (around target)) =
        longer.map (around target) ∧ longer.Perm (contact :: contacts) ∧
      Ascending target longer := by
  induction contacts with
  | nil => exact ⟨[contact], rfl, List.Perm.refl _, List.pairwise_singleton _ _⟩
  | cons first rest ih =>
      obtain ⟨before, later⟩ := List.pairwise_cons.mp ascending
      rw [List.forall_mem_cons] at fresh
      rw [List.map_cons, insert]
      split_ifs with near
      · obtain ⟨longer, inserted, perm, sorted⟩ := ih later fresh.2
        refine ⟨first :: longer, ?_, (perm.cons first).trans (List.Perm.swap _ _ _), ?_⟩
        · rw [inserted, List.map_cons]
        · apply List.pairwise_cons.mpr
          refine ⟨?_, sorted⟩
          intro other member
          rcases List.mem_cons.mp (perm.mem_iff.mp member) with rfl | old
          · exact (closer_around target first other).mp near
          · exact before other old
      · have apart : first.id.distance target ≠ contact.id.distance target :=
          fun same => fresh.1 (Ident.distance_injective same)
        rw [closer_around] at near
        have less : contact.id.distance target < first.id.distance target := by omega
        refine ⟨contact :: first :: rest, rfl, List.Perm.refl _, ?_⟩
        apply List.pairwise_cons.mpr
        refine ⟨?_, ascending⟩
        intro other member
        rcases List.mem_cons.mp member with rfl | behind
        · exact less
        · exact less.trans (before other behind)

theorem foldl_insert_ascending {target : Ident} {contacts sorted : List Contact}
    (distinct : ((contacts ++ sorted).map Contact.id).Nodup) (ascending : Ascending target sorted) :
    ∃ all, (contacts.map (around target)).foldl (fun best entry => insert entry best)
          (sorted.map (around target)) = all.map (around target) ∧
        all.Perm (contacts ++ sorted) ∧ Ascending target all := by
  induction contacts generalizing sorted with
  | nil => exact ⟨sorted, rfl, List.Perm.refl _, ascending⟩
  | cons contact rest ih =>
      have fresh : ∀ known ∈ sorted, known.id ≠ contact.id := by
        intro known member same
        rw [List.cons_append, List.map_cons, List.nodup_cons] at distinct
        exact distinct.1 (same ▸ List.mem_map_of_mem (List.mem_append_right _ member))
      obtain ⟨longer, inserted, perm, sortedLonger⟩ := insert_ascending ascending fresh
      have moved : (rest ++ longer).Perm (contact :: rest ++ sorted) :=
        (perm.append_left rest).trans List.perm_middle
      obtain ⟨all, folded, permAll, sortedAll⟩ :=
        ih ((moved.map Contact.id).nodup_iff.mpr distinct) sortedLonger
      refine ⟨all, ?_, permAll.trans moved, sortedAll⟩
      rw [List.map_cons, List.foldl_cons, inserted, folded]

theorem contact_around (target : Ident) (contacts : List Contact) :
    (contacts.map (around target)).map contact = contacts := by
  rw [List.map_map]
  exact List.map_id contacts

end Ranked

namespace Ascending

variable {target : Ident} {first second : List Contact}

theorem perm_eq (left : Ascending target first) (right : Ascending target second)
    (perm : first.Perm second) : first = second :=
  perm.eq_of_pairwise (fun _ _ _ _ less greater => (lt_asymm less greater).elim) left right

theorem ids_nodup (ascending : Ascending target first) : (first.map Contact.id).Nodup := by
  apply List.pairwise_map.mpr
  apply List.Pairwise.imp _ ascending
  intro a b less same
  rw [same] at less
  exact lt_irrefl _ less

theorem head_le (ascending : Ascending target first) {count : Nat} {nearest : Contact}
    (head : (first.take count).head? = some nearest) :
    ∀ contact ∈ first, nearest.id.distance target ≤ contact.id.distance target := by
  cases first with
  | nil => simp
  | cons closest rest =>
      cases count with
      | zero => cases head
      | succ count =>
          obtain rfl : closest = nearest := Option.some.inj head
          obtain ⟨before, _⟩ := List.pairwise_cons.mp ascending
          intro contact member
          rcases List.mem_cons.mp member with rfl | behind
          · exact le_rfl
          · exact (before contact behind).le

/-- A part of ascending contacts that contains the first `count` of them begins with these. -/
theorem take_eq_of_sublist (part : first.Sublist second) (whole : Ascending target second)
    {count : Nat} (contains : ∀ contact ∈ second.take count, contact ∈ first) :
    first.take count = second.take count := by
  induction part generalizing count with
  | slnil => rfl
  | cons contact part ih =>
      obtain ⟨before, later⟩ := List.pairwise_cons.mp whole
      cases count with
      | zero => rfl
      | succ count =>
          -- The first contact of the whole would have to be in the part, which is behind it.
          have inPart := part.subset (contains contact List.mem_cons_self)
          exact (lt_irrefl _ (before contact inPart)).elim
  | cons_cons contact part ih =>
      obtain ⟨before, later⟩ := List.pairwise_cons.mp whole
      cases count with
      | zero => rfl
      | succ count =>
          rw [List.take_succ_cons, List.take_succ_cons, ih later]
          intro other taken
          rcases List.mem_cons.mp (contains other (List.mem_cons_of_mem _ taken)) with rfl | inner
          · exact (lt_irrefl _ (before other (List.mem_of_mem_take taken))).elim
          · exact inner

theorem sublist_of_subset (left : Ascending target first) (right : Ascending target second)
    (contained : first ⊆ second) : first.Sublist second := by
  have distinct : first.Nodup := List.Nodup.of_map Contact.id (ids_nodup left)
  obtain ⟨same, perm, part⟩ := List.subperm_of_subset distinct contained
  rw [← perm_eq (List.Pairwise.sublist part right) left perm]
  exact part

/-- Among ascending contacts, if `count` of them are within a rank, so are the first `count`. -/
theorem rank_of_take (ascending : Ascending target first) {count rank : Nat}
    (enough : count ≤ (first.filter fun contact => contact.id.rank target ≤ rank).length) :
    ∀ contact ∈ first.take count, contact.id.rank target ≤ rank := by
  induction first generalizing count with
  | nil => simp
  | cons contact rest ih =>
      obtain ⟨before, later⟩ := List.pairwise_cons.mp ascending
      cases count with
      | zero => simp
      | succ count =>
          by_cases near : contact.id.rank target ≤ rank
          · have fewer : count ≤
                (rest.filter fun contact => contact.id.rank target ≤ rank).length := by
              simpa [near] using enough
            rw [List.take_succ_cons, List.forall_mem_cons]
            exact ⟨near, ih later fewer⟩
          · have none : (contact :: rest).filter
                (fun contact => contact.id.rank target ≤ rank) = [] := by
              apply List.filter_eq_nil_iff.mpr
              rw [List.forall_mem_cons]
              refine ⟨by simpa using near, ?_⟩
              intro other behind close
              have farther := Ident.rank_mono (before other behind).le
              have within := of_decide_eq_true close
              omega
            rw [none] at enough
            simp at enough

end Ascending

namespace Table

/-- The closest contacts are the first of the eligible ones in ascending distance. -/
theorem closest_ascending {table : Table} (sound : table.Sound) (target : Ident) (count : Nat)
    (excluded : Option Ident) :
    ∃ all, all.Perm (table.eligible target excluded) ∧ Ascending target all ∧
      table.closest target count excluded = all.take count := by
  have distinct : ((table.eligible target excluded ++ []).map Contact.id).Nodup := by
    rw [List.append_nil]
    exact (live_distinct sound).sublist (List.filter_sublist.map Contact.id)
  obtain ⟨all, sorted, perm, ascending⟩ :=
    Ranked.foldl_insert_ascending distinct (List.Pairwise.nil : Ascending target [])
  rw [List.append_nil] at perm
  refine ⟨all, perm, ascending, ?_⟩
  rw [closest_eq]
  change ((List.foldl _ ([].map (Ranked.around target)) _).take count).map _ = _
  rw [sorted, List.map_take, Ranked.contact_around]

end Table
end XorOverlay
