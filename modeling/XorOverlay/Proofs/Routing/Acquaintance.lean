import Mathlib
import XorOverlay.Proofs.Routing.Cells

/-!
Whom a table can come to hold. Nobody enters a table but the contact that is added, live or parked,
and what is added to a table changes nothing about the other live contacts.
-/

namespace XorOverlay

set_option autoImplicit false

namespace Bucket

theorem mem_split {owner : Ident} {capacity : Nat} {now : Nanoseconds} {bucket : Bucket}
    (sound : bucket.Sound owner capacity) (may : bucket.splittable owner = true)
    {contact : Contact}
    (held : contact ∈ (bucket.split capacity now).1.contacts ∨
      contact ∈ (bucket.split capacity now).2.contacts) : contact ∈ bucket.contacts := by
  obtain ⟨⟨lower, upper⟩, nothingLower, nothingUpper⟩ := split_live now sound may
  unfold contacts at held
  rw [lower, upper, nothingLower, nothingUpper, List.append_nil, List.append_nil] at held
  rcases held with low | high
  · exact List.mem_append_left _ (List.mem_of_mem_filter low)
  · exact List.mem_append_left _ (List.mem_of_mem_filter high)

theorem mem_place {owner : Ident} {capacity : Nat} (now : Nanoseconds) (contact : Contact)
    {bucket : Bucket} (sound : bucket.Sound owner capacity) :
    ∀ part ∈ (bucket.place owner capacity now contact).1, ∀ other ∈ part.contacts,
      other ∈ bucket.contacts ∨ other = contact := by
  revert sound
  refine place_induction (motive := fun bucket placed _ => bucket.Sound owner capacity →
    ∀ part ∈ placed, ∀ other ∈ part.contacts, other ∈ bucket.contacts ∨ other = contact)
    ?_ ?_ ?_ bucket
  · intro bucket _ _ part member other held
    rw [List.mem_singleton.mp member] at held
    exact mem_add held
  · intro bucket placed _ _ may _ ih sound part member other held
    rcases List.mem_append.mp member with inner | beside
    · exact (ih (split_sound now sound may).1 part inner other held).imp
        (fun low => mem_split sound may (Or.inl low)) id
    · rw [List.mem_singleton.mp beside] at held
      exact Or.inl (mem_split sound may (Or.inr held))
  · intro bucket placed _ _ may _ ih sound part member other held
    rcases List.mem_cons.mp member with rfl | inner
    · exact Or.inl (mem_split sound may (Or.inl held))
    · exact (ih (split_sound now sound may).2 part inner other held).imp
        (fun high => mem_split sound may (Or.inr high)) id

end Bucket

namespace Table

def Holds (table : Table) (contact : Contact) : Prop :=
  ∃ bucket ∈ table.buckets, contact ∈ bucket.contacts

theorem holds_of_live {table : Table} {contact : Contact} (live : contact ∈ table.live) :
    table.Holds contact := by
  obtain ⟨bucket, among, held⟩ := List.mem_flatMap.mp live
  exact ⟨bucket, among, List.mem_append_left _ held⟩

theorem not_holds_empty (owner : Ident) (capacity : Nat) (now : Nanoseconds) (contact : Contact) :
    ¬(Table.empty owner capacity now).Holds contact := by
  rintro ⟨bucket, among, held⟩
  rw [List.mem_singleton.mp among] at held
  exact List.not_mem_nil held

theorem holds_add {table : Table} (sound : table.Sound) (now : Nanoseconds)
    {contact other : Contact} (held : (table.add now contact).1.Holds other) : table.Holds other ∨ other = contact := by
  by_cases own : contact.id = table.owner
  · rw [add, if_pos own] at held
    exact Or.inl held
  · obtain ⟨before, bucket, after, split, _, placed⟩ := add_places sound now own
    have member := mem_of_split split
    rw [placed] at held
    obtain ⟨part, among, inside⟩ := held
    rcases List.mem_append.mp among with early | late
    · rcases List.mem_append.mp early with first | inner
      · exact Or.inl ⟨part, mem_beside split (Or.inl first), inside⟩
      · exact (Bucket.mem_place now contact (sound.sound bucket member) part inner other inside).imp
          (fun known => ⟨bucket, member, known⟩) id
    · exact Or.inl ⟨part, mem_beside split (Or.inr late), inside⟩

theorem holds_remove {table : Table} (sound : table.Sound) (id : Ident) {other : Contact}
    (held : (table.remove id).1.Holds other) : table.Holds other := by
  obtain ⟨before, bucket, after, split, _, rewritten⟩ := remove_rewrites sound id
  rw [rewritten] at held
  obtain ⟨part, among, inside⟩ := held
  unfold Holds
  rw [split]
  rcases List.mem_append.mp among with early | late
  · rcases List.mem_append.mp early with first | inner
    · exact ⟨part, List.mem_append_left _ first, inside⟩
    · rw [List.mem_singleton.mp inner, Bucket.remove_contacts] at inside
      refine ⟨bucket, List.mem_append_right _ List.mem_cons_self, ?_⟩
      exact ((Bucket.mem_without id other _).mp inside).1
  · exact ⟨part, List.mem_append_right _ (List.mem_cons_of_mem _ late), inside⟩

theorem add_others {table : Table} (sound : table.Sound) (now : Nanoseconds) (contact : Contact) :
    ((table.add now contact).1.live.filter fun known => known.id != contact.id).Perm
      (table.live.filter fun known => known.id != contact.id) := by
  by_cases own : contact.id = table.owner
  · rw [add, if_pos own]
  · refine ((add_live sound now own).filter _).trans ?_
    split_ifs
    · simp [Bucket.without, List.filter_append, List.filter_filter]
    · exact List.Perm.refl _

end Table
end XorOverlay
