import Mathlib
import XorOverlay.Proofs.Routing.Cells
import XorOverlay.Proofs.Routing.Acquaintance

/-!
Who is in a table, over time. Only the bucket that covers an identifier is looked into, yet a table
knows an identifier exactly if one of its live contacts has it, and removing one removes it from every
bucket. Whoever is live stays live through every change but its own removal, and a contact that is
heard from again leaves the live contacts as they are.
-/

namespace XorOverlay

set_option autoImplicit false

namespace Bucket

theorem remove_eq_self {id : Ident} {bucket : Bucket}
    (absent : ∀ contact ∈ bucket.contacts, contact.id ≠ id) : bucket.remove id = bucket := by
  have live := without_eq_self fun contact held => absent contact (List.mem_append_left _ held)
  have parked := without_eq_self fun contact held => absent contact (List.mem_append_right _ held)
  rw [remove, live, parked]

theorem find_iff {bucket : Bucket} (distinct : (bucket.contacts.map Contact.id).Nodup) (id : Ident)
    (contact : Contact) :
    bucket.find? id = some contact ↔ contact ∈ bucket.live ∧ contact.id = id := by
  unfold find?
  constructor
  · intro found
    exact ⟨List.mem_of_find?_eq_some found, by simpa using List.find?_some found⟩
  · rintro ⟨live, rfl⟩
    cases found : bucket.live.find? fun known => known.id == contact.id with
    | none =>
        have absent := List.find?_eq_none.mp found contact live
        simp at absent
    | some known =>
        have held := List.mem_of_find?_eq_some found
        have named : known.id = contact.id := by simpa using List.find?_some found
        have same : known = contact :=
          List.inj_on_of_nodup_map distinct (List.mem_append_left _ held)
            (List.mem_append_left _ live) named
        rw [same]

end Bucket

namespace Table

open Bucket

theorem without_append_perm {contacts : List Contact} {contact : Contact}
    (distinct : (contacts.map Contact.id).Nodup) (member : contact ∈ contacts) :
    (without contact.id contacts ++ [contact]).Perm contacts := by
  obtain ⟨before, after, rfl⟩ := List.append_of_mem member
  rw [List.map_append, List.map_cons, List.nodup_middle, List.nodup_cons] at distinct
  have apart : ∀ known ∈ before ++ after, known.id ≠ contact.id := by
    intro known among same
    apply distinct.1
    rw [← List.map_append, ← same]
    exact List.mem_map_of_mem among
  have rest : without contact.id (before ++ contact :: after) = before ++ after := by
    simpa [without, List.filter_append] using without_eq_self apart
  rw [rest]
  exact (List.perm_append_singleton _ _).trans List.perm_middle.symm

theorem knows_iff {table : Table} (sound : table.Sound) (id : Ident) :
    table.knows id = true ↔ ∃ known ∈ table.live, known.id = id := by
  obtain ⟨before, bucket, after, split, covered, owned, _⟩ :=
    owning_split sound.tiled id (Nat.zero_le _) id.toNat_lt_total
  rw [live_iff_holds sound split covered, knows, owned]

/-- Although it is looked for in one bucket alone, an identifier is removed from all of them. -/
theorem remove_eq_map {table : Table} (sound : table.Sound) (id : Ident) :
    (table.remove id).1 = { table with buckets := table.buckets.map (Bucket.remove id) } := by
  obtain ⟨before, bucket, after, split, covered, rewritten⟩ := remove_rewrites sound id
  have apart : ∀ other, other ∈ before ∨ other ∈ after → other.remove id = other :=
    fun other beside => remove_eq_self (absent_beside sound split beside covered)
  have early : before.map (Bucket.remove id) = before :=
    (List.map_congr_left fun other among => apart other (Or.inl among)).trans (List.map_id _)
  have late : after.map (Bucket.remove id) = after :=
    (List.map_congr_left fun other among => apart other (Or.inr among)).trans (List.map_id _)
  rw [rewritten, split, List.map_append, List.map_cons, early, late, List.append_assoc]
  rfl

theorem remove_live {table : Table} (sound : table.Sound) (id : Ident) :
    (table.remove id).1.live = without id table.live := by
  rw [remove_eq_map sound, live, List.flatMap_map, live, without, List.filter_flatMap]
  rfl

theorem remove_parked {table : Table} (sound : table.Sound) (id : Ident) :
    (table.remove id).1.parked = without id table.parked := by
  rw [remove_eq_map sound, parked, List.flatMap_map, parked, without, List.filter_flatMap]
  rfl

theorem removed_iff {table : Table} (sound : table.Sound) (id : Ident) (contact : Contact) :
    (table.remove id).2 = some contact ↔ contact ∈ table.live ∧ contact.id = id := by
  obtain ⟨before, bucket, after, split, covered, rewritten⟩ := remove_rewrites sound id
  have inner : table.live.filter (fun known => known.id == id) =
      bucket.live.filter fun known => known.id == id := by
    apply filter_live sound split
    intro known named
    rw [eq_of_beq named]
    exact covered
  have chosen : ∀ list : List Contact, contact ∈ list.filter (fun known => known.id == id) ↔
      contact ∈ list ∧ contact.id = id := by
    intro list
    rw [List.mem_filter, beq_iff_eq]
  rw [rewritten, find_iff (sound.sound bucket (mem_of_split split)).distinct, ← chosen, ← inner,
    chosen]

theorem knows_after_add {table : Table} (sound : table.Sound) (coarse : table.Coarse)
    (now : Nanoseconds) (contact : Contact) {id : Ident} (known : table.knows id = true) :
    (table.add now contact).1.knows id = true := by
  rw [knows_iff sound] at known
  obtain ⟨old, live, rfl⟩ := known
  rw [knows_iff (add_sound sound now contact)]
  by_cases same : old.id = contact.id
  · have stranger : contact.id ≠ table.owner := by
      rw [← same]
      exact contacts_foreign sound old (List.mem_append_left _ live)
    have taken : (table.add now contact).2 = true :=
      (add_answer sound coarse now stranger).mpr (Or.inl ⟨old, live, same⟩)
    have perm := add_live sound now stranger
    rw [if_pos taken] at perm
    exact ⟨contact, perm.mem_iff.mpr (List.mem_append_right _ (List.mem_singleton_self _)),
      same.symm⟩
  · have kept := (add_others sound now contact).mem_iff (a := old)
    simp only [List.mem_filter, bne_iff_ne] at kept
    exact ⟨old, (kept.mpr ⟨live, same⟩).1, rfl⟩

/-- Nothing but its own removal makes a table forget a live contact. -/
theorem knows_after {table : Table} (sound : table.Sound) (coarse : table.Coarse) {id : Ident}
    (known : table.knows id = true) {changes : List Change}
    (kept : Change.remove id ∉ changes) : (table.after changes).knows id = true := by
  unfold after
  induction changes generalizing table with
  | nil => exact known
  | cons made rest ih =>
      rw [List.mem_cons, not_or] at kept
      apply ih (change_sound sound made) (after_coarse sound coarse [made]) _ kept.2
      cases made with
      | add now contact => exact knows_after_add sound coarse now contact known
      | remove other =>
          have apart : other ≠ id := fun same => kept.1 (congrArg Change.remove same.symm)
          rw [knows_iff sound] at known
          obtain ⟨old, live, rfl⟩ := known
          rw [knows_iff (change_sound sound _)]
          refine ⟨old, ?_, rfl⟩
          change old ∈ (table.remove other).1.live
          rw [remove_live sound, mem_without]
          exact ⟨live, apart.symm⟩

/-- A live contact that is heard from again changes nothing about who is live. -/
theorem add_known {table : Table} (sound : table.Sound) (coarse : table.Coarse)
    (now : Nanoseconds) {contact : Contact} (live : contact ∈ table.live) :
    (table.add now contact).1.live.Perm table.live := by
  have stranger := contacts_foreign sound contact (List.mem_append_left _ live)
  have taken : (table.add now contact).2 = true :=
    (add_answer sound coarse now stranger).mpr (Or.inl ⟨contact, live, rfl⟩)
  have perm := add_live sound now stranger
  rw [if_pos taken] at perm
  exact perm.trans (without_append_perm (live_distinct sound) live)

/-- In any table a node can come to have, an identifier is new exactly if no bucket has it live. To
remove it answers with the live contact of that name, whichever bucket holds it; afterwards no bucket
has the name live or parked, and nothing else has changed: every bucket has its range and its other
contacts, in their order. -/
theorem remove_sees_every_bucket (owner : Ident) (capacity : Nat) (start : Nanoseconds)
    (changes : List Change) (id : Ident) :
    let table := (Table.empty owner capacity start).after changes
    let left := (table.remove id).1
    (table.knows id = false ↔
        ∀ bucket ∈ table.buckets, ∀ contact ∈ bucket.live, contact.id ≠ id) ∧
      (∀ contact, (table.remove id).2 = some contact ↔
        (∃ bucket ∈ table.buckets, contact ∈ bucket.live) ∧ contact.id = id) ∧
      (∀ bucket ∈ left.buckets, ∀ contact ∈ bucket.live ++ bucket.parked, contact.id ≠ id) ∧
      left = { table with
        buckets := table.buckets.map fun bucket => { bucket with
          live := bucket.live.filter fun contact => contact.id != id
          parked := bucket.parked.filter fun contact => contact.id != id } } := by
  intro table left
  have sound : table.Sound := after_sound (empty_sound owner capacity start) changes
  have everywhere : left = { table with buckets := table.buckets.map (Bucket.remove id) } :=
    remove_eq_map sound id
  refine ⟨?_, ?_, ?_, everywhere⟩
  · rw [Bool.eq_false_iff, ne_eq, knows_iff sound]
    simp only [live, List.mem_flatMap]
    constructor
    · intro new bucket among contact held named
      exact new ⟨contact, ⟨bucket, among, held⟩, named⟩
    · rintro absent ⟨contact, ⟨bucket, among, held⟩, named⟩
      exact absent bucket among contact held named
  · intro contact
    rw [removed_iff sound, live, List.mem_flatMap]
  · rw [everywhere]
    intro bucket among contact held
    obtain ⟨old, _, rfl⟩ := List.mem_map.mp among
    change contact ∈ (old.remove id).contacts at held
    rw [remove_contacts] at held
    exact ((mem_without id contact old.contacts).mp held).2

end Table
end XorOverlay
