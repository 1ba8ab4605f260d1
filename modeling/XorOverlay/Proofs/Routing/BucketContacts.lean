import Mathlib
import XorOverlay.Proofs.Routing.BucketRange

/-!
What a bucket holds. Adding, removing and splitting are described by the lists of live and parked
contacts they leave behind; the invariant of a bucket is stated over both lists at once, because a
contact is never on both.
-/

namespace XorOverlay.Bucket

set_option autoImplicit false

def contacts (bucket : Bucket) : List Contact :=
  bucket.live ++ bucket.parked

theorem mem_without (id : Ident) (contact : Contact) (contacts : List Contact) :
    contact ∈ without id contacts ↔ contact ∈ contacts ∧ contact.id ≠ id := by
  simp only [without, List.mem_filter, bne_iff_ne]

theorem without_append (id : Ident) (first second : List Contact) :
    without id (first ++ second) = without id first ++ without id second :=
  List.filter_append first second

theorem without_sublist (id : Ident) (contacts : List Contact) :
    (without id contacts).Sublist contacts :=
  List.filter_sublist

theorem without_eq_self {id : Ident} {contacts : List Contact}
    (absent : ∀ contact ∈ contacts, contact.id ≠ id) : without id contacts = contacts := by
  apply List.filter_eq_self.mpr
  intro contact member
  exact bne_iff_ne.mpr (absent contact member)

theorem holds_iff (id : Ident) (bucket : Bucket) :
    bucket.holds id = true ↔ ∃ contact ∈ bucket.live, contact.id = id := by
  simp only [holds, List.any_eq_true, beq_iff_eq]

theorem absent_of_not_holds {id : Ident} {bucket : Bucket} (fresh : ¬bucket.holds id = true) :
    ∀ contact ∈ bucket.live, contact.id ≠ id := by
  intro contact member same
  exact fresh ((holds_iff id bucket).mpr ⟨contact, member, same⟩)

/-- What adding a contact comes to: a live one moves to the end, a new one is appended while there
is room, and otherwise it comes last among the parked ones. -/
theorem add_cases (capacity : Nat) (now : Nanoseconds) (contact : Contact) (bucket : Bucket) :
    (bucket.holds contact.id = true ∧ bucket.add capacity now contact =
      ({ bucket with
          live := without contact.id bucket.live ++ [contact]
          touched := now }, true)) ∨
    (¬bucket.holds contact.id = true ∧ bucket.live.length < capacity ∧
      bucket.add capacity now contact =
        ({ bucket with
            live := bucket.live ++ [contact]
            parked := without contact.id bucket.parked
            touched := now }, true)) ∨
    (¬bucket.holds contact.id = true ∧ ¬bucket.live.length < capacity ∧ ∃ queue,
      queue.Sublist (without contact.id bucket.parked ++ [contact]) ∧
      (bucket.parked.length ≤ 5 * capacity → queue.length ≤ 5 * capacity) ∧
      bucket.add capacity now contact = ({ bucket with parked := queue }, false)) := by
  unfold add
  dsimp only
  by_cases held : bucket.holds contact.id = true
  · left
    exact ⟨held, if_pos held⟩
  · right
    rw [if_neg held]
    by_cases room : bucket.live.length < capacity
    · left
      exact ⟨held, room, if_pos room⟩
    · right
      refine ⟨held, room, _, ?_, ?_, if_neg room⟩
      · split_ifs
        · exact List.drop_sublist 1 _
        · exact List.Sublist.refl _
      · intro bound
        have kept := (without_sublist contact.id bucket.parked).length_le
        split_ifs with crowded
        · rw [List.length_drop, List.length_append, List.length_singleton]
          omega
        · unfold parkingFactor at crowded
          omega

theorem add_answer (capacity : Nat) (now : Nanoseconds) (contact : Contact) (bucket : Bucket) :
    (bucket.add capacity now contact).2 =
      (bucket.holds contact.id || decide (bucket.live.length < capacity)) := by
  rcases add_cases capacity now contact bucket with
    ⟨held, added⟩ | ⟨_, room, added⟩ | ⟨fresh, full, queue, _, _, added⟩
  · rw [added, held, Bool.true_or]
  · rw [added, decide_eq_true room, Bool.or_true]
  · rw [added, Bool.eq_false_iff.mpr fresh, decide_eq_false full, Bool.or_false]

/-- The live list gains the contact at its end, or stays as it is. -/
theorem add_live (capacity : Nat) (now : Nanoseconds) (contact : Contact) (bucket : Bucket) :
    (bucket.add capacity now contact).1.live =
      if (bucket.add capacity now contact).2 = true then
        without contact.id bucket.live ++ [contact]
      else bucket.live := by
  rcases add_cases capacity now contact bucket with
    ⟨_, added⟩ | ⟨fresh, _, added⟩ | ⟨_, _, queue, _, _, added⟩
  · rw [added, if_pos rfl]
  · rw [added, if_pos rfl, without_eq_self (absent_of_not_holds fresh)]
  · rw [added, if_neg Bool.false_ne_true]

theorem mem_add {capacity : Nat} {now : Nanoseconds} {contact other : Contact} {bucket : Bucket}
    (member : other ∈ (bucket.add capacity now contact).1.contacts) :
    other ∈ bucket.contacts ∨ other = contact := by
  rcases add_cases capacity now contact bucket with
    ⟨_, added⟩ | ⟨_, _, added⟩ | ⟨_, _, queue, queued, _, added⟩
  · rw [added] at member
    simp only [contacts, List.mem_append, mem_without, List.mem_singleton] at member ⊢
    tauto
  · rw [added] at member
    simp only [contacts, List.mem_append, mem_without, List.mem_singleton] at member ⊢
    tauto
  · rw [added] at member
    rcases List.mem_append.mp member with live | parked
    · exact Or.inl (List.mem_append_left _ live)
    · rcases List.mem_append.mp (queued.subset parked) with kept | last
      · exact Or.inl (List.mem_append_right _ ((mem_without _ _ _).mp kept).1)
      · exact Or.inr (List.mem_singleton.mp last)

theorem nodup_without_append {contacts : List Contact} (contact : Contact)
    (distinct : (contacts.map Contact.id).Nodup) :
    ((without contact.id contacts ++ [contact]).map Contact.id).Nodup := by
  have kept := distinct.sublist ((without_sublist contact.id contacts).map Contact.id)
  rw [List.map_append, List.nodup_append]
  refine ⟨kept, List.nodup_singleton _, ?_⟩
  intro id left other right same
  obtain ⟨known, member, rfl⟩ := List.mem_map.mp left
  have named : other = contact.id := List.mem_singleton.mp right
  exact ((mem_without _ _ _).mp member).2 (same.trans named)

/-- Whatever way a contact is taken in, the bucket then holds some of its other contacts and the one
added, each once. -/
theorem add_distinct (capacity : Nat) (now : Nanoseconds) (contact : Contact) {bucket : Bucket}
    (distinct : (bucket.contacts.map Contact.id).Nodup) :
    ((bucket.add capacity now contact).1.contacts.map Contact.id).Nodup := by
  have target := nodup_without_append contact distinct
  unfold contacts at target distinct
  rw [without_append] at target
  unfold contacts
  rcases add_cases capacity now contact bucket with
    ⟨held, added⟩ | ⟨fresh, _, added⟩ | ⟨fresh, _, queue, queued, _, added⟩
  · have apart : ∀ parked ∈ bucket.parked, parked.id ≠ contact.id := by
      obtain ⟨known, member, same⟩ := (holds_iff _ _).mp held
      intro parked inParked clash
      rw [List.map_append, List.nodup_append] at distinct
      exact distinct.2.2 _ (List.mem_map_of_mem member) _ (List.mem_map_of_mem inParked)
        (same.trans clash.symm)
    rw [without_eq_self apart, List.append_assoc] at target
    rw [added, List.append_assoc]
    exact ((List.perm_append_comm.append_left _).map Contact.id).nodup target
  · rw [without_eq_self (absent_of_not_holds fresh), List.append_assoc] at target
    rw [added, List.append_assoc]
    exact ((List.perm_append_comm.append_left _).map Contact.id).nodup target
  · rw [without_eq_self (absent_of_not_holds fresh), List.append_assoc] at target
    rw [added]
    exact target.sublist ((queued.append_left _).map Contact.id)

theorem add_live_length {capacity : Nat} (now : Nanoseconds) (contact : Contact) {bucket : Bucket}
    (bound : bucket.live.length ≤ capacity) :
    (bucket.add capacity now contact).1.live.length ≤ capacity := by
  rcases add_cases capacity now contact bucket with
    ⟨held, added⟩ | ⟨_, room, added⟩ | ⟨_, _, queue, _, _, added⟩
  · obtain ⟨known, member, same⟩ := (holds_iff _ _).mp held
    have dropped : (without contact.id bucket.live).length < bucket.live.length := by
      apply List.length_filter_lt_length_iff_exists.mpr
      exact ⟨known, member, by simp [same]⟩
    rw [added, List.length_append, List.length_singleton]
    omega
  · rw [added, List.length_append, List.length_singleton]
    omega
  · rw [added]
    exact bound

theorem add_parked_length {capacity : Nat} (now : Nanoseconds) (contact : Contact)
    {bucket : Bucket} (bound : bucket.parked.length ≤ 5 * capacity) :
    (bucket.add capacity now contact).1.parked.length ≤ 5 * capacity := by
  rcases add_cases capacity now contact bucket with
    ⟨_, added⟩ | ⟨_, _, added⟩ | ⟨_, _, queue, _, short, added⟩
  · rw [added]
    exact bound
  · rw [added]
    exact (without_sublist contact.id bucket.parked).length_le.trans bound
  · rw [added]
    exact short bound

theorem add_parked_nil {capacity : Nat} {now : Nanoseconds} {contact : Contact} {bucket : Bucket}
    (nothing : bucket.parked = []) (live : (bucket.add capacity now contact).2 = true) :
    (bucket.add capacity now contact).1.parked = [] := by
  rcases add_cases capacity now contact bucket with
    ⟨_, added⟩ | ⟨_, _, added⟩ | ⟨_, _, queue, _, _, added⟩
  · rw [added]
    exact nothing
  · rw [added, nothing]
    rfl
  · rw [added] at live
    exact Bool.noConfusion live

theorem remove_contacts (id : Ident) (bucket : Bucket) :
    (bucket.remove id).contacts = without id bucket.contacts :=
  (without_append id bucket.live bucket.parked).symm

end XorOverlay.Bucket
