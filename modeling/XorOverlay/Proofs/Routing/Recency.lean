import Mathlib
import XorOverlay.Proofs.Routing.Parking

/-!
The order inside buckets. A table does not note when it heard from whom, but its lists tell: whoever is
taken in goes to the end of the live contacts of its bucket, whoever is refused to the end of the parked
ones, and nothing that happens later, splits included, brings two contacts out of their order. So every
list is sorted by the last call that was answered accordingly, and has each contact as that call gave it.
-/

namespace XorOverlay

set_option autoImplicit false

/-- The contacts were stamped at increasing times, in the order they are listed in. -/
def InOrder (stamped : Nat → Contact → Prop) (contacts : List Contact) : Prop :=
  ∃ time : Contact → Nat, (∀ contact ∈ contacts, stamped (time contact) contact) ∧
    contacts.Pairwise fun a b => time a < time b

namespace InOrder

variable {stamped : Nat → Contact → Prop} {contacts : List Contact}

theorem nil (stamped : Nat → Contact → Prop) : InOrder stamped [] :=
  ⟨fun _ => 0, nofun, List.Pairwise.nil⟩

theorem sublist {part : List Contact} (ordered : InOrder stamped contacts)
    (kept : part.Sublist contacts) : InOrder stamped part := by
  obtain ⟨time, each, sorted⟩ := ordered
  exact ⟨time, fun contact member => each contact (kept.subset member), sorted.sublist kept⟩

theorem mono {later : Nat → Contact → Prop} (ordered : InOrder stamped contacts)
    (lasts : ∀ contact ∈ contacts, ∀ time, stamped time contact → later time contact) :
    InOrder later contacts := by
  obtain ⟨time, each, sorted⟩ := ordered
  exact ⟨time, fun contact member => lasts contact member _ (each contact member), sorted⟩

/-- A contact that is stamped after all others goes to the end. -/
theorem concat {now : Nat} {contact : Contact} (ordered : InOrder stamped contacts)
    (fresh : contact ∉ contacts)
    (before : ∀ known ∈ contacts, ∀ time, stamped time known → time < now)
    (stamp : stamped now contact) : InOrder stamped (contacts ++ [contact]) := by
  obtain ⟨time, each, sorted⟩ := ordered
  have old : ∀ known ∈ contacts, Function.update time contact now known = time known := by
    intro known member
    apply Function.update_of_ne
    rintro rfl
    exact fresh member
  refine ⟨Function.update time contact now, ?_, ?_⟩
  · intro known member
    rcases List.mem_append.mp member with among | last
    · rw [old known among]
      exact each known among
    · rw [List.mem_singleton.mp last, Function.update_self]
      exact stamp
  · apply List.pairwise_append.mpr
    refine ⟨?_, List.pairwise_singleton _ _, ?_⟩
    · apply List.Pairwise.imp_of_mem _ sorted
      intro a b first second less
      rw [old a first, old b second]
      exact less
    · intro known among last member
      rw [List.mem_singleton.mp member, Function.update_self, old known among]
      exact before known among _ (each known among)

end InOrder

namespace Bucket

/-- What a bucket has of an old one after a contact was added: on each list some of the old contacts,
in their order, but for the name of the contact, and behind them the contact, if it was answered that
it is on that list. -/
structure Inherits (contact : Contact) (taken : Bool) (old part : Bucket) : Prop where
  live : part.live.Sublist
    (without contact.id old.live ++ if taken = true then [contact] else [])
  parked : part.parked.Sublist
    (without contact.id old.parked ++ if taken = false then [contact] else [])

variable {owner : Ident} {capacity : Nat} {contact : Contact} {bucket : Bucket}

theorem inherits_self (taken : Bool) (absent : ∀ known ∈ bucket.contacts, known.id ≠ contact.id) :
    Inherits contact taken bucket bucket := by
  constructor
  · rw [without_eq_self fun known held => absent known (List.mem_append_left _ held)]
    exact List.sublist_append_left _ _
  · rw [without_eq_self fun known held => absent known (List.mem_append_right _ held)]
    exact List.sublist_append_left _ _

theorem park_sublist (capacity : Nat) (contact : Contact) (parked : List Contact) :
    (park capacity contact parked).Sublist (without contact.id parked ++ [contact]) := by
  unfold park
  dsimp only
  split_ifs
  · exact List.drop_sublist 1 _
  · exact List.Sublist.refl _

theorem add_inherits (now : Nanoseconds) (sound : bucket.Sound owner capacity) :
    Inherits contact (bucket.add capacity now contact).2 bucket
      (bucket.add capacity now contact).1 := by
  constructor
  · rw [add_live]
    split_ifs with taken
    · exact List.Sublist.refl _
    · rw [add_answer, Bool.or_eq_true, not_or] at taken
      rw [without_eq_self (absent_of_not_holds taken.1)]
      exact List.sublist_append_left _ _
  · rw [add_parked sound]
    cases (bucket.add capacity now contact).2 with
    | true => exact List.sublist_append_left _ _
    | false => exact park_sublist capacity contact bucket.parked

/-- What inherits from a half of a bucket inherits from the bucket. -/
theorem inherits_of_half {taken : Bool} {half part : Bucket} (kept : half.live.Sublist bucket.live)
    (nothing : half.parked = []) (inherits : Inherits contact taken half part) :
    Inherits contact taken bucket part := by
  constructor
  · exact inherits.live.trans ((kept.filter _).append_right _)
  · have parked := inherits.parked
    rw [nothing] at parked
    exact parked.trans ((List.nil_sublist _).append_right _)

theorem half_inherits {now : Nanoseconds} {half : Bucket} (taken : Bool)
    (full : (bucket.add capacity now contact).2 = false) (kept : half.live.Sublist bucket.live)
    (nothing : half.parked = []) : Inherits contact taken bucket half := by
  apply inherits_of_half kept nothing
  apply inherits_self
  rw [add_answer, Bool.or_eq_false_iff] at full
  intro known held
  rw [contacts, nothing, List.append_nil] at held
  exact absent_of_not_holds (Bool.eq_false_iff.mp full.1) known (kept.subset held)

theorem place_inherits (now : Nanoseconds) (sound : bucket.Sound owner capacity) :
    ∀ part ∈ (bucket.place owner capacity now contact).1,
      Inherits contact (bucket.place owner capacity now contact).2 bucket part := by
  revert sound
  refine place_induction (motive := fun bucket placed taken => bucket.Sound owner capacity →
    ∀ part ∈ placed, Inherits contact taken bucket part) ?_ ?_ ?_ bucket
  · intro bucket _ sound part member
    rw [List.mem_singleton.mp member]
    exact add_inherits now sound
  · intro bucket placed taken full may _ ih sound part member
    obtain ⟨⟨lower, upper⟩, nothingLower, nothingUpper⟩ := split_live now sound may
    rcases List.mem_append.mp member with inner | outer
    · have inherits := ih (split_sound now sound may).1 part inner
      exact inherits_of_half (lower ▸ List.filter_sublist) nothingLower inherits
    · rw [List.mem_singleton.mp outer]
      exact half_inherits taken full (upper ▸ List.filter_sublist) nothingUpper
  · intro bucket placed taken full may _ ih sound part member
    obtain ⟨⟨lower, upper⟩, nothingLower, nothingUpper⟩ := split_live now sound may
    rcases List.mem_cons.mp member with rfl | inner
    · exact half_inherits taken full (lower ▸ List.filter_sublist) nothingLower
    · have inherits := ih (split_sound now sound may).2 part inner
      exact inherits_of_half (upper ▸ List.filter_sublist) nothingUpper inherits

end Bucket

namespace Table

open Bucket

/-- Every bucket of a table that a contact was added to inherits from a bucket of the table before. -/
theorem add_inherits {table : Table} (sound : table.Sound) (now : Nanoseconds) (contact : Contact) :
    ∀ part ∈ (table.add now contact).1.buckets, ∃ old ∈ table.buckets,
      Inherits contact (table.add now contact).2 old part := by
  by_cases own : contact.id = table.owner
  · rw [add, if_pos own]
    intro part member
    refine ⟨part, member, inherits_self false ?_⟩
    rw [own]
    exact (sound.sound part member).foreign
  · obtain ⟨before, bucket, after, split, covered, placed⟩ := add_places sound now own
    have member := mem_of_split split
    rw [placed]
    intro part among
    rcases List.mem_append.mp among with early | late
    · rcases List.mem_append.mp early with first | inner
      · have absent := absent_beside sound split (Or.inl first) covered
        exact ⟨part, mem_beside split (Or.inl first), inherits_self _ absent⟩
      · exact ⟨bucket, member, place_inherits now (sound.sound bucket member) part inner⟩
    · have absent := absent_beside sound split (Or.inr late) covered
      exact ⟨part, mem_beside split (Or.inr late), inherits_self _ absent⟩

theorem mem_live_add {table : Table} (sound : table.Sound) (now : Nanoseconds)
    (contact other : Contact) :
    other ∈ (table.add now contact).1.live ↔
      if (table.add now contact).2 = true then
        other ∈ table.live ∧ other.id ≠ contact.id ∨ other = contact
      else other ∈ table.live := by
  by_cases own : contact.id = table.owner
  · rw [add, if_pos own, if_neg Bool.false_ne_true]
  · rw [(add_live sound now own).mem_iff]
    split_ifs
    · rw [List.mem_append, mem_without, List.mem_singleton]
    · rfl

/-- Taking in a contact drops no name from the live ones. -/
theorem named_after_add {table : Table} (sound : table.Sound) (now : Nanoseconds)
    (contact : Contact) {id : Ident} (live : id ∈ table.live.map Contact.id) :
    id ∈ (table.add now contact).1.live.map Contact.id := by
  obtain ⟨known, held, rfl⟩ := List.mem_map.mp live
  have after := mem_live_add sound now contact
  by_cases taken : (table.add now contact).2 = true
  · simp only [taken, if_true] at after
    by_cases same : known.id = contact.id
    · exact List.mem_map.mpr ⟨contact, (after contact).mpr (Or.inr rfl), same.symm⟩
    · exact List.mem_map_of_mem ((after known).mpr (Or.inl ⟨held, same⟩))
  · simp only [taken] at after
    exact List.mem_map_of_mem ((after known).mpr held)

section Calls

variable (first : Table) (changes : List Change)

/-- The change at a place of a history added a contact, and took it in or refused it. -/
def Answered (taken : Bool) (place : Nat) (contact : Contact) : Prop :=
  ∃ now, changes[place]? = some (.add now contact) ∧
    ((first.after (changes.take place)).add now contact).2 = taken

/-- The last change of a name that was answered like this added the contact. -/
def Latest (taken : Bool) (place : Nat) (contact : Contact) : Prop :=
  first.Answered changes taken place contact ∧
    ∀ later other, place < later → first.Answered changes taken later other →
      other.id ≠ contact.id

/-- After a place of a history a name is not removed any more. -/
def Stays (changes : List Change) (place : Nat) (id : Ident) : Prop :=
  ∀ later, place < later → changes[later]? ≠ some (.remove id)

variable {first changes} {taken : Bool} {place : Nat} {contact : Contact}

theorem after_concat (first : Table) (changes : List Change) (made : Change) :
    first.after (changes ++ [made]) = (first.after changes).change made :=
  List.foldl_concat ..

theorem answered_before (answered : first.Answered changes taken place contact) :
    place < changes.length := by
  obtain ⟨_, made, _⟩ := answered
  exact (List.getElem?_eq_some_iff.mp made).1

theorem answered_concat (made : Change) :
    first.Answered (changes ++ [made]) taken place contact ↔
      first.Answered changes taken place contact ∨
        place = changes.length ∧ ∃ now, made = .add now contact ∧
          ((first.after changes).add now contact).2 = taken := by
  unfold Answered
  rcases lt_trichotomy place changes.length with within | rfl | beyond
  · rw [List.getElem?_append_left within, List.take_append_of_le_length within.le]
    simp [within.ne]
  · simp
  · have nothing : (changes ++ [made])[place]? = none := by
      apply List.getElem?_eq_none
      rw [List.length_append, List.length_singleton]
      exact beyond
    rw [nothing, List.getElem?_eq_none beyond.le]
    simp [beyond.ne']

/-- A change that does not answer alike for the same name leaves the last such call what it was. -/
theorem latest_concat_iff {made : Change}
    (apart : ∀ now other, made = .add now other →
      ((first.after changes).add now other).2 = taken → other.id ≠ contact.id) :
    first.Latest (changes ++ [made]) taken place contact ↔
      first.Latest changes taken place contact := by
  unfold Latest
  simp only [answered_concat]
  constructor
  · rintro ⟨old | ⟨_, now, same, answer⟩, last⟩
    · exact ⟨old, fun later other after answered => last later other after (Or.inl answered)⟩
    · exact (apart now contact same answer rfl).elim
  · rintro ⟨old, last⟩
    refine ⟨Or.inl old, ?_⟩
    rintro later other after (answered | ⟨_, now, same, answer⟩)
    · exact last later other after answered
    · exact apart now other same answer

/-- What was added just now is the last of its name. -/
theorem latest_concat {now : Nanoseconds}
    (answer : ((first.after changes).add now contact).2 = taken) :
    first.Latest (changes ++ [.add now contact]) taken changes.length contact := by
  refine ⟨(answered_concat _).mpr (Or.inr ⟨rfl, now, rfl, answer⟩), ?_⟩
  intro later other after answered
  have within := answered_before answered
  rw [List.length_append, List.length_singleton] at within
  omega

theorem latest_concat_named {now : Nanoseconds} {other : Contact}
    (answer : ((first.after changes).add now other).2 = taken) (named : contact.id = other.id) :
    first.Latest (changes ++ [.add now other]) taken place contact ↔
      place = changes.length ∧ contact = other := by
  constructor
  · rintro ⟨answered, last⟩
    have recent := (latest_concat answer).1
    rcases (answered_concat _).mp answered with old | ⟨rfl, _, same, _⟩
    · exact (last _ other (answered_before old) recent named.symm).elim
    · exact ⟨rfl, (Change.add.inj same).2.symm⟩
  · rintro ⟨rfl, rfl⟩
    exact latest_concat answer

theorem stays_concat (made : Change) (id : Ident) (within : place < changes.length) :
    Stays (changes ++ [made]) place id ↔ Stays changes place id ∧ made ≠ .remove id := by
  unfold Stays
  constructor
  · intro stays
    constructor
    · intro later after removed
      have inner := (List.getElem?_eq_some_iff.mp removed).1
      exact stays later after ((List.getElem?_append_left inner).trans removed)
    · rintro rfl
      exact stays changes.length within (by simp)
  · rintro ⟨stays, apart⟩ later after removed
    rcases lt_or_ge later changes.length with inner | outer
    · exact stays later after ((List.getElem?_append_left inner).symm.trans removed)
    · rw [List.getElem?_append_right outer, List.getElem?_singleton] at removed
      split_ifs at removed
      exact apart (Option.some.inj removed)

/-- A list that inherits from one in the order of calls is in that order, the call just made included. -/
theorem in_order_inherited {answer : Bool} {now : Nanoseconds} {old part : List Contact}
    (ordered : InOrder (first.Latest changes answer) old)
    (answered : ((first.after changes).add now contact).2 = taken)
    (kept : part.Sublist
      (without contact.id old ++ if taken = answer then [contact] else [])) :
    InOrder (first.Latest (changes ++ [.add now contact]) answer) part := by
  have others : InOrder (first.Latest (changes ++ [.add now contact]) answer)
      (without contact.id old) := by
    apply (ordered.sublist (without_sublist contact.id old)).mono
    intro known among time latest
    apply (latest_concat_iff _).mpr latest
    rintro _ _ ⟨⟩ _
    exact ((mem_without _ _ _).mp among).2.symm
  apply InOrder.sublist _ kept
  split_ifs with same
  · apply others.concat
    · intro among
      exact ((mem_without _ _ _).mp among).2 rfl
    · intro known among time latest
      have within := answered_before latest.1
      have apart := ((mem_without _ _ _).mp among).2
      have early : first.Answered changes answer time known := by
        rcases (answered_concat _).mp latest.1 with old | ⟨_, _, made, _⟩
        · exact old
        · exact (apart (congrArg Contact.id (Change.add.inj made).2.symm)).elim
      exact answered_before early
    · exact latest_concat (answered.trans same)
  · rw [List.append_nil]
    exact others

/-- The lists of every bucket are in the order of the calls that put their contacts there. -/
structure Chronological (first : Table) (changes : List Change) : Prop where
  live : ∀ bucket ∈ (first.after changes).buckets, InOrder (first.Latest changes true) bucket.live
  parked : ∀ bucket ∈ (first.after changes).buckets,
    InOrder (first.Latest changes false) bucket.parked

theorem add_chronological (sound : first.Sound) (chronological : first.Chronological changes)
    (now : Nanoseconds) (contact : Contact) :
    first.Chronological (changes ++ [.add now contact]) := by
  have inherits := add_inherits (after_sound sound changes) now contact
  have next := after_concat first changes (.add now contact)
  constructor
  · rw [next]
    intro part among
    obtain ⟨old, member, inherits⟩ := inherits part among
    exact in_order_inherited (chronological.live old member) rfl inherits.live
  · rw [next]
    intro part among
    obtain ⟨old, member, inherits⟩ := inherits part among
    exact in_order_inherited (chronological.parked old member) rfl inherits.parked

theorem remove_chronological (sound : first.Sound) (chronological : first.Chronological changes)
    (id : Ident) : first.Chronological (changes ++ [.remove id]) := by
  have next := after_concat first changes (.remove id)
  have left : ((first.after changes).change (.remove id)).buckets =
      (first.after changes).buckets.map (Bucket.remove id) :=
    congrArg Table.buckets (remove_eq_map (after_sound sound changes) id)
  have lasts : ∀ answer contact time, first.Latest changes answer time contact →
      first.Latest (changes ++ [.remove id]) answer time contact := by
    intro answer contact time latest
    apply (latest_concat_iff _).mpr latest
    intro _ _ added
    cases added
  constructor
  · rw [next, left]
    intro part among
    obtain ⟨old, member, rfl⟩ := List.mem_map.mp among
    exact ((chronological.live old member).sublist (without_sublist id old.live)).mono
      fun contact _ => lasts true contact
  · rw [next, left]
    intro part among
    obtain ⟨old, member, rfl⟩ := List.mem_map.mp among
    exact ((chronological.parked old member).sublist (without_sublist id old.parked)).mono
      fun contact _ => lasts false contact

theorem after_chronological (owner : Ident) (capacity : Nat) (start : Nanoseconds)
    (changes : List Change) : (Table.empty owner capacity start).Chronological changes := by
  have sound := empty_sound owner capacity start
  induction changes using List.reverseRecOn with
  | nil =>
      constructor
      · intro bucket member
        rw [List.mem_singleton.mp member]
        exact InOrder.nil _
      · intro bucket member
        rw [List.mem_singleton.mp member]
        exact InOrder.nil _
  | append_singleton changes made ih =>
      cases made with
      | add now contact => exact add_chronological sound ih now contact
      | remove id => exact remove_chronological sound ih id

end Calls

section Live

variable {first : Table} {changes : List Change} {contact : Contact}

/-- The contact was taken in by the last such call of its name, and was not removed since. -/
def Current (first : Table) (changes : List Change) (contact : Contact) : Prop :=
  ∃ place, first.Latest changes true place contact ∧ Stays changes place contact.id

theorem current_concat_iff {made : Change}
    (apart : ∀ now other, made = .add now other →
      ((first.after changes).add now other).2 = true → other.id ≠ contact.id) :
    first.Current (changes ++ [made]) contact ↔
      first.Current changes contact ∧ made ≠ .remove contact.id := by
  unfold Current
  simp only [latest_concat_iff apart]
  constructor
  · rintro ⟨place, latest, stays⟩
    rw [stays_concat made _ (answered_before latest.1)] at stays
    exact ⟨⟨place, latest, stays.1⟩, stays.2⟩
  · rintro ⟨⟨place, latest, stays⟩, kept⟩
    exact ⟨place, latest, (stays_concat made _ (answered_before latest.1)).mpr ⟨stays, kept⟩⟩

theorem current_concat_named {now : Nanoseconds} {other : Contact}
    (answer : ((first.after changes).add now other).2 = true) (named : contact.id = other.id) :
    first.Current (changes ++ [.add now other]) contact ↔ contact = other := by
  unfold Current
  simp only [latest_concat_named answer named]
  constructor
  · rintro ⟨_, ⟨_, same⟩, _⟩
    exact same
  · intro same
    refine ⟨changes.length, ⟨rfl, same⟩, ?_⟩
    intro later after removed
    have within := (List.getElem?_eq_some_iff.mp removed).1
    rw [List.length_append, List.length_singleton] at within
    omega

/-- Live are those that were taken in when they were last, and not removed since. -/
theorem live_iff_current (sound : first.Sound) (none : first.live = []) (contact : Contact) :
    contact ∈ (first.after changes).live ↔ first.Current changes contact := by
  induction changes using List.reverseRecOn with
  | nil =>
      change contact ∈ first.live ↔ _
      rw [none]
      refine iff_of_false List.not_mem_nil ?_
      rintro ⟨place, latest, _⟩
      exact Nat.not_lt_zero place (answered_before latest.1)
  | append_singleton changes made ih =>
      have held := after_sound sound changes
      rw [after_concat]
      cases made with
      | add now other =>
          change contact ∈ ((first.after changes).add now other).1.live ↔ _
          rw [mem_live_add held]
          split_ifs with taken
          · by_cases named : contact.id = other.id
            · rw [current_concat_named taken named]
              simp [named]
            · have apart : contact ≠ other := fun same => named (congrArg Contact.id same)
              rw [current_concat_iff, ih]
              · simp [named, apart]
              · rintro _ _ ⟨⟩ _
                exact Ne.symm named
          · rw [current_concat_iff, ih]
            · simp
            · rintro _ _ ⟨⟩ answered
              exact (taken answered).elim
      | remove id =>
          change contact ∈ ((first.after changes).remove id).1.live ↔ _
          rw [remove_live held, mem_without, current_concat_iff, ih]
          · simp [eq_comm]
          · intro _ _ added
            cases added

end Live

/-- In any table a node can come to have, the live contacts are those that were taken in when they were
last added with success, and not removed since; every bucket lists its live contacts as these calls gave
them, in the order of the calls. The parked contacts of every bucket are in the order of the last calls
that were refused, and as these gave them. -/
theorem buckets_list_by_last_call (owner : Ident) (capacity : Nat) (start : Nanoseconds)
    (changes : List Change) :
    let first := Table.empty owner capacity start
    let table := first.after changes
    (∀ bucket ∈ table.buckets,
        InOrder (first.Latest changes true) bucket.live ∧
          InOrder (first.Latest changes false) bucket.parked) ∧
      ∀ contact, contact ∈ table.live ↔
        ∃ place, first.Latest changes true place contact ∧ Stays changes place contact.id := by
  intro first table
  have chronological := after_chronological owner capacity start changes
  refine ⟨fun bucket member => ⟨chronological.live bucket member,
    chronological.parked bucket member⟩, ?_⟩
  exact live_iff_current (empty_sound owner capacity start) rfl

end Table
end XorOverlay
