import Mathlib
import XorOverlay.Proofs.Routing.Membership

/-!
What becomes of one name. Additions and removals of a single name leave all other live contacts in
their places, and at most one other contact, the one parked longest in the cell of that name, is
dropped on account of them. Where the name itself ends up depends on its last change, and on whether
the others of its cell leave room for it.
-/

namespace XorOverlay

set_option autoImplicit false

namespace Bucket

/-- Parks a contact behind those that are parked, at the expense of the first if there are too
many. -/
def park (capacity : Nat) (contact : Contact) (parked : List Contact) : List Contact :=
  let queue := without contact.id parked ++ [contact]
  if capacity * parkingFactor < queue.length then queue.drop 1 else queue

/-- Where there is no parking place left, whoever has been parked longest is dropped. -/
theorem park_cases {capacity : Nat} (positive : 0 < capacity) (contact : Contact)
    (parked : List Contact) :
    ((without contact.id parked).length < 5 * capacity ∧
      park capacity contact parked = without contact.id parked ++ [contact]) ∨
    (¬(without contact.id parked).length < 5 * capacity ∧ ∃ oldest rest,
      without contact.id parked = oldest :: rest ∧
        park capacity contact parked = rest ++ [contact]) := by
  unfold park parkingFactor
  dsimp only
  rw [List.length_append, List.length_singleton]
  by_cases spare : (without contact.id parked).length < 5 * capacity
  · exact Or.inl ⟨spare, if_neg (by omega)⟩
  · refine Or.inr ⟨spare, ?_⟩
    rw [if_pos (by omega)]
    cases others : without contact.id parked with
    | nil =>
        rw [others] at spare
        exact (spare (by simpa using positive)).elim
    | cons oldest rest => exact ⟨oldest, rest, rfl, rfl⟩

variable {owner : Ident} {capacity : Nat} {now : Nanoseconds} {contact : Contact} {bucket : Bucket}

theorem add_parked (sound : bucket.Sound owner capacity) :
    (bucket.add capacity now contact).1.parked =
      if (bucket.add capacity now contact).2 = true then without contact.id bucket.parked
      else park capacity contact bucket.parked := by
  by_cases held : bucket.holds contact.id = true
  · have fresh : without contact.id bucket.parked = bucket.parked := by
      obtain ⟨known, member, same⟩ := (holds_iff _ _).mp held
      have distinct := sound.distinct
      unfold contacts at distinct
      rw [List.map_append, List.nodup_append] at distinct
      apply without_eq_self
      intro parked inParked clash
      exact distinct.2.2 _ (List.mem_map_of_mem member) _ (List.mem_map_of_mem inParked)
        (same.trans clash.symm)
    rw [add_answer, held, Bool.true_or, if_pos rfl, fresh, add, if_pos held]
  · by_cases room : bucket.live.length < capacity
    · rw [add_answer, decide_eq_true room, Bool.or_true, if_pos rfl, add, if_neg held, if_pos room]
    · rw [add_answer, Bool.eq_false_iff.mpr held, decide_eq_false room, Bool.or_false,
        if_neg Bool.false_ne_true, add, if_neg held, if_neg room]
      rfl

/-- Only a bucket past splitting has anyone parked, so a placement parks where the others are. -/
theorem place_parked (now : Nanoseconds) (contact : Contact)
    (sound : bucket.Sound owner capacity) :
    (bucket.place owner capacity now contact).1.flatMap parked =
      if (bucket.place owner capacity now contact).2 = true then without contact.id bucket.parked
      else park capacity contact bucket.parked := by
  revert sound
  refine place_induction (motive := fun bucket placed answer => bucket.Sound owner capacity →
    placed.flatMap parked = if answer = true then without contact.id bucket.parked
      else park capacity contact bucket.parked) ?_ ?_ ?_ bucket
  · intro bucket _ sound
    rw [List.flatMap_singleton, add_parked sound]
  · intro bucket placed answer _ may _ ih sound
    obtain ⟨_, nothing, beside⟩ := split_live now sound may
    rw [List.flatMap_append, List.flatMap_singleton, beside, List.append_nil,
      ih (split_sound now sound may).1, nothing, parked_nil_of_splittable sound may]
  · intro bucket placed answer _ may _ ih sound
    obtain ⟨_, beside, nothing⟩ := split_live now sound may
    rw [List.flatMap_cons, beside, List.nil_append, ih (split_sound now sound may).2, nothing,
      parked_nil_of_splittable sound may]

/-- What is parked in the bucket of a name is parked in its cell. -/
theorem parked_in_cell (sound : bucket.Sound owner capacity) (coarse : bucket.Coarse owner)
    {id : Ident} (stranger : id ≠ owner) (inside : bucket.covers id = true) :
    bucket.parked.filter (Contact.inCell owner id) = bucket.parked := by
  apply List.filter_eq_self.mpr
  intro known member
  have rest := sound.resting (List.ne_nil_of_mem member)
  apply decide_eq_true
  rw [cell_eq_of_rest sound.aligned coarse rest stranger inside,
    ← covers_iff_same_block sound.aligned inside]
  exact sound.covered known (List.mem_append_right _ member)

end Bucket

/-- The contacts in the cell of a name, those of the name itself apart. -/
def cellmates (owner id : Ident) (contacts : List Contact) : List Contact :=
  (Bucket.without id contacts).filter (Contact.inCell owner id)

section Cellmates

variable (owner id : Ident) (contacts : List Contact)

theorem cellmates_eq :
    cellmates owner id contacts =
      Bucket.without id (contacts.filter (Contact.inCell owner id)) :=
  List.filter_comm _ _ _

theorem cellmates_le :
    (cellmates owner id contacts).length ≤ (contacts.filter (Contact.inCell owner id)).length := by
  rw [cellmates_eq]
  exact List.length_filter_le _ _

variable {owner id contacts}

theorem own_in_cell (owner : Ident) (contact : Contact) :
    contact.inCell owner contact.id = true :=
  decide_eq_true (Ident.same_block_mono (Nat.zero_le _) ((Ident.same_block_zero_iff _ _).mpr rfl))

/-- A name that is held takes a place from the others in its cell. -/
theorem cellmates_lt {known : Contact} (named : known.id = id) {bound : Nat}
    (few : (contacts.filter (Contact.inCell owner id)).length ≤ bound) (held : known ∈ contacts) :
    (cellmates owner id contacts).length < bound := by
  have cell : known.inCell owner id = true := named ▸ own_in_cell owner known
  refine lt_of_lt_of_le ?_ few
  rw [cellmates_eq]
  apply List.length_filter_lt_length_iff_exists.mpr
  exact ⟨known, List.mem_filter.mpr ⟨held, cell⟩, by simp [named]⟩

end Cellmates

namespace Table

open Bucket

variable {table : Table} {id : Ident}

/-- The others in the cell of a name leave a live place in it. -/
def Room (id : Ident) (table : Table) : Prop :=
  (cellmates table.owner id table.live).length < table.capacity

/-- The others in the cell of a name leave a parking place in it. -/
def Spare (id : Ident) (table : Table) : Prop :=
  (cellmates table.owner id table.parked).length < 5 * table.capacity

instance (id : Ident) (table : Table) : Decidable (table.Room id) :=
  inferInstanceAs (Decidable (_ < _))

instance (id : Ident) (table : Table) : Decidable (table.Spare id) :=
  inferInstanceAs (Decidable (_ < _))

section Cell

variable (sound : table.Sound) (coarse : table.Coarse) (stranger : id ≠ table.owner)
include sound coarse stranger

/-- The cell of a name is part of one bucket. -/
theorem cell_bounds :
    (table.live.filter (Contact.inCell table.owner id)).length ≤ table.capacity ∧
      (table.parked.filter (Contact.inCell table.owner id)).length ≤ 5 * table.capacity := by
  obtain ⟨before, bucket, after, split, covered, _, _⟩ :=
    owning_split sound.tiled id (Nat.zero_le _) id.toNat_lt_total
  have held := sound.sound bucket (mem_of_split split)
  have inside : ∀ contact : Contact, contact.inCell table.owner id = true →
      bucket.covers contact.id = true := fun _ =>
    covers_of_cell held.aligned (coarse bucket (mem_of_split split)) stranger covered
  constructor
  · rw [filter_live sound split inside]
    exact (List.length_filter_le _ _).trans held.liveBound
  · rw [parked, filter_list sound split parked_within inside]
    exact (List.length_filter_le _ _).trans held.parkedBound

/-- There is room for a name exactly if adding it makes it live. -/
theorem room_iff (now : Nanoseconds) {contact : Contact} (named : contact.id = id) :
    (table.add now contact).2 = true ↔ table.Room id := by
  subst named
  rw [add_answer sound coarse now stranger, Room]
  constructor
  · rintro (⟨known, live, same⟩ | few)
    · exact cellmates_lt same (cell_bounds sound coarse stranger).1 live
    · exact (cellmates_le _ _ _).trans_lt few
  · intro room
    by_cases known : ∃ known ∈ table.live, known.id = contact.id
    · exact Or.inl known
    · right
      rw [cellmates, without_eq_self fun other live same => known ⟨other, live, same⟩] at room
      exact room

/-- Whoever is added is parked, if at all, among the others of its cell. -/
theorem add_parks (now : Nanoseconds) {contact : Contact} (named : contact.id = id) :
    (table.add now contact).1.parked.Perm
      ((table.parked.filter fun known => !known.inCell table.owner id) ++
        if table.Room id then
          without id (table.parked.filter (Contact.inCell table.owner id))
        else
          park table.capacity contact (table.parked.filter (Contact.inCell table.owner id))) := by
  have taken := room_iff sound coarse stranger now named
  subst named
  obtain ⟨before, bucket, after, split, covered, placed⟩ := add_places sound now stranger
  have held := sound.sound bucket (mem_of_split split)
  have whole := coarse bucket (mem_of_split split)
  have inside : ∀ other : Contact, other.inCell table.owner contact.id = true →
      bucket.covers other.id = true := fun _ => covers_of_cell held.aligned whole stranger covered
  have cell : table.parked.filter (Contact.inCell table.owner contact.id) = bucket.parked := by
    rw [parked, filter_list sound split parked_within inside,
      parked_in_cell held whole stranger covered]
  have rest : (table.parked.filter fun known => !known.inCell table.owner contact.id).Perm
      (before.flatMap Bucket.parked ++ after.flatMap Bucket.parked) := by
    have outside : ∀ known, known ∈ before.flatMap Bucket.parked ∨
        known ∈ after.flatMap Bucket.parked → (!known.inCell table.owner contact.id) = true := by
      intro known apart
      rw [Bool.not_eq_true']
      exact Bool.eq_false_iff.mpr fun inner =>
        elsewhere sound split parked_within apart (inside known inner)
    have none : (bucket.parked.filter fun known => !known.inCell table.owner contact.id) = [] := by
      rw [← cell, List.filter_filter]
      simp
    rw [parked, list_of_split split, List.filter_append, List.filter_append, none, List.nil_append,
      List.filter_eq_self.mpr fun known early => outside known (Or.inl early),
      List.filter_eq_self.mpr fun known late => outside known (Or.inr late)]
  have inner := place_parked now contact held
  rw [placed] at taken
  rw [placed, cell]
  unfold parked
  dsimp only
  rw [List.flatMap_append, List.flatMap_append, inner, if_congr taken rfl rfl, List.append_assoc]
  exact (List.perm_append_comm.append_left _).trans
    ((List.append_assoc _ _ _).symm ▸ (rest.symm.append_right _))

end Cell

theorem without_cell (stranger : id ≠ table.owner) (contacts : List Contact) :
    (without id contacts).Perm
      ((contacts.filter fun known => !known.inCell table.owner id) ++
        without id (contacts.filter (Contact.inCell table.owner id))) := by
  have apart : without id (contacts.filter fun known => !known.inCell table.owner id) =
      contacts.filter fun known => !known.inCell table.owner id := by
    apply without_eq_self
    rintro known outside rfl
    have beyond := (List.mem_filter.mp outside).2
    rw [own_in_cell] at beyond
    cases beyond
  have parts := (List.filter_append_perm (Contact.inCell table.owner id) contacts).filter
    fun known => known.id != id
  rw [List.filter_append] at parts
  refine parts.symm.trans (List.perm_append_comm.trans ?_)
  exact List.Perm.of_eq (congrArg (· ++ _) apart)

section Offer

variable (sound : table.Sound) (coarse : table.Coarse) (stranger : id ≠ table.owner)
  (positive : 0 < table.capacity) (now : Nanoseconds) {contact : Contact} (named : contact.id = id)
include sound coarse stranger positive named

/-- Whoever is added is parked if there is no room, and then drops the one parked longest in the cell
if there is no parking place either. -/
theorem add_drops : ∃ lost kept, (without id table.parked).Perm (lost ++ kept) ∧
    (table.add now contact).1.parked.Perm (kept ++ if table.Room id then [] else [contact]) ∧
    lost.length ≤ 1 ∧ (∀ other ∈ lost, other.inCell table.owner id = true) ∧
    (lost = [] ↔ table.Room id ∨ table.Spare id) := by
  have perm := add_parks sound coarse stranger now named
  have others := without_cell stranger table.parked
  by_cases room : table.Room id
  · rw [if_pos room] at perm ⊢
    refine ⟨[], without id table.parked, List.Perm.refl _, ?_, Nat.zero_le _, nofun, by simp [room]⟩
    rw [List.append_nil]
    exact perm.trans others.symm
  · rw [if_neg room] at perm ⊢
    have spare : table.Spare id ↔ (without contact.id
        (table.parked.filter (Contact.inCell table.owner id))).length < 5 * table.capacity := by
      rw [Spare, cellmates_eq, named]
    rcases park_cases positive contact (table.parked.filter (Contact.inCell table.owner id)) with
      ⟨few, parks⟩ | ⟨many, oldest, rest, cell, parks⟩
    · rw [parks, named, ← List.append_assoc] at perm
      exact ⟨[], _, List.Perm.refl _, perm.trans (others.symm.append_right _), Nat.zero_le _,
        nofun, by simp [spare, few]⟩
    · rw [parks, ← List.append_assoc] at perm
      rw [named] at cell
      refine ⟨[oldest], _, ?_, perm, le_rfl, ?_, by simp [room, spare, many]⟩
      · rw [cell] at others
        exact others.trans List.perm_middle
      · intro known dropped
        have inside : known ∈ without id
            (table.parked.filter (Contact.inCell table.owner id)) := by
          rw [cell, List.mem_singleton.mp dropped]
          exact List.mem_cons_self
        exact (List.mem_filter.mp ((mem_without _ _ _).mp inside).1).2

end Offer

/-- What changes of one name make of a table, if they end with the name in a seat or gone: who else is
live stays so, and whoever was parked longest in the cell of the name is dropped, if a contact was
offered for which there was no place, live or parked. -/
structure Revised (id : Ident) (offered : Bool) (seat : Option Contact) (first last : Table) :
    Prop where
  owner : last.owner = first.owner
  capacity : last.capacity = first.capacity
  others : (without id last.live).Perm (without id first.live)
  named : ∀ contact ∈ seat, contact.id = id
  live : ∀ contact, contact.id = id →
    (contact ∈ last.live ↔ first.Room id ∧ contact ∈ seat)
  parked : ∀ contact, contact.id = id →
    (contact ∈ last.parked ↔ ¬first.Room id ∧ contact ∈ seat)
  dropped : ∃ lost, (without id first.parked).Perm (lost ++ without id last.parked) ∧
    lost.length ≤ 1 ∧ (∀ contact ∈ lost, contact.inCell first.owner id = true) ∧
    (lost = [] ↔ (offered = true → first.Room id ∨ first.Spare id))

theorem without_without (contacts : List Contact) :
    without id (without id contacts) = without id contacts :=
  without_eq_self fun contact member => ((mem_without id contact contacts).mp member).2

theorem remove_revised (sound : table.Sound) : Revised id false none table (table.remove id).1 where
  owner := rfl
  capacity := rfl
  others := by
    rw [remove_live sound, without_without]
  named := nofun
  live := by
    intro contact same
    simp [remove_live sound, mem_without, same]
  parked := by
    intro contact same
    simp [remove_parked sound, mem_without, same]
  dropped := by
    refine ⟨[], ?_, Nat.zero_le _, nofun, by simp⟩
    rw [remove_parked sound, without_without]
    rfl

theorem add_revised (sound : table.Sound) (coarse : table.Coarse) (stranger : id ≠ table.owner)
    (positive : 0 < table.capacity) (now : Nanoseconds) {contact : Contact}
    (named : contact.id = id) :
    Revised id true (some contact) table (table.add now contact).1 := by
  have taken := room_iff sound coarse stranger now named
  have foreign : contact.id ≠ table.owner := named ▸ stranger
  have live := add_live sound now foreign
  rw [if_congr taken rfl rfl, named] at live
  obtain ⟨lost, kept, split, parked, few, inside, spared⟩ :=
    add_drops sound coarse stranger positive now named
  have apart : ∀ other ∈ kept, other.id ≠ id := by
    intro other member
    have held := split.mem_iff.mpr (List.mem_append_right lost member)
    exact ((mem_without _ _ _).mp held).2
  refine ⟨(add_owner now contact table).1, (add_owner now contact table).2,
    named ▸ add_others sound now contact, ?_, ?_, ?_, ?_⟩
  · rintro _ ⟨⟩
    exact named
  · intro other same
    rw [live.mem_iff]
    by_cases room : table.Room id
    · simp [room, mem_without, same, eq_comm]
    · rw [if_neg room]
      refine ⟨fun held => (room (taken.mp ?_)).elim, fun seated => (room seated.1).elim⟩
      exact (add_answer sound coarse now foreign).mpr (Or.inl ⟨other, held, same.trans named.symm⟩)
  · intro other same
    have absent : other ∉ kept := fun member => apart other member same
    rw [parked.mem_iff]
    by_cases room : table.Room id
    · simp [room, absent]
    · simp [room, absent, eq_comm]
  · refine ⟨lost, ?_, few, inside, by simpa using spared⟩
    have rest := parked.filter fun known => known.id != id
    have gone : without id (if table.Room id then [] else [contact]) = [] := by
      split_ifs
      · rfl
      · simp [without, named]
    change (without id _).Perm (without id _) at rest
    rw [without_append, gone, List.append_nil, without_eq_self apart] at rest
    exact split.trans (rest.symm.append_left lost)

namespace Revised

variable {offered again : Bool} {seat place : Option Contact} {first middle last : Table}

theorem room (revised : Revised id offered seat first last) : last.Room id ↔ first.Room id := by
  rw [Room, Room, revised.owner, revised.capacity, cellmates, cellmates,
    (revised.others.filter _).length_eq]

theorem trans (sound : first.Sound) (coarse : first.Coarse) (stranger : id ≠ first.owner)
    (one : Revised id offered seat first middle) (other : Revised id again place middle last) :
    Revised id (offered || again) place first last := by
  refine ⟨other.owner.trans one.owner, other.capacity.trans one.capacity,
    other.others.trans one.others, other.named, ?_, ?_, ?_⟩
  · intro contact same
    rw [other.live contact same, one.room]
  · intro contact same
    rw [other.parked contact same, one.room]
  · obtain ⟨lost, split, few, inside, spared⟩ := one.dropped
    obtain ⟨gone, divided, atMost, within, saved⟩ := other.dropped
    -- Whoever is dropped leaves a parking place in the cell, so nobody is dropped after that.
    have size : lost.length + (cellmates middle.owner id middle.parked).length =
        (cellmates first.owner id first.parked).length := by
      rw [cellmates, cellmates, (split.filter _).length_eq, List.filter_append,
        List.length_append, one.owner, List.filter_eq_self.mpr inside]
    have bound := (cellmates_le first.owner id first.parked).trans
      (cell_bounds sound coarse stranger).2
    have spare : middle.Spare id ↔ lost ≠ [] ∨ first.Spare id := by
      rw [Spare, Spare, one.capacity, ← List.length_pos_iff]
      omega
    rw [one.room, spare] at saved
    have whole : (without id first.parked).Perm (lost ++ gone ++ without id last.parked) := by
      rw [List.append_assoc]
      exact split.trans (divided.append_left lost)
    refine ⟨lost ++ gone, whole, ?_, List.forall_mem_append.mpr ⟨inside, one.owner ▸ within⟩, ?_⟩
    · by_cases none : lost = []
      · rw [none]
        exact atMost
      · rw [saved.mpr fun _ => Or.inr (Or.inl none), List.append_nil]
        exact few
    · rw [List.append_eq_nil_iff, saved, Bool.or_eq_true, or_imp]
      constructor
      · rintro ⟨none, placed⟩
        refine ⟨spared.mp none, fun offers => ?_⟩
        exact (placed offers).imp_right fun spare => spare.resolve_left (not_not_intro none)
      · rintro ⟨before, after⟩
        exact ⟨spared.mpr before, fun offers => (after offers).imp_right Or.inr⟩

end Revised

def Change.named : Change → Ident
  | .add _ contact => contact.id
  | .remove id => id

/-- The contact that a change offers to the table. -/
def Change.offer : Change → Option Contact
  | .add _ contact => some contact
  | .remove _ => none

theorem change_revised (sound : table.Sound) (coarse : table.Coarse) (stranger : id ≠ table.owner)
    (positive : 0 < table.capacity) {made : Change} (named : made.named = id) :
    Revised id made.offer.isSome made.offer table (table.change made) := by
  cases made with
  | add now contact => exact add_revised sound coarse stranger positive now named
  | remove other =>
      obtain rfl : other = id := named
      exact remove_revised sound

theorem after_revised (sound : table.Sound) (coarse : table.Coarse) (stranger : id ≠ table.owner)
    (positive : 0 < table.capacity) {changes : List Change} (last : Change)
    (named : ∀ made ∈ changes ++ [last], made.named = id) :
    Revised id ((changes ++ [last]).any fun made => made.offer.isSome) last.offer table
      (table.after (changes ++ [last])) := by
  induction changes generalizing table with
  | nil => simpa [after] using change_revised sound coarse stranger positive (named last (by simp))
  | cons made rest ih =>
      rw [List.cons_append, List.forall_mem_cons] at named
      have kept := change_owner table made
      have begun := change_revised sound coarse stranger positive named.1
      have later := ih (change_sound sound made) (after_coarse sound coarse [made])
        (kept.1.symm ▸ stranger) (kept.2.symm ▸ positive) named.2
      exact begun.trans sound coarse stranger later

theorem add_own (now : Nanoseconds) {contact : Contact} (own : contact.id = table.owner) :
    table.change (.add now contact) = table :=
  congrArg Prod.fst (if_pos own : table.add now contact = (table, false))

/-- Changes of the owner's name change nothing about the contacts. -/
theorem after_own (sound : table.Sound) {changes : List Change}
    (named : ∀ made ∈ changes, made.named = table.owner) :
    (table.after changes).live = table.live ∧ (table.after changes).parked = table.parked := by
  induction changes generalizing table with
  | nil => exact ⟨rfl, rfl⟩
  | cons made rest ih =>
      rw [List.forall_mem_cons] at named
      have kept := change_owner table made
      obtain ⟨live, parked⟩ := ih (change_sound sound made) (kept.1.symm ▸ named.2)
      have foreign := contacts_foreign sound
      rw [List.forall_mem_append] at foreign
      cases made with
      | add now contact =>
          rw [add_own now named.1] at live parked
          unfold after
          rw [List.foldl_cons, add_own now named.1]
          exact ⟨live, parked⟩
      | remove id =>
          obtain rfl : id = table.owner := named.1
          exact ⟨live.trans ((remove_live sound _).trans (without_eq_self foreign.1)),
            parked.trans ((remove_parked sound _).trans (without_eq_self foreign.2))⟩

theorem no_contacts_of_narrow (sound : table.Sound) (narrow : table.capacity = 0) :
    table.live = [] ∧ table.parked = [] := by
  constructor
  · refine List.flatMap_eq_nil_iff.mpr fun bucket among => List.eq_nil_of_length_eq_zero ?_
    have bound := (sound.sound bucket among).liveBound
    omega
  · refine List.flatMap_eq_nil_iff.mpr fun bucket among => List.eq_nil_of_length_eq_zero ?_
    have bound := (sound.sound bucket among).parkedBound
    omega

/-- Whatever changes one name goes through, everyone else stays, but for at most one parked contact. -/
theorem after_others (sound : table.Sound) (coarse : table.Coarse) {changes : List Change}
    (named : ∀ made ∈ changes, made.named = id) :
    (without id (table.after changes).live).Perm (without id table.live) ∧
      ∃ lost, lost.length ≤ 1 ∧
        (without id table.parked).Perm (lost ++ without id (table.after changes).parked) := by
  by_cases own : id = table.owner
  · obtain ⟨live, parked⟩ := after_own sound (own ▸ named)
    rw [live, parked]
    exact ⟨List.Perm.refl _, [], Nat.zero_le _, List.Perm.refl _⟩
  rcases Nat.eq_zero_or_pos table.capacity with narrow | positive
  · have kept := (after_owner table changes).2.trans narrow
    obtain ⟨live, parked⟩ := no_contacts_of_narrow sound narrow
    obtain ⟨liveAfter, parkedAfter⟩ := no_contacts_of_narrow (after_sound sound changes) kept
    rw [live, parked, liveAfter, parkedAfter]
    exact ⟨List.Perm.refl _, [], Nat.zero_le _, List.Perm.refl _⟩
  rcases List.eq_nil_or_concat' changes with rfl | ⟨first, last, rfl⟩
  · exact ⟨List.Perm.refl _, [], Nat.zero_le _, List.Perm.refl _⟩
  · have revised := after_revised sound coarse own positive last named
    obtain ⟨lost, split, few, _⟩ := revised.dropped
    exact ⟨revised.others, lost, few, split⟩

/-- Both lists of a table have the same contacts as those of another. -/
def SameContacts (first last : Table) : Prop :=
  (∀ contact, contact ∈ last.live ↔ contact ∈ first.live) ∧
    ∀ contact, contact ∈ last.parked ↔ contact ∈ first.parked

theorem eq_of_named (sound : table.Sound) {first second : Contact}
    (held : first ∈ table.live ++ table.parked) (also : second ∈ table.live ++ table.parked)
    (same : first.id = second.id) : first = second :=
  List.inj_on_of_nodup_map (contacts_distinct sound) held also same

theorem not_both (sound : table.Sound) {known other : Contact} (live : known ∈ table.live)
    (parked : other ∈ table.parked) : known.id ≠ other.id := by
  have distinct := contacts_distinct sound
  rw [List.map_append, List.nodup_append] at distinct
  exact distinct.2.2 _ (List.mem_map_of_mem live) _ (List.mem_map_of_mem parked)

namespace Revised

variable {offered : Bool} {seat : Option Contact} {first last : Table}

/-- A table is the same after changes of one name exactly if the name had its seat before, and nobody
else was dropped for it. -/
theorem same_iff (sound : first.Sound) (revised : Revised id offered seat first last) :
    SameContacts first last ↔
      (∀ contact, contact.id = id →
        ((contact ∈ first.live ↔ first.Room id ∧ contact ∈ seat) ∧
          (contact ∈ first.parked ↔ ¬first.Room id ∧ contact ∈ seat))) ∧
        (offered = true → first.Room id ∨ first.Spare id) := by
  obtain ⟨lost, split, _, _, spared⟩ := revised.dropped
  rw [← spared]
  constructor
  · rintro ⟨live, parked⟩
    refine ⟨fun contact same => ⟨?_, ?_⟩, List.eq_nil_iff_forall_not_mem.mpr ?_⟩
    · rw [← live, revised.live contact same]
    · rw [← parked, revised.parked contact same]
    · intro contact gone
      obtain ⟨held, apart⟩ := (mem_without _ _ _).mp
        (split.mem_iff.mpr (List.mem_append_left _ gone))
      have stays := (mem_without id contact last.parked).mpr ⟨(parked contact).mpr held, apart⟩
      have distinct := contacts_distinct sound
      rw [List.map_append] at distinct
      have once := (split.map Contact.id).nodup_iff.mp
        ((List.nodup_append.mp distinct).2.1.sublist ((without_sublist id _).map Contact.id))
      rw [List.map_append, List.nodup_append] at once
      exact once.2.2 _ (List.mem_map_of_mem gone) _ (List.mem_map_of_mem stays) rfl
  · rintro ⟨seated, rfl⟩
    refine ⟨fun contact => ?_, fun contact => ?_⟩
    · by_cases same : contact.id = id
      · rw [revised.live contact same, (seated contact same).1]
      · have kept := revised.others.mem_iff (a := contact)
        simpa [mem_without, same] using kept
    · by_cases same : contact.id = id
      · rw [revised.parked contact same, (seated contact same).2]
      · have kept := split.mem_iff (a := contact)
        simpa [mem_without, same] using kept.symm

theorem same_iff_absent (sound : first.Sound) (revised : Revised id offered none first last) :
    SameContacts first last ↔
      (∀ known ∈ first.live ++ first.parked, known.id ≠ id) ∧
        (offered = true → first.Room id ∨ first.Spare id) := by
  rw [revised.same_iff sound]
  refine and_congr_left fun _ => ⟨?_, ?_⟩
  · intro seated known member same
    rcases List.mem_append.mp member with held | held
    · exact Option.not_mem_none _ ((seated known same).1.mp held).2
    · exact Option.not_mem_none _ ((seated known same).2.mp held).2
  · intro absent contact same
    simp only [Option.not_mem_none, and_false, iff_false]
    exact ⟨fun held => absent contact (List.mem_append_left _ held) same,
      fun held => absent contact (List.mem_append_right _ held) same⟩

theorem same_iff_held (sound : first.Sound) (coarse : first.Coarse) (stranger : id ≠ first.owner)
    {held : Contact} (revised : Revised id offered (some held) first last) :
    SameContacts first last ↔ held ∈ first.live ∨ ¬first.Room id ∧ held ∈ first.parked := by
  have named : held.id = id := revised.named held rfl
  obtain ⟨live, parked⟩ := cell_bounds sound coarse stranger
  have room : ∀ known ∈ first.live, known.id = id → first.Room id :=
    fun known among same => cellmates_lt same live among
  rw [revised.same_iff sound]
  constructor
  · rintro ⟨seated, _⟩
    by_cases fits : first.Room id
    · exact Or.inl ((seated held named).1.mpr ⟨fits, rfl⟩)
    · exact Or.inr ⟨fits, (seated held named).2.mpr ⟨fits, rfl⟩⟩
  · rintro (among | ⟨full, among⟩)
    · have fits := room held among named
      refine ⟨fun contact same => ⟨?_, ?_⟩, fun _ => Or.inl fits⟩
      · simp only [fits, true_and, Option.mem_some_iff]
        refine ⟨fun other => ?_, fun equal => equal ▸ among⟩
        exact eq_of_named sound (List.mem_append_left _ among) (List.mem_append_left _ other)
          (named.trans same.symm)
      · simp only [fits, not_true_eq_false, false_and, iff_false]
        exact fun other => not_both sound among other (named.trans same.symm)
    · refine ⟨fun contact same => ⟨?_, ?_⟩, fun _ => Or.inr (cellmates_lt named parked among)⟩
      · simp only [full, false_and, iff_false]
        exact fun other => full (room contact other same)
      · simp only [full, not_false_eq_true, true_and, Option.mem_some_iff]
        refine ⟨fun other => ?_, fun equal => equal ▸ among⟩
        exact eq_of_named sound (List.mem_append_right _ among) (List.mem_append_right _ other)
          (named.trans same.symm)

end Revised
end Table
end XorOverlay
