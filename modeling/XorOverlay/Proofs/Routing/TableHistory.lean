import Mathlib
import XorOverlay.Proofs.Routing.Placement

/-!
Tables over their history. A table is what a list of additions and removals makes of a fresh one.
Every change rewrites the one bucket responsible for its identifier, and leaves behind buckets that
still tile the identifier space and are sound.
-/

namespace XorOverlay

set_option autoImplicit false

namespace Bucket

theorem tiles_lower {buckets : List Bucket} {lower upper : Nat}
    (tiled : Tiles lower buckets upper) : ∀ bucket ∈ buckets, lower ≤ bucket.lower := by
  induction buckets generalizing lower with
  | nil =>
      intro bucket member
      exact (List.not_mem_nil member).elim
  | cons first rest ih =>
      obtain ⟨begins, ordered, after⟩ := tiled
      intro bucket member
      rcases List.mem_cons.mp member with rfl | inner
      · exact Nat.le_of_eq begins.symm
      · have later := ih after bucket inner
        omega

theorem tiles_upper {buckets : List Bucket} {lower upper : Nat}
    (tiled : Tiles lower buckets upper) : ∀ bucket ∈ buckets, bucket.upper < upper := by
  induction buckets generalizing lower with
  | nil =>
      intro bucket member
      exact (List.not_mem_nil member).elim
  | cons first rest ih =>
      obtain ⟨begins, ordered, after⟩ := tiled
      intro bucket member
      rcases List.mem_cons.mp member with rfl | inner
      · exact tiles_le after
      · exact ih after bucket inner

theorem tiles_replace {before after placed : List Bucket} {bucket : Bucket} {lower upper : Nat}
    (tiled : Tiles lower (before ++ bucket :: after) upper)
    (inner : Tiles bucket.lower placed (bucket.upper + 1)) :
    Tiles lower (before ++ placed ++ after) upper := by
  obtain ⟨border, first, begins, _, second⟩ := (tiles_append _ _ _ _).mp tiled
  rw [List.append_assoc, tiles_append]
  refine ⟨border, first, (tiles_append _ _ _ _).mpr ⟨bucket.upper + 1, ?_, second⟩⟩
  rw [← begins]
  exact inner

/-- Buckets that tile a range and hold contacts of their own ranges share no identifier. -/
theorem tiles_distinct {buckets : List Bucket} {lower upper : Nat}
    (tiled : Tiles lower buckets upper)
    (covered : ∀ bucket ∈ buckets, ∀ contact ∈ bucket.contacts, bucket.covers contact.id = true)
    (distinct : ∀ bucket ∈ buckets, (bucket.contacts.map Contact.id).Nodup) :
    ((buckets.flatMap contacts).map Contact.id).Nodup := by
  induction buckets generalizing lower with
  | nil => exact List.nodup_nil
  | cons first rest ih =>
      obtain ⟨begins, ordered, after⟩ := tiled
      have tail := ih after (fun bucket member => covered bucket (List.mem_cons_of_mem _ member))
        (fun bucket member => distinct bucket (List.mem_cons_of_mem _ member))
      rw [List.flatMap_cons, List.map_append, List.nodup_append]
      refine ⟨distinct first List.mem_cons_self, tail, ?_⟩
      intro id inFirst other inRest same
      obtain ⟨contact, held, rfl⟩ := List.mem_map.mp inFirst
      obtain ⟨later, among, rfl⟩ := List.mem_map.mp inRest
      obtain ⟨bucket, member, inBucket⟩ := List.mem_flatMap.mp among
      have low := (covers_iff _ _).mp (covered first List.mem_cons_self contact held)
      have high := (covers_iff _ _).mp
        (covered bucket (List.mem_cons_of_mem _ member) later inBucket)
      have apart := tiles_lower after bucket member
      rw [same] at low
      omega

end Bucket

namespace Table

open Bucket

/-- The bucket responsible for an identifier is the one that covers it. -/
theorem owning_split {buckets : List Bucket} {lower upper : Nat}
    (tiled : Tiles lower buckets upper) (id : Ident) (above : lower ≤ id.toNat)
    (below : id.toNat < upper) :
    ∃ before bucket after, buckets = before ++ bucket :: after ∧ bucket.covers id = true ∧
      owning? id buckets = some bucket ∧
      ∀ {α : Type} (change : Bucket → List Bucket × α) (missing : α),
        replaceOwning id change missing buckets =
          (before ++ (change bucket).1 ++ after, (change bucket).2) := by
  induction buckets generalizing lower with
  | nil =>
      have same : lower = upper := tiled
      omega
  | cons first rest ih =>
      obtain ⟨begins, ordered, after⟩ := tiled
      by_cases here : id.toNat ≤ first.upper
      · refine ⟨[], first, rest, rfl, (covers_iff _ _).mpr ⟨by omega, here⟩, ?_, ?_⟩
        · cases rest with
          | nil => rfl
          | cons next others => exact if_pos here
        · intro α change missing
          cases rest with
          | nil => exact Prod.ext (List.append_nil _).symm rfl
          | cons next others => exact if_pos here
      · obtain ⟨before, bucket, later, split, covered, owned, replaced⟩ := ih after (by omega)
        have filled : before ++ bucket :: later ≠ [] :=
          List.append_ne_nil_of_right_ne_nil _ (List.cons_ne_nil _ _)
        refine ⟨first :: before, bucket, later, ?_, covered, ?_, ?_⟩
        · rw [split]
          rfl
        · cases rest with
          | nil => exact (filled split.symm).elim
          | cons next others =>
              rw [owning?, if_neg here]
              exact owned
        · intro α change missing
          cases rest with
          | nil => exact (filled split.symm).elim
          | cons next others =>
              rw [replaceOwning, if_neg here, replaced change missing]
              rfl

structure Sound (table : Table) : Prop where
  tiled : Tiles 0 table.buckets Ident.total
  sound : ∀ bucket ∈ table.buckets, bucket.Sound table.owner table.capacity

theorem empty_sound (owner : Ident) (capacity : Nat) (start : Nanoseconds) :
    (Table.empty owner capacity start).Sound := by
  constructor
  · refine ⟨rfl, Nat.zero_le _, ?_⟩
    show Ident.total - 1 + 1 = Ident.total
    exact Nat.sub_add_cancel (Nat.two_pow_pos 160)
  · intro bucket member
    rw [List.mem_singleton.mp member]
    exact Bucket.empty_sound owner capacity start

/-- Adding a contact places it in the bucket that covers it. -/
theorem add_places {table : Table} (sound : table.Sound) (now : Nanoseconds) {contact : Contact}
    (stranger : contact.id ≠ table.owner) :
    ∃ before bucket after, table.buckets = before ++ bucket :: after ∧
      bucket.covers contact.id = true ∧
      table.add now contact =
        ({ table with
            buckets := before ++ (bucket.place table.owner table.capacity now contact).1 ++ after },
          (bucket.place table.owner table.capacity now contact).2) := by
  obtain ⟨before, bucket, after, split, covered, _, replaced⟩ :=
    owning_split sound.tiled contact.id (Nat.zero_le _) contact.id.toNat_lt_total
  refine ⟨before, bucket, after, split, covered, ?_⟩
  rw [add, if_neg stranger, replaced]

/-- Removing an identifier touches the bucket that covers it alone. -/
theorem remove_rewrites {table : Table} (sound : table.Sound) (id : Ident) :
    ∃ before bucket after, table.buckets = before ++ bucket :: after ∧
      bucket.covers id = true ∧
      table.remove id =
        ({ table with buckets := before ++ [bucket.remove id] ++ after }, bucket.find? id) := by
  obtain ⟨before, bucket, after, split, covered, _, replaced⟩ :=
    owning_split sound.tiled id (Nat.zero_le _) id.toNat_lt_total
  refine ⟨before, bucket, after, split, covered, ?_⟩
  rw [remove, replaced]

/-- The buckets of a rewritten table are old ones, or among those put in the place of one. -/
theorem forall_replaced {table : Table} {before after placed : List Bucket} {bucket : Bucket}
    {inv : Bucket → Prop} (split : table.buckets = before ++ bucket :: after)
    (old : ∀ part ∈ table.buckets, inv part) (new : ∀ part ∈ placed, inv part) :
    ∀ part ∈ before ++ placed ++ after, inv part := by
  rw [split] at old
  intro part member
  rcases List.mem_append.mp member with early | late
  · rcases List.mem_append.mp early with first | inner
    · exact old part (List.mem_append_left _ first)
    · exact new part inner
  · exact old part (List.mem_append_right _ (List.mem_cons_of_mem _ late))

theorem sound_of_replaced {table : Table} (sound : table.Sound) {before after placed : List Bucket}
    {bucket : Bucket} (split : table.buckets = before ++ bucket :: after)
    (tiled : Tiles bucket.lower placed (bucket.upper + 1))
    (parts : ∀ part ∈ placed, part.Sound table.owner table.capacity) :
    Sound { table with buckets := before ++ placed ++ after } := by
  have whole := sound.tiled
  rw [split] at whole
  exact ⟨tiles_replace whole tiled, forall_replaced split sound.sound parts⟩

theorem mem_of_split {table : Table} {before after : List Bucket} {bucket : Bucket}
    (split : table.buckets = before ++ bucket :: after) : bucket ∈ table.buckets := by
  rw [split]
  exact List.mem_append_right _ List.mem_cons_self

theorem add_sound {table : Table} (sound : table.Sound) (now : Nanoseconds) (contact : Contact) :
    (table.add now contact).1.Sound := by
  by_cases self : contact.id = table.owner
  · rw [add, if_pos self]
    exact sound
  · obtain ⟨before, bucket, after, split, covered, placed⟩ := add_places sound now self
    have held := sound.sound bucket (mem_of_split split)
    obtain ⟨tiled, parts⟩ := place_tiles now held covered self
    rw [placed]
    exact sound_of_replaced sound split tiled parts

theorem remove_sound {table : Table} (sound : table.Sound) (id : Ident) :
    (table.remove id).1.Sound := by
  obtain ⟨before, bucket, after, split, _, rewritten⟩ := remove_rewrites sound id
  have held := Bucket.remove_sound id (sound.sound bucket (mem_of_split split))
  have tiled : Tiles bucket.lower [bucket.remove id] (bucket.upper + 1) :=
    tiles_singleton held.aligned
  rw [rewritten]
  apply sound_of_replaced sound split tiled
  intro part member
  rw [List.mem_singleton.mp member]
  exact held

/-- A change of a table: a contact was heard from, or an identifier failed to answer. -/
inductive Change where
  | add (now : Nanoseconds) (contact : Contact)
  | remove (id : Ident)

def change (table : Table) : Change → Table
  | .add now contact => (table.add now contact).1
  | .remove id => (table.remove id).1

/-- The table after changes, made one after another. -/
def after (changes : List Change) (table : Table) : Table :=
  changes.foldl change table

/-- What every change keeps holds after any changes. -/
theorem after_keeps {motive : Table → Prop}
    (keeps : ∀ table made, motive table → motive (change table made)) {table : Table}
    (start : motive table) (changes : List Change) : motive (table.after changes) := by
  unfold after
  induction changes generalizing table with
  | nil => exact start
  | cons made rest ih => exact ih (keeps table made start)

theorem add_owner (now : Nanoseconds) (contact : Contact) (table : Table) :
    (table.add now contact).1.owner = table.owner ∧
      (table.add now contact).1.capacity = table.capacity := by
  unfold add
  split
  · exact ⟨rfl, rfl⟩
  · exact ⟨rfl, rfl⟩

theorem change_owner (table : Table) (made : Change) :
    (table.change made).owner = table.owner ∧ (table.change made).capacity = table.capacity := by
  cases made with
  | add now contact => exact add_owner now contact table
  | remove id => exact ⟨rfl, rfl⟩

theorem change_sound {table : Table} (sound : table.Sound) (made : Change) :
    (table.change made).Sound := by
  cases made with
  | add now contact => exact add_sound sound now contact
  | remove id => exact remove_sound sound id

theorem after_sound {table : Table} (sound : table.Sound) (changes : List Change) :
    (table.after changes).Sound :=
  after_keeps (motive := Sound) (fun _ made held => change_sound held made) sound changes

theorem after_owner (table : Table) (changes : List Change) :
    (table.after changes).owner = table.owner ∧
      (table.after changes).capacity = table.capacity := by
  refine after_keeps (motive := fun later => later.owner = table.owner ∧
    later.capacity = table.capacity) ?_ ⟨rfl, rfl⟩ changes
  rintro later made ⟨owner, capacity⟩
  obtain ⟨sameOwner, sameCapacity⟩ := change_owner later made
  exact ⟨sameOwner.trans owner, sameCapacity.trans capacity⟩

theorem contacts_perm (table : Table) :
    (table.live ++ table.parked).Perm (table.buckets.flatMap contacts) :=
  List.flatMap_append_perm table.buckets Bucket.live Bucket.parked

theorem contacts_distinct {table : Table} (sound : table.Sound) :
    ((table.live ++ table.parked).map Contact.id).Nodup := by
  apply ((contacts_perm table).map Contact.id).nodup_iff.mpr
  exact tiles_distinct sound.tiled (fun bucket member => (sound.sound bucket member).covered)
    (fun bucket member => (sound.sound bucket member).distinct)

theorem live_distinct {table : Table} (sound : table.Sound) :
    (table.live.map Contact.id).Nodup := by
  have distinct := contacts_distinct sound
  rw [List.map_append, List.nodup_append] at distinct
  exact distinct.1

theorem contacts_foreign {table : Table} (sound : table.Sound) :
    ∀ contact ∈ table.live ++ table.parked, contact.id ≠ table.owner := by
  intro contact member
  obtain ⟨bucket, among, held⟩ :=
    List.mem_flatMap.mp ((contacts_perm table).mem_iff.mp member)
  exact (sound.sound bucket among).foreign contact held

end Table
end XorOverlay
