import Mathlib
import XorOverlay.Proofs.Routing.TableHistory

/-!
The table as a refinement of a fixed partition. Around an owner every other identifier has a cell:
the block of the deepest multiple of 5 that does not reach the owner. Buckets are split late and
according to how full they are, but never below a cell, and a bucket past splitting is a cell; so
whether a contact is taken in depends on its cell alone.
-/

namespace XorOverlay

set_option autoImplicit false

/-- The depth of the cell of an identifier: the last multiple of 5 not above the highest bit on
which it differs from the owner. -/
def Ident.cellDepth (owner id : Ident) : Nat :=
  5 * ((id.rank owner - 1) / 5)

def Contact.inCell (owner id : Ident) (contact : Contact) : Bool :=
  decide (Ident.SameBlock (Ident.cellDepth owner id) id contact.id)

namespace Bucket

/-- No cell reaches beyond the bucket. -/
def Coarse (owner : Ident) (bucket : Bucket) : Prop :=
  ∀ id, id ≠ owner → bucket.covers id = true → Ident.cellDepth owner id ≤ bucket.depth

theorem coarse_congr {owner : Ident} {first second : Bucket} (lower : first.lower = second.lower)
    (upper : first.upper = second.upper) (coarse : second.Coarse owner) : first.Coarse owner := by
  intro id stranger covered
  rw [covers_congr lower upper] at covered
  rw [depth_congr lower upper]
  exact coarse id stranger covered

theorem empty_coarse (owner : Ident) (now : Nanoseconds) :
    (empty 0 (Ident.total - 1) now).Coarse owner := by
  intro id _ _
  have bound := Ident.rank_le_bit_count id owner
  have aligned := whole_aligned now
  have deep : (empty 0 (Ident.total - 1) now).depth = 160 := by
    have ends := aligned.2
    apply depth_of_width
    show Ident.total - 1 + 1 = 0 + 2 ^ 160
    have count : Ident.total = 2 ^ 160 := rfl
    have positive : 0 < 2 ^ 160 := Nat.two_pow_pos 160
    omega
  rw [deep]
  unfold Ident.cellDepth
  unfold Ident.bitCount at bound
  omega

/-- A cell lies below the depth of every bucket that may be split. -/
theorem cell_lt_of_splittable {owner : Ident} {bucket : Bucket} (aligned : bucket.Aligned)
    (coarse : bucket.Coarse owner) (may : bucket.splittable owner = true) {id : Ident}
    (stranger : id ≠ owner) (covered : bucket.covers id = true) :
    Ident.cellDepth owner id < bucket.depth := by
  have within := coarse id stranger covered
  have apart := (Ident.rank_pos_iff id owner).mpr stranger
  rcases ((splittable_iff owner bucket).mp may).2 with home | uneven
  · rw [covers_owner_iff aligned covered] at home
    unfold Ident.cellDepth at within ⊢
    omega
  · unfold Ident.cellDepth at within ⊢
    omega

/-- A bucket past splitting is the cell of everything in it but the owner. -/
theorem cell_eq_of_rest {owner : Ident} {bucket : Bucket} (aligned : bucket.Aligned)
    (coarse : bucket.Coarse owner) (rest : ¬bucket.splittable owner = true) {id : Ident}
    (stranger : id ≠ owner) (covered : bucket.covers id = true) :
    Ident.cellDepth owner id = bucket.depth := by
  have within := coarse id stranger covered
  rw [splittable_iff, covers_owner_iff aligned covered] at rest
  unfold Ident.cellDepth at within ⊢
  omega

theorem split_coarse {owner : Ident} (capacity : Nat) (now : Nanoseconds) {bucket : Bucket}
    (aligned : bucket.Aligned) (coarse : bucket.Coarse owner)
    (may : bucket.splittable owner = true) :
    (bucket.split capacity now).1.Coarse owner ∧ (bucket.split capacity now).2.Coarse owner := by
  have deep := ((splittable_iff owner bucket).mp may).1
  have range := split_range capacity now bucket
  have width := split_width aligned deep
  have positive : 0 < 2 ^ (bucket.depth - 1) := Nat.two_pow_pos _
  constructor
  · intro id stranger covered
    rw [covers_iff, range.1, range.2.1] at covered
    have below := cell_lt_of_splittable aligned coarse may stranger
      ((covers_iff _ _).mpr (by omega))
    rw [lower_half_depth capacity now aligned deep]
    omega
  · intro id stranger covered
    rw [covers_iff, range.2.2.1, range.2.2.2] at covered
    have below := cell_lt_of_splittable aligned coarse may stranger
      ((covers_iff _ _).mpr (by omega))
    rw [upper_half_depth capacity now aligned deep]
    omega

theorem covers_of_cell {owner : Ident} {bucket : Bucket} (aligned : bucket.Aligned)
    (coarse : bucket.Coarse owner) {id : Ident} (stranger : id ≠ owner)
    (covered : bucket.covers id = true) {contact : Contact}
    (member : contact.inCell owner id = true) : bucket.covers contact.id = true := by
  rw [covers_iff_same_block aligned covered]
  exact Ident.same_block_mono (coarse id stranger covered) (of_decide_eq_true member)

/-- What takes the place of a bucket cuts no cell either. -/
theorem place_coarse {owner : Ident} {capacity : Nat} (now : Nanoseconds) (contact : Contact)
    {bucket : Bucket} (sound : bucket.Sound owner capacity) (coarse : bucket.Coarse owner) :
    ∀ part ∈ (bucket.place owner capacity now contact).1, part.Coarse owner := by
  revert sound coarse
  refine place_induction (motive := fun bucket placed _ => bucket.Sound owner capacity →
    bucket.Coarse owner → ∀ part ∈ placed, part.Coarse owner) ?_ ?_ ?_ bucket
  · intro bucket _ _ coarse part member
    obtain ⟨lower, upper⟩ := add_range capacity now contact bucket
    rw [List.mem_singleton.mp member]
    exact coarse_congr lower upper coarse
  · intro bucket placed _ _ may _ ih sound coarse part member
    obtain ⟨coarseLower, coarseUpper⟩ := split_coarse capacity now sound.aligned coarse may
    rcases List.mem_append.mp member with inner | outer
    · exact ih (split_sound now sound may).1 coarseLower part inner
    · rw [List.mem_singleton.mp outer]
      exact coarseUpper
  · intro bucket placed _ _ may _ ih sound coarse part member
    obtain ⟨coarseLower, coarseUpper⟩ := split_coarse capacity now sound.aligned coarse may
    rcases List.mem_cons.mp member with rfl | inner
    · exact coarseLower
    · exact ih (split_sound now sound may).2 coarseUpper part inner

/-- The half on the side of a contact holds all of its cell. -/
theorem half_cell {owner : Ident} {bucket half : Bucket} {side : Contact → Bool}
    (aligned : half.Aligned) (coarse : half.Coarse owner)
    (taken : half.live = bucket.live.filter side)
    (reached : ∀ known ∈ bucket.live, half.covers known.id = true → side known = true)
    {contact : Contact} (stranger : contact.id ≠ owner)
    (inside : half.covers contact.id = true) :
    half.live.filter (Contact.inCell owner contact.id) =
      bucket.live.filter (Contact.inCell owner contact.id) := by
  rw [taken, List.filter_filter]
  apply List.filter_congr
  intro known member
  by_cases cell : known.inCell owner contact.id = true
  · rw [cell, reached known member (covers_of_cell aligned coarse stranger inside cell)]
    rfl
  · rw [Bool.eq_false_iff.mpr cell, Bool.false_and]

theorem half_answer {owner : Ident} {capacity : Nat} {now : Nanoseconds} {contact : Contact}
    {bucket half : Bucket} {answer : Bool} (full : (bucket.add capacity now contact).2 = false)
    (kept : half.live ⊆ bucket.live)
    (cell : half.live.filter (Contact.inCell owner contact.id) =
      bucket.live.filter (Contact.inCell owner contact.id))
    (inner : answer = true ↔ half.holds contact.id = true ∨
      (half.live.filter (Contact.inCell owner contact.id)).length < capacity) :
    answer = true ↔ bucket.holds contact.id = true ∨
      (bucket.live.filter (Contact.inCell owner contact.id)).length < capacity := by
  rw [add_answer, Bool.or_eq_false_iff] at full
  have absent : ¬half.holds contact.id = true := by
    intro held
    obtain ⟨known, member, same⟩ := (holds_iff _ _).mp held
    have outer := (holds_iff contact.id bucket).mpr ⟨known, kept member, same⟩
    rw [full.1] at outer
    exact Bool.noConfusion outer
  rw [inner, cell]
  simp only [absent, full.1, Bool.false_eq_true, false_or]

theorem place_answer {owner : Ident} {capacity : Nat} (now : Nanoseconds) {contact : Contact}
    {bucket : Bucket} (sound : bucket.Sound owner capacity) (coarse : bucket.Coarse owner)
    (inside : bucket.covers contact.id = true) (stranger : contact.id ≠ owner) :
    (bucket.place owner capacity now contact).2 = true ↔
      bucket.holds contact.id = true ∨
        (bucket.live.filter (Contact.inCell owner contact.id)).length < capacity := by
  revert sound coarse inside
  refine place_induction (motive := fun bucket _ answer => bucket.Sound owner capacity →
    bucket.Coarse owner → bucket.covers contact.id = true →
      (answer = true ↔ bucket.holds contact.id = true ∨
        (bucket.live.filter (Contact.inCell owner contact.id)).length < capacity))
    ?_ ?_ ?_ bucket
  · intro bucket final sound coarse inside
    have part := List.length_filter_le (Contact.inCell owner contact.id) bucket.live
    rw [add_answer, Bool.or_eq_true, decide_eq_true_eq]
    constructor
    · rintro (held | room)
      · exact Or.inl held
      · exact Or.inr (by omega)
    · rintro (held | room)
      · exact Or.inl held
      · rcases final with live | rest
        · rw [add_answer, Bool.or_eq_true, decide_eq_true_eq] at live
          exact live
        · -- Past splitting the bucket is the cell, so a cell with room is a bucket with room.
          right
          have whole : bucket.live.filter (Contact.inCell owner contact.id) = bucket.live := by
            apply List.filter_eq_self.mpr
            intro known member
            apply decide_eq_true
            rw [cell_eq_of_rest sound.aligned coarse rest stranger inside,
              ← covers_iff_same_block sound.aligned inside]
            exact sound.covered known (List.mem_append_left _ member)
          rw [whole] at room
          exact room
  · intro bucket placed answer full may low ih sound coarse inside
    obtain ⟨⟨taken, _⟩, _⟩ := split_live now sound may
    have soundHalf := (split_sound now sound may).1
    have coarseHalf := (split_coarse capacity now sound.aligned coarse may).1
    have insideHalf := (split_covers capacity now inside).1.mpr low
    apply half_answer full _ _ (ih soundHalf coarseHalf insideHalf)
    · rw [taken]
      exact List.filter_sublist.subset
    · apply half_cell soundHalf.aligned coarseHalf taken _ stranger insideHalf
      intro known member reached
      have covered := sound.covered known (List.mem_append_left _ member)
      exact decide_eq_true ((split_covers capacity now covered).1.mp reached)
  · intro bucket placed answer full may high ih sound coarse inside
    obtain ⟨⟨_, taken⟩, _⟩ := split_live now sound may
    have soundHalf := (split_sound now sound may).2
    have coarseHalf := (split_coarse capacity now sound.aligned coarse may).2
    have insideHalf := (split_covers capacity now inside).2.mpr high
    apply half_answer full _ _ (ih soundHalf coarseHalf insideHalf)
    · rw [taken]
      exact List.filter_sublist.subset
    · apply half_cell soundHalf.aligned coarseHalf taken _ stranger insideHalf
      intro known member reached
      have covered := sound.covered known (List.mem_append_left _ member)
      have above := (split_covers capacity now covered).2.mp reached
      rw [decide_eq_false above]
      rfl

theorem tiles_apart {before after : List Bucket} {bucket : Bucket} {lower upper : Nat}
    (tiled : Tiles lower (before ++ bucket :: after) upper) :
    ∀ other, other ∈ before ∨ other ∈ after → ∀ id, other.covers id = true →
      ¬bucket.covers id = true := by
  obtain ⟨border, first, begins, ordered, second⟩ := (tiles_append _ _ _ _).mp tiled
  intro other member id reached covered
  rw [covers_iff] at reached covered
  rcases member with early | late
  · have ends := tiles_upper first other early
    omega
  · have above := tiles_lower second other late
    omega

end Bucket

namespace Table

open Bucket

def Coarse (table : Table) : Prop :=
  ∀ bucket ∈ table.buckets, bucket.Coarse table.owner

theorem empty_coarse (owner : Ident) (capacity : Nat) (start : Nanoseconds) :
    (Table.empty owner capacity start).Coarse := by
  intro bucket member
  rw [List.mem_singleton.mp member]
  exact Bucket.empty_coarse owner start

section Lists

variable {table : Table} {before after : List Bucket} {bucket : Bucket}
  {list : Bucket → List Contact}

theorem list_of_split (split : table.buckets = before ++ bucket :: after)
    (list : Bucket → List Contact) : table.buckets.flatMap list =
      before.flatMap list ++ (list bucket ++ after.flatMap list) := by
  rw [split, List.flatMap_append, List.flatMap_cons]

theorem live_of_split (split : table.buckets = before ++ bucket :: after) :
    table.live = before.flatMap Bucket.live ++ (bucket.live ++ after.flatMap Bucket.live) :=
  list_of_split split Bucket.live

theorem live_within (bucket : Bucket) : bucket.live ⊆ bucket.contacts :=
  List.subset_append_left _ _

theorem parked_within (bucket : Bucket) : bucket.parked ⊆ bucket.contacts :=
  List.subset_append_right _ _

theorem mem_beside (split : table.buckets = before ++ bucket :: after) {other : Bucket}
    (beside : other ∈ before ∨ other ∈ after) : other ∈ table.buckets := by
  rw [split]
  rcases beside with early | late
  · exact List.mem_append_left _ early
  · exact List.mem_append_right _ (List.mem_cons_of_mem _ late)

/-- No other bucket holds an identifier in the range of one. -/
theorem absent_beside (sound : table.Sound) (split : table.buckets = before ++ bucket :: after)
    {other : Bucket} (beside : other ∈ before ∨ other ∈ after) {id : Ident}
    (covered : bucket.covers id = true) : ∀ contact ∈ other.contacts, contact.id ≠ id := by
  have tiled := sound.tiled
  rw [split] at tiled
  rintro contact held rfl
  have reached := (sound.sound other (mem_beside split beside)).covered contact held
  exact tiles_apart tiled other beside contact.id reached covered

variable (sound : table.Sound) (split : table.buckets = before ++ bucket :: after)
  (within : ∀ part : Bucket, list part ⊆ part.contacts)
include sound split within

/-- Contacts in the range of a bucket are in that bucket, if anywhere. -/
theorem elsewhere {contact : Contact}
    (elsewhere : contact ∈ before.flatMap list ∨ contact ∈ after.flatMap list) :
    ¬bucket.covers contact.id = true := by
  intro covered
  rcases elsewhere with early | late
  · obtain ⟨other, member, held⟩ := List.mem_flatMap.mp early
    exact absent_beside sound split (Or.inl member) covered contact (within other held) rfl
  · obtain ⟨other, member, held⟩ := List.mem_flatMap.mp late
    exact absent_beside sound split (Or.inr member) covered contact (within other held) rfl

theorem without_elsewhere {id : Ident} (covered : bucket.covers id = true) :
    without id (before.flatMap list) = before.flatMap list ∧
      without id (after.flatMap list) = after.flatMap list := by
  constructor
  · apply without_eq_self
    intro known member same
    exact elsewhere sound split within (Or.inl member) (same ▸ covered)
  · apply without_eq_self
    intro known member same
    exact elsewhere sound split within (Or.inr member) (same ▸ covered)

/-- A choice of contacts that lie in the range of one bucket is made in that bucket. -/
theorem filter_list {chosen : Contact → Bool}
    (inside : ∀ contact, chosen contact = true → bucket.covers contact.id = true) :
    (table.buckets.flatMap list).filter chosen = (list bucket).filter chosen := by
  have early : (before.flatMap list).filter chosen = [] := by
    apply List.filter_eq_nil_iff.mpr
    intro contact member taken
    exact elsewhere sound split within (Or.inl member) (inside contact taken)
  have late : (after.flatMap list).filter chosen = [] := by
    apply List.filter_eq_nil_iff.mpr
    intro contact member taken
    exact elsewhere sound split within (Or.inr member) (inside contact taken)
  rw [list_of_split split, List.filter_append, List.filter_append, early, late, List.nil_append,
    List.append_nil]

omit within

theorem filter_live {chosen : Contact → Bool}
    (inside : ∀ contact, chosen contact = true → bucket.covers contact.id = true) :
    table.live.filter chosen = bucket.live.filter chosen :=
  filter_list sound split live_within inside

end Lists

theorem live_iff_holds {table : Table} (sound : table.Sound) {before after : List Bucket}
    {bucket : Bucket} (split : table.buckets = before ++ bucket :: after) {id : Ident}
    (covered : bucket.covers id = true) :
    (∃ known ∈ table.live, known.id = id) ↔ bucket.holds id = true := by
  rw [holds_iff]
  constructor
  · rintro ⟨known, member, rfl⟩
    have chosen : known ∈ table.live.filter fun contact => bucket.covers contact.id :=
      List.mem_filter.mpr ⟨member, covered⟩
    rw [filter_live sound split (fun _ inside => inside)] at chosen
    exact ⟨known, (List.mem_filter.mp chosen).1, rfl⟩
  · rintro ⟨known, member, same⟩
    refine ⟨known, ?_, same⟩
    rw [live_of_split split]
    exact List.mem_append_right _ (List.mem_append_left _ member)

theorem add_coarse {table : Table} (sound : table.Sound) (coarse : table.Coarse)
    (now : Nanoseconds) (contact : Contact) : (table.add now contact).1.Coarse := by
  by_cases self : contact.id = table.owner
  · rw [add, if_pos self]
    exact coarse
  · obtain ⟨before, bucket, after, split, _, placed⟩ := add_places sound now self
    have member := mem_of_split split
    rw [placed]
    exact forall_replaced split coarse
      (place_coarse now contact (sound.sound bucket member) (coarse bucket member))

theorem remove_coarse {table : Table} (sound : table.Sound) (coarse : table.Coarse) (id : Ident) :
    (table.remove id).1.Coarse := by
  obtain ⟨before, bucket, after, split, _, rewritten⟩ := remove_rewrites sound id
  rw [rewritten]
  apply forall_replaced split coarse
  intro part inner
  rw [List.mem_singleton.mp inner]
  exact coarse_congr rfl rfl (coarse bucket (mem_of_split split))

theorem after_coarse {table : Table} (sound : table.Sound) (coarse : table.Coarse)
    (changes : List Change) : (table.after changes).Coarse := by
  -- Only in a sound table do additions and removals go to the bucket that covers the identifier.
  refine (after_keeps (motive := fun later => later.Sound ∧ later.Coarse) ?_ ⟨sound, coarse⟩
    changes).2
  rintro later made ⟨held, whole⟩
  refine ⟨change_sound held made, ?_⟩
  cases made with
  | add now contact => exact add_coarse held whole now contact
  | remove id => exact remove_coarse held whole id

/-- A contact is taken in exactly if it is live already or its cell has room. -/
theorem add_answer {table : Table} (sound : table.Sound) (coarse : table.Coarse)
    (now : Nanoseconds) {contact : Contact} (stranger : contact.id ≠ table.owner) :
    (table.add now contact).2 = true ↔
      (∃ known ∈ table.live, known.id = contact.id) ∨
        (table.live.filter (Contact.inCell table.owner contact.id)).length < table.capacity := by
  obtain ⟨before, bucket, after, split, covered, placed⟩ := add_places sound now stranger
  have member := mem_of_split split
  have held := sound.sound bucket member
  have whole := coarse bucket member
  rw [placed, place_answer now held whole covered stranger, live_iff_holds sound split covered,
    filter_live sound split fun _ => covers_of_cell held.aligned whole stranger covered]

theorem add_live {table : Table} (sound : table.Sound) (now : Nanoseconds) {contact : Contact}
    (stranger : contact.id ≠ table.owner) :
    (table.add now contact).1.live.Perm
      (if (table.add now contact).2 = true then
        without contact.id table.live ++ [contact]
      else table.live) := by
  obtain ⟨before, bucket, after, split, covered, placed⟩ := add_places sound now stranger
  have inner := place_live now contact (sound.sound bucket (mem_of_split split))
  obtain ⟨early, late⟩ := without_elsewhere sound split live_within covered
  rw [placed, live_of_split split]
  unfold live
  dsimp only
  rw [List.flatMap_append, List.flatMap_append, List.append_assoc, without_append, without_append,
    early, late]
  split_ifs with answer
  · rw [if_pos answer] at inner
    refine ((inner.append_right _).append_left _).trans ?_
    rw [List.append_assoc, List.append_assoc, List.append_assoc]
    exact (List.perm_append_comm.append_left _).append_left _
  · rw [if_neg answer] at inner
    exact (inner.append_right _).append_left _

/-- For every table a node can come to have: a contact other than the owner becomes or stays live
exactly if it is live already or fewer than `capacity` live contacts share its cell. It then is the
one contact gained, and otherwise nothing changes among the live contacts. -/
theorem add_refines_cells (owner : Ident) (capacity : Nat) (start : Nanoseconds)
    (changes : List Change) (now : Nanoseconds) (contact : Contact)
    (stranger : contact.id ≠ owner) :
    let table := (Table.empty owner capacity start).after changes
    ((table.add now contact).2 = true ↔
        (∃ known ∈ table.live, known.id = contact.id) ∨
          (table.live.filter (Contact.inCell owner contact.id)).length < capacity) ∧
      ((table.add now contact).2 = true →
        (table.add now contact).1.live.Perm (without contact.id table.live ++ [contact])) ∧
      ((table.add now contact).2 = false → (table.add now contact).1.live.Perm table.live) := by
  intro table
  have sound : table.Sound := after_sound (empty_sound owner capacity start) changes
  have coarse : table.Coarse := after_coarse (empty_sound owner capacity start)
    (empty_coarse owner capacity start) changes
  have kept := after_owner (Table.empty owner capacity start) changes
  have sameOwner : table.owner = owner := kept.1
  have sameCapacity : table.capacity = capacity := kept.2
  rw [← sameOwner] at stranger
  have answer := add_answer sound coarse now stranger
  have live := add_live sound now stranger
  rw [sameOwner, sameCapacity] at answer
  refine ⟨answer, ?_, ?_⟩
  · intro gained
    rw [if_pos gained] at live
    exact live
  · intro parked
    rw [if_neg (Bool.eq_false_iff.mp parked)] at live
    exact live

/-- In buckets of one, a newcomer at the far end is parked because its cell is taken, although the
table was split all the way down to the owner for the two contacts next to it. -/
theorem add_parks_in_taken_cell :
    let near := [⟨Ident.ofNat 1, none⟩, ⟨Ident.ofNat 2, none⟩, ⟨Ident.ofNat (2 ^ 159), none⟩]
    let table := (Table.empty Ident.zero 1 0).after (near.map (Change.add 0))
    let newcomer : Contact := ⟨Ident.ofNat (2 ^ 159 + 1), none⟩
    newcomer.id ≠ Ident.zero ∧ (table.add 1 newcomer).2 = false ∧
      (table.add 1 newcomer).1.live.Perm near := by
  intro near table newcomer
  have stranger : newcomer.id ≠ Ident.zero := by decide
  have refined := add_refines_cells Ident.zero 1 0 (near.map (Change.add 0)) 1 newcomer stranger
  have parked : (table.add 1 newcomer).2 = false := by decide +kernel
  have before : table.live = near := by decide +kernel
  have after := refined.2.2 parked
  rw [before] at after
  exact ⟨stranger, parked, after⟩

end Table
end XorOverlay
