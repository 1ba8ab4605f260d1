import Mathlib
import XorOverlay.Proofs.Routing.Cells

/-!
Splits and the age of buckets. The halves of a bucket take its contacts in anew, which counts as
hearing from every one that becomes live again. A half thus keeps the instant of the bucket only if
none of the live contacts falls to it, and when one addition splits several times, no more than one
of the resulting buckets can still be as old as the bucket they came from.
-/

namespace XorOverlay

set_option autoImplicit false

namespace Bucket

/-- As old as `old` while nothing is live in the bucket, and heard from at `now` otherwise. -/
def Dated (old now : Nanoseconds) (bucket : Bucket) : Prop :=
  bucket.touched = if bucket.live = [] then old else now

theorem add_dated {old now : Nanoseconds} (capacity : Nat) (contact : Contact) {bucket : Bucket}
    (dated : bucket.Dated old now) : (bucket.add capacity now contact).1.Dated old now := by
  unfold Dated
  rcases add_cases capacity now contact bucket with
    ⟨_, added⟩ | ⟨_, _, added⟩ | ⟨_, _, queue, _, _, added⟩
  · rw [added, if_neg (List.append_ne_nil_of_right_ne_nil _ (List.cons_ne_nil _ _))]
  · rw [added, if_neg (List.append_ne_nil_of_right_ne_nil _ (List.cons_ne_nil _ _))]
  · rw [added]
    exact dated

theorem fill_dated {old now : Nanoseconds} (capacity : Nat) (dealt : List Contact)
    {bucket : Bucket} (dated : bucket.Dated old now) :
    (bucket.fill capacity now dealt).Dated old now := by
  unfold fill
  induction dealt generalizing bucket with
  | nil => exact dated
  | cons contact rest ih => exact ih (add_dated capacity contact dated)

theorem split_dated (capacity : Nat) (now : Nanoseconds) (bucket : Bucket) :
    (bucket.split capacity now).1.Dated bucket.touched now ∧
      (bucket.split capacity now).2.Dated bucket.touched now := by
  rw [split_eq_fill]
  exact ⟨fill_dated capacity _ rfl, fill_dated capacity _ rfl⟩

/-- The half of a bucket on the other side of the midpoint than a contact. -/
def farHalf (capacity : Nat) (now : Nanoseconds) (contact : Contact) (bucket : Bucket) : Bucket :=
  if contact.id.toNat ≤ bucket.midpoint then (bucket.split capacity now).2
  else (bucket.split capacity now).1

/-- A far half keeps the live contacts that the midpoint divides from the contact. -/
theorem far_half_live {owner : Ident} {capacity : Nat} (now : Nanoseconds) (contact : Contact)
    {bucket : Bucket} (sound : bucket.Sound owner capacity)
    (may : bucket.splittable owner = true) :
    (bucket.farHalf capacity now contact).live = bucket.live.filter fun known =>
      decide (known.id.toNat ≤ bucket.midpoint) != decide (contact.id.toNat ≤ bucket.midpoint) := by
  obtain ⟨⟨lower, upper⟩, _⟩ := split_live now sound may
  unfold farHalf
  by_cases low : contact.id.toNat ≤ bucket.midpoint
  · simp [low, upper]
  · simp [low, lower]

theorem far_half_dated (capacity : Nat) (now : Nanoseconds) (contact : Contact) (bucket : Bucket) :
    (bucket.farHalf capacity now contact).Dated bucket.touched now := by
  obtain ⟨lower, upper⟩ := split_dated capacity now bucket
  unfold farHalf
  split
  · exact upper
  · exact lower

/-- Placing comes to one addition, or to a split with the far half set aside. -/
theorem place_cases (owner : Ident) (capacity : Nat) (now : Nanoseconds) (contact : Contact)
    (bucket : Bucket) :
    (bucket.place owner capacity now contact).1 = [(bucket.add capacity now contact).1] ∨
      bucket.splittable owner = true ∧ capacity ≤ bucket.live.length ∧
        ∃ near inner, (near = (bucket.split capacity now).1 ∨ near = (bucket.split capacity now).2) ∧
          inner = (near.place owner capacity now contact).1 ∧
          ((bucket.place owner capacity now contact).1 =
              inner ++ [bucket.farHalf capacity now contact] ∨
            (bucket.place owner capacity now contact).1 =
              bucket.farHalf capacity now contact :: inner) := by
  rw [place]
  split
  · exact Or.inl rfl
  · rename_i full
    simp only [Bool.or_eq_true, decide_eq_true_eq, not_or, not_lt] at full
    split
    · rename_i may
      refine Or.inr ⟨may, full.2, ?_⟩
      unfold farHalf
      split
      · exact ⟨_, _, Or.inl rfl, rfl, Or.inl rfl⟩
      · exact ⟨_, _, Or.inr rfl, rfl, Or.inr rfl⟩
    · exact Or.inl rfl

theorem touched_of_full {old now : Nanoseconds} {capacity : Nat} {contact : Contact}
    {bucket : Bucket} (room : 0 < capacity) (dated : bucket.Dated old now)
    (full : (bucket.add capacity now contact).2 = false) : bucket.touched = now := by
  rw [add_answer, Bool.or_eq_false_iff, decide_eq_false_iff_not] at full
  have some : bucket.live ≠ [] := by
    intro none
    rw [none] at full
    exact full.2 room
  rw [dated, if_neg some]

/-- When buckets have room at all, one that was heard from now if it has live contacts is replaced
by buckets heard from now: a split needs as many live contacts as there is room for. -/
theorem place_touched {owner : Ident} {capacity : Nat} {now old : Nanoseconds} {contact : Contact}
    (room : 0 < capacity) {bucket : Bucket} (dated : bucket.Dated old now) :
    ∀ part ∈ (bucket.place owner capacity now contact).1, part.touched = now := by
  revert old
  refine place_induction (motive := fun bucket placed _ => ∀ {old : Nanoseconds},
    bucket.Dated old now → ∀ part ∈ placed, part.touched = now) ?_ ?_ ?_ bucket
  · intro bucket _ old dated part member
    rw [List.mem_singleton.mp member]
    rcases add_cases capacity now contact bucket with
      ⟨_, added⟩ | ⟨_, _, added⟩ | ⟨_, _, queue, _, _, added⟩
    · rw [added]
    · rw [added]
    · have kept := touched_of_full room dated (congrArg Prod.snd added)
      rw [added]
      exact kept
  · intro bucket placed live full _ _ ih old dated part member
    obtain ⟨lower, upper⟩ := split_dated capacity now bucket
    rcases List.mem_append.mp member with inner | other
    · exact ih lower part inner
    · rw [List.mem_singleton.mp other, upper, touched_of_full room dated full, ite_self]
  · intro bucket placed live full _ _ ih old dated part member
    obtain ⟨lower, upper⟩ := split_dated capacity now bucket
    rcases List.mem_cons.mp member with rfl | inner
    · rw [lower, touched_of_full room dated full, ite_self]
    · exact ih upper part inner

theorem live_nil_of_no_room {owner : Ident} {bucket : Bucket} (sound : bucket.Sound owner 0) :
    bucket.live = [] :=
  List.eq_nil_of_length_eq_zero (Nat.le_zero.mp sound.liveBound)

/-- Where buckets have no room, nothing is ever heard from. -/
theorem place_untouched {owner : Ident} {now : Nanoseconds} {contact : Contact} {bucket : Bucket}
    (sound : bucket.Sound owner 0) :
    ∀ part ∈ (bucket.place owner 0 now contact).1, part.touched = bucket.touched := by
  revert sound
  refine place_induction (motive := fun bucket placed _ => bucket.Sound owner 0 →
    ∀ part ∈ placed, part.touched = bucket.touched) ?_ ?_ ?_ bucket
  · intro bucket _ sound part member
    rw [List.mem_singleton.mp member]
    rcases add_cases 0 now contact bucket with
      ⟨held, _⟩ | ⟨_, room, _⟩ | ⟨_, _, queue, _, _, added⟩
    · rw [holds, live_nil_of_no_room sound] at held
      exact Bool.noConfusion held
    · exact absurd room (Nat.not_lt_zero _)
    · rw [added]
  · intro bucket placed live _ may _ ih sound part member
    obtain ⟨soundLower, soundUpper⟩ := split_sound now sound may
    obtain ⟨lower, upper⟩ := split_dated 0 now bucket
    rw [Dated, live_nil_of_no_room soundLower, if_pos rfl] at lower
    rw [Dated, live_nil_of_no_room soundUpper, if_pos rfl] at upper
    rcases List.mem_append.mp member with inner | other
    · exact (ih soundLower part inner).trans lower
    · rw [List.mem_singleton.mp other, upper]
  · intro bucket placed live _ may _ ih sound part member
    obtain ⟨soundLower, soundUpper⟩ := split_sound now sound may
    obtain ⟨lower, upper⟩ := split_dated 0 now bucket
    rw [Dated, live_nil_of_no_room soundLower, if_pos rfl] at lower
    rw [Dated, live_nil_of_no_room soundUpper, if_pos rfl] at upper
    rcases List.mem_cons.mp member with rfl | inner
    · exact lower
    · exact (ih soundUpper part inner).trans upper

/-- What becomes of the age of a bucket that an addition splits. -/
theorem placed_ages {owner : Ident} {capacity : Nat} (now : Nanoseconds) (contact : Contact)
    {bucket : Bucket} (sound : bucket.Sound owner capacity)
    (several : 1 < (bucket.place owner capacity now contact).1.length) :
    bucket.splittable owner = true ∧
      bucket.farHalf capacity now contact ∈ (bucket.place owner capacity now contact).1 ∧
      ∀ part ∈ (bucket.place owner capacity now contact).1, part.touched =
        if capacity = 0 ∨ part = bucket.farHalf capacity now contact ∧ part.live = [] then
          bucket.touched
        else now := by
  rcases place_cases owner capacity now contact bucket with
    whole | ⟨may, full, near, inner, half, innerEq, placed⟩
  · rw [whole] at several
    exact absurd several (lt_irrefl 1)
  · have far := far_half_dated capacity now contact bucket
    have members : ∀ part, part ∈ (bucket.place owner capacity now contact).1 ↔
        part ∈ inner ∨ part = bucket.farHalf capacity now contact := by
      intro part
      rcases placed with before | behind
      · rw [before, List.mem_append, List.mem_singleton]
      · rw [behind, List.mem_cons, or_comm]
    refine ⟨may, (members _).mpr (Or.inr rfl), ?_⟩
    intro part member
    rcases Nat.eq_zero_or_pos capacity with none | room
    · subst none
      rw [if_pos (Or.inl rfl)]
      exact place_untouched sound part member
    · by_cases same : part = bucket.farHalf capacity now contact
      · rw [same, far]
        simp only [true_and, Nat.ne_of_gt room, false_or]
      · rw [if_neg]
        · rcases (members part).mp member with within | other
          · have dated : ∃ old, near.Dated old now := by
              obtain ⟨lower, upper⟩ := split_dated capacity now bucket
              rcases half with rfl | rfl
              · exact ⟨_, lower⟩
              · exact ⟨_, upper⟩
            obtain ⟨old, dated⟩ := dated
            rw [innerEq] at within
            exact place_touched room dated part within
          · exact absurd other same
        · rintro (none | ⟨other, _⟩)
          · exact Nat.ne_of_gt room none
          · exact same other

theorem stale_iff (interval now : Nanoseconds) (bucket : Bucket) :
    bucket.stale interval now = true ↔ interval ≤ now - bucket.touched :=
  decide_eq_true_iff

end Bucket

namespace Ident

theorem toNat_between {lower upper : Nat} (ordered : lower ≤ upper) (below : upper < total)
    (draw : Nat) : lower ≤ (between lower upper draw).toNat ∧
      (between lower upper draw).toNat ≤ upper := by
  have part : draw % (upper - lower + 1) < upper - lower + 1 := Nat.mod_lt _ (Nat.succ_pos _)
  have fits : lower + draw % (upper - lower + 1) < 2 ^ 160 := by
    have count : total = 2 ^ 160 := rfl
    omega
  have spelt : (between lower upper draw).toNat = lower + draw % (upper - lower + 1) := by
    rw [between, ofNat, toNat, BitVec.toNat_ofNat, Nat.mod_eq_of_lt fits]
  omega

end Ident

namespace Table

open Bucket

/-- No identifier is in the ranges of two buckets. -/
theorem covering_unique {table : Table} (sound : table.Sound) {first second : Bucket}
    (one : first ∈ table.buckets) (other : second ∈ table.buckets) {id : Ident}
    (inFirst : first.covers id = true) (inSecond : second.covers id = true) : first = second := by
  have tiled := sound.tiled
  obtain ⟨before, after, split⟩ := List.append_of_mem one
  rw [split] at tiled other
  by_contra apart
  have elsewhere : second ∈ before ∨ second ∈ after := by
    rcases List.mem_append.mp other with early | late
    · exact Or.inl early
    · rcases List.mem_cons.mp late with same | later
      · exact absurd same.symm apart
      · exact Or.inr later
  exact tiles_apart tiled second elsewhere id inSecond inFirst

theorem covers_between {table : Table} (sound : table.Sound) {bucket : Bucket}
    (member : bucket ∈ table.buckets) (draw : Nat) :
    bucket.covers (Ident.between bucket.lower bucket.upper draw) = true := by
  have aligned := (sound.sound bucket member).aligned
  have positive : 0 < 2 ^ bucket.depth := Nat.two_pow_pos bucket.depth
  have ends := aligned.2
  rw [covers_iff]
  exact Ident.toNat_between (by omega) (tiles_upper sound.tiled bucket member) draw

/-- A bucket is asked for by a refresh exactly if it is stale. -/
theorem has_target_iff {table : Table} (sound : table.Sound) (interval now : Nanoseconds)
    (draw : Nat → Nat) {bucket : Bucket} (member : bucket ∈ table.buckets) :
    (∃ target ∈ table.refreshTargets interval now draw, bucket.covers target = true) ↔
      bucket.stale interval now = true := by
  unfold refreshTargets
  constructor
  · rintro ⟨target, listed, covered⟩
    obtain ⟨⟨stale, place⟩, entry, rfl⟩ := List.mem_map.mp listed
    have among := List.mem_filter.mp (List.fst_mem_of_mem_zipIdx entry)
    have same := covering_unique sound among.1 member (covers_between sound among.1 _) covered
    rw [← same]
    exact among.2
  · intro stale
    obtain ⟨place, bound, found⟩ :=
      List.getElem_of_mem (List.mem_filter.mpr ⟨member, stale⟩)
    refine ⟨_, List.mem_map.mpr ⟨(bucket, place), ?_, rfl⟩, covers_between sound member _⟩
    rw [List.mk_mem_zipIdx_iff_getElem?, List.getElem?_eq_getElem bound, found]

/-- In any table a node can come to have, splitting a bucket leaves each half the bucket's instant
only if no contact becomes live in it; every other half counts as heard from now. When an addition
splits a stale bucket of a table whose buckets have room, one bucket at most is stale among those
that replace it, and is the only one to be refreshed: the half of the first split on the other side
of the new contact, and that only if it has no live contacts. -/
theorem split_rejuvenates_occupied_halves (owner : Ident) (capacity : Nat) (start : Nanoseconds)
    (changes : List Change) (now interval : Nanoseconds) (contact : Contact) (draw : Nat → Nat)
    (stranger : contact.id ≠ owner) (period : 0 < interval) :
    let table := (Table.empty owner capacity start).after changes
    let grown := (table.add now contact).1
    (∀ bucket ∈ table.buckets, ∀ half, half = (bucket.split capacity now).1 ∨
        half = (bucket.split capacity now).2 →
      half.touched = if half.live = [] then bucket.touched else now) ∧
      ∃ before bucket after placed, table.buckets = before ++ bucket :: after ∧
        bucket.covers contact.id = true ∧ grown.buckets = before ++ placed ++ after ∧
        (1 < placed.length → bucket.stale interval now = true →
          let far := bucket.farHalf capacity now contact
          far ∈ placed ∧
            (far.live = bucket.live.filter fun known => decide (known.id.toNat ≤ bucket.midpoint) !=
              decide (contact.id.toNat ≤ bucket.midpoint)) ∧
            ∀ part ∈ placed,
              (part.stale interval now = true ↔
                capacity = 0 ∨ part = far ∧ part.live = []) ∧
              ((∃ target ∈ grown.refreshTargets interval now draw, part.covers target = true) ↔
                capacity = 0 ∨ part = far ∧ part.live = [])) := by
  intro table grown
  have sound : table.Sound := after_sound (empty_sound owner capacity start) changes
  have kept := after_owner (Table.empty owner capacity start) changes
  have sameOwner : table.owner = owner := kept.1
  have sameCapacity : table.capacity = capacity := kept.2
  constructor
  · intro bucket _ half side
    obtain ⟨lower, upper⟩ := split_dated capacity now bucket
    rcases side with rfl | rfl
    · exact lower
    · exact upper
  · rw [← sameOwner] at stranger
    obtain ⟨before, bucket, after, split, covered, placed⟩ := add_places sound now stranger
    have soundBucket := sound.sound bucket (mem_of_split split)
    rw [sameOwner, sameCapacity] at placed soundBucket
    have buckets : grown.buckets =
        before ++ (bucket.place owner capacity now contact).1 ++ after :=
      congrArg (fun answer => answer.1.buckets) placed
    refine ⟨before, bucket, after, _, split, covered, buckets, ?_⟩
    intro several old far
    obtain ⟨may, present, ages⟩ := placed_ages now contact soundBucket several
    have stale : ∀ part ∈ (bucket.place owner capacity now contact).1,
        (part.stale interval now = true ↔ capacity = 0 ∨ part = far ∧ part.live = []) := by
      intro part member
      rw [stale_iff] at old ⊢
      rw [ages part member]
      split
      · rename_i aged
        exact iff_of_true old aged
      · rename_i fresh
        apply iff_of_false _ fresh
        rw [Nat.sub_self]
        exact Nat.not_le.mpr period
    refine ⟨present, far_half_live now contact soundBucket may, ?_⟩
    intro part member
    have among : part ∈ grown.buckets := by
      rw [buckets]
      exact List.mem_append_left _ (List.mem_append_right _ member)
    refine ⟨stale part member, ?_⟩
    rw [has_target_iff (add_sound sound now contact) interval now draw among]
    exact stale part member

/-- A contact beside the owner and another one beside it split the one bucket all the way down. The
upper half of the first split has nothing in it, is as old as the whole was, and is refreshed. -/
theorem vacant_half_still_refreshed :
    let table := (Table.empty Ident.zero 1 0).after [.add 0 ⟨Ident.ofNat 1, none⟩]
    let newcomer : Contact := ⟨Ident.ofNat 2, none⟩
    newcomer.id ≠ Ident.zero ∧
      ∃ part ∈ (table.add 10 newcomer).1.buckets,
        part.lower = 2 ^ 159 ∧ part.stale 5 10 = true := by
  intro table newcomer
  have stranger : newcomer.id ≠ Ident.zero := by decide
  obtain ⟨_, before, bucket, after, placed, split, _, buckets, ages⟩ :=
    split_rejuvenates_occupied_halves Ident.zero 1 0 [.add 0 ⟨Ident.ofNat 1, none⟩] 10 5 newcomer id
      stranger (by decide)
  have whole : table.buckets = [⟨0, Ident.total - 1, [⟨Ident.ofNat 1, none⟩], [], 0⟩] := by
    decide +kernel
  obtain ⟨rfl, rest⟩ | ⟨_, never⟩ := List.singleton_eq_append_iff.mp (whole.symm.trans split)
  · obtain ⟨rfl, rfl⟩ := List.cons.inj rest
    rw [List.nil_append, List.append_nil] at buckets
    have several : 1 < placed.length := by
      rw [← buckets]
      decide +kernel
    obtain ⟨present, _, parts⟩ := ages several (by decide +kernel)
    refine ⟨stranger, _, buckets ▸ present, by decide +kernel, (parts _ present).1.mpr ?_⟩
    exact Or.inr ⟨rfl, by decide +kernel⟩
  · exact absurd never (List.cons_ne_nil _ _)

/-- A table of buckets for one contact each, with a single contact, in the upper half. -/
def lonely : Table :=
  (Table.empty Ident.zero 1 0).after [.add 0 ⟨Ident.ofNat (2 ^ 159), none⟩]

/-- A contact near the owner splits the one bucket. Its old contact was silent for all the interval,
and yet no bucket is left to be refreshed. -/
theorem silent_half_not_refreshed :
    let table := lonely
    let newcomer : Contact := ⟨Ident.ofNat 1, none⟩
    let grown := (table.add 10 newcomer).1
    (∃ bucket ∈ table.buckets, bucket.stale 5 10 = true ∧ bucket.touched = 0 ∧
        (bucket.split 1 10).2.touched = 10) ∧
      grown.buckets.length = 2 ∧
      (∃ part ∈ grown.buckets, part.holds newcomer.id = false ∧ part.stale 5 10 = false) ∧
      grown.refreshTargets 5 10 id = [] := by
  decide +kernel

end Table
end XorOverlay
