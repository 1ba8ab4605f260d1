import Mathlib
import XorOverlay.Proofs.Distance
import XorOverlay.Proofs.Routing.Freshness
import XorOverlay.Proofs.Routing.Parking

/-!
How far a table can grow. Every split takes one bit off the depth of the bucket that a contact is to be
placed in, so an addition splits no more often than an identifier has bits. And splits stop at cells:
there are 992 of them around an owner, no two buckets begin in the same one, and none has more live
contacts than a bucket has room for. All of this holds whatever identifiers are offered.
-/

namespace XorOverlay

set_option autoImplicit false

namespace Ident

/-- The leading bits of the distance to the owner, down to the depth of the cell. -/
def cellLead (owner id : Ident) : Nat :=
  id.distance owner / 2 ^ cellDepth owner id

/-- Cells by number: up to 31 of them have the same depth, and the leading bits tell those apart. -/
def cellNumber (owner id : Ident) : Nat :=
  31 * ((id.rank owner - 1) / 5) + (cellLead owner id - 1)

variable {owner a b : Ident}

theorem cell_lead_bounds (stranger : a ≠ owner) :
    0 < cellLead owner a ∧ cellLead owner a < 32 := by
  have apart := (rank_pos_iff a owner).mpr stranger
  have reach : ¬a.rank owner ≤ cellDepth owner a := by
    unfold cellDepth
    omega
  have bound : a.rank owner ≤ cellDepth owner a + 5 := by
    unfold cellDepth
    omega
  rw [rank_le_iff_distance] at reach bound
  constructor
  · exact Nat.div_pos (Nat.le_of_not_lt reach) (Nat.two_pow_pos _)
  · apply Nat.div_lt_of_lt_mul
    rw [pow_add] at bound
    exact bound

theorem cell_number_lt (stranger : a ≠ owner) : cellNumber owner a < 992 := by
  have lead := cell_lead_bounds stranger
  have bits := rank_le_bit_count a owner
  unfold bitCount at bits
  unfold cellNumber
  omega

/-- Identifiers that differ from a third in the same leading bits agree on them. -/
theorem same_block_of_distance {depth : Nat} {c : Ident}
    (same : a.distance c / 2 ^ depth = b.distance c / 2 ^ depth) : SameBlock depth a b := by
  intro place above
  have bit := (same_block_iff_div depth (a.offset c) (b.offset c)).mpr same place above
  simpa [offset, BitVec.getLsbD_xor] using bit

theorem same_cell_of_number (strange : a ≠ owner) (foreign : b ≠ owner)
    (same : cellNumber owner a = cellNumber owner b) : SameBlock (cellDepth owner a) a b := by
  have first := cell_lead_bounds strange
  have second := cell_lead_bounds foreign
  unfold cellNumber at same
  have depths : cellDepth owner a = cellDepth owner b := by
    unfold cellDepth
    omega
  have leads : cellLead owner a = cellLead owner b := by omega
  apply same_block_of_distance (c := owner)
  unfold cellLead at leads
  rw [← depths] at leads
  exact leads

end Ident

namespace Bucket

/-- How many splits a placement performs. -/
def splits (owner : Ident) (capacity : Nat) (now : Nanoseconds) (contact : Contact)
    (bucket : Bucket) : Nat :=
  if bucket.holds contact.id || decide (bucket.live.length < capacity) then 0
  else if _may : bucket.splittable owner then
    if contact.id.toNat ≤ bucket.midpoint then
      splits owner capacity now contact (bucket.split capacity now).1 + 1
    else splits owner capacity now contact (bucket.split capacity now).2 + 1
  else 0
termination_by bucket.upper - bucket.lower
decreasing_by
  · have wide := lower_lt_upper_of_splittable _may
    have range := split_range capacity now bucket
    rw [range.1, range.2.1]
    unfold midpoint
    omega
  · have wide := lower_lt_upper_of_splittable _may
    have range := split_range capacity now bucket
    rw [range.2.2.1, range.2.2.2]
    unfold midpoint
    omega

variable {owner : Ident} {capacity : Nat} {now : Nanoseconds} {contact : Contact}

/-- Every split makes one bucket two. -/
theorem place_length (bucket : Bucket) :
    (bucket.place owner capacity now contact).1.length =
      bucket.splits owner capacity now contact + 1 := by
  induction bucket using splits.induct owner capacity now contact with
  | case1 bucket room =>
      rw [place, if_pos room, splits, if_pos room]
      rfl
  | case2 bucket full may low ih =>
      rw [place, if_neg full, dif_pos may, if_pos low, splits, if_neg full, dif_pos may, if_pos low]
      rw [List.length_append, ih]
      rfl
  | case3 bucket full may high ih =>
      rw [place, if_neg full, dif_pos may, if_neg high, splits, if_neg full, dif_pos may,
        if_neg high]
      rw [List.length_cons, ih]
  | case4 bucket full rest =>
      rw [place, if_neg full, dif_neg rest, splits, if_neg full, dif_neg rest]
      rfl

/-- Every split takes one bit off the depth. -/
theorem splits_le_depth {bucket : Bucket} (aligned : bucket.Aligned) :
    bucket.splits owner capacity now contact ≤ bucket.depth := by
  induction bucket using splits.induct owner capacity now contact with
  | case1 bucket room =>
      rw [splits, if_pos room]
      exact Nat.zero_le _
  | case2 bucket full may low ih =>
      have deep := ((splittable_iff owner bucket).mp may).1
      have inner := ih (split_aligned capacity now aligned deep).1
      rw [lower_half_depth capacity now aligned deep] at inner
      rw [splits, if_neg full, dif_pos may, if_pos low]
      omega
  | case3 bucket full may high ih =>
      have deep := ((splittable_iff owner bucket).mp may).1
      have inner := ih (split_aligned capacity now aligned deep).2
      rw [upper_half_depth capacity now aligned deep] at inner
      rw [splits, if_neg full, dif_pos may, if_neg high]
      omega
  | case4 bucket full rest =>
      rw [splits, if_neg full, dif_neg rest]
      exact Nat.zero_le _

theorem depth_le_of_tiles {buckets : List Bucket} {lower depth : Nat}
    (tiled : Tiles lower buckets (2 ^ depth)) {bucket : Bucket} (member : bucket ∈ buckets)
    (aligned : bucket.Aligned) : bucket.depth ≤ depth := by
  have ends := aligned.2
  have below := tiles_upper tiled bucket member
  apply (Nat.pow_le_pow_iff_right (by decide : 1 < 2)).mp
  omega

theorem tiles_nodup {buckets : List Bucket} {lower upper : Nat}
    (tiled : Tiles lower buckets upper) : buckets.Nodup := by
  induction buckets generalizing lower with
  | nil => exact List.nodup_nil
  | cons first rest ih =>
      obtain ⟨_, ordered, after⟩ := tiled
      apply List.nodup_cons.mpr
      constructor
      · intro again
        have later := tiles_lower after first again
        omega
      · exact ih after

/-- The cell that a bucket begins in, or one more number for the bucket of the owner. -/
def number (owner : Ident) (bucket : Bucket) : Nat :=
  if bucket.covers owner = true then 992
  else Ident.cellNumber owner (Ident.between bucket.lower bucket.upper 0)

end Bucket

namespace Table

open Bucket

/-- How many splits an addition performs. -/
def splits (now : Nanoseconds) (contact : Contact) (table : Table) : Nat :=
  if contact.id = table.owner then 0
  else match owning? contact.id table.buckets with
    | some bucket => bucket.splits table.owner table.capacity now contact
    | none => 0

section Sound

variable {table : Table} (sound : table.Sound)
include sound

theorem add_splits (now : Nanoseconds) (contact : Contact) :
    table.splits now contact ≤ 160 ∧ (table.add now contact).1.buckets.length =
      table.buckets.length + table.splits now contact := by
  by_cases own : contact.id = table.owner
  · rw [splits, if_pos own, add, if_pos own]
    exact ⟨Nat.zero_le _, rfl⟩
  · obtain ⟨before, bucket, after, split, _, owned, replaced⟩ :=
      owning_split sound.tiled contact.id (Nat.zero_le _) contact.id.toNat_lt_total
    have member := mem_of_split split
    have aligned := (sound.sound bucket member).aligned
    rw [splits, if_neg own, owned]
    constructor
    · exact (splits_le_depth aligned).trans (depth_le_of_tiles sound.tiled member aligned)
    · rw [add, if_neg own, replaced]
      dsimp only
      rw [split, List.length_append, List.length_append, place_length, List.length_append,
        List.length_cons]
      omega

theorem number_eq {bucket : Bucket} (member : bucket ∈ table.buckets) :
    bucket.covers table.owner = true ∧ bucket.number table.owner = 992 ∨
      ∃ id, id ≠ table.owner ∧ bucket.covers id = true ∧
        bucket.number table.owner = Ident.cellNumber table.owner id ∧
        Ident.cellNumber table.owner id < 992 := by
  unfold number
  by_cases home : bucket.covers table.owner = true
  · exact Or.inl ⟨home, if_pos home⟩
  · have begins := covers_between sound member 0
    have stranger : Ident.between bucket.lower bucket.upper 0 ≠ table.owner := by
      intro own
      rw [own] at begins
      exact home begins
    exact Or.inr ⟨_, stranger, begins, if_neg home, Ident.cell_number_lt stranger⟩

theorem number_lt {bucket : Bucket} (member : bucket ∈ table.buckets) :
    bucket.number table.owner < 993 := by
  rcases number_eq sound member with ⟨_, home⟩ | ⟨_, _, _, away, less⟩
  · omega
  · omega

variable (coarse : table.Coarse)
include coarse

/-- No two buckets begin in the same cell. -/
theorem number_injective {first second : Bucket} (one : first ∈ table.buckets)
    (other : second ∈ table.buckets)
    (same : first.number table.owner = second.number table.owner) : first = second := by
  rcases number_eq sound one with ⟨home, last⟩ | ⟨a, strange, begins, away, less⟩
  · rcases number_eq sound other with ⟨also, _⟩ | ⟨b, _, _, apart, below⟩
    · exact covering_unique sound one other home also
    · omega
  · rcases number_eq sound other with ⟨_, last⟩ | ⟨b, foreign, starts, apart, _⟩
    · omega
    · -- The first covers all of the cell it begins in, and there the second begins too.
      rw [away, apart] at same
      have cell := Ident.same_cell_of_number strange foreign same
      have reached := (covers_iff_same_block (sound.sound first one).aligned begins b).mpr
        (Ident.same_block_mono (coarse first one a strange begins) cell)
      exact covering_unique sound one other reached starts

theorem buckets_bounded : table.buckets.length ≤ 993 := by
  have distinct : (table.buckets.map (number table.owner)).Nodup := by
    apply List.Nodup.map_on _ (tiles_nodup sound.tiled)
    intro first one second other same
    exact number_injective sound coarse one other same
  have among : table.buckets.map (number table.owner) ⊆ List.range 993 := by
    intro place member
    obtain ⟨bucket, held, rfl⟩ := List.mem_map.mp member
    exact List.mem_range.mpr (number_lt sound held)
  have fewer := (List.subperm_of_subset distinct among).length_le
  rw [List.length_map, List.length_range] at fewer
  exact fewer

omit coarse in
theorem live_foreign {contact : Contact} (held : contact ∈ table.live) :
    contact.id ≠ table.owner :=
  contacts_foreign sound contact (List.mem_append_left _ held)

/-- Every cell has as many live contacts as a bucket has room for, at most. -/
theorem live_of_number_bounded (cell : Nat) : (table.live.toFinset.filter fun contact =>
    Ident.cellNumber table.owner contact.id = cell).card ≤ table.capacity := by
  rcases Finset.eq_empty_or_nonempty (table.live.toFinset.filter fun contact =>
    Ident.cellNumber table.owner contact.id = cell) with none | ⟨known, member⟩
  · rw [none]
    exact Nat.zero_le _
  · obtain ⟨held, numbered⟩ := Finset.mem_filter.mp member
    have stranger := live_foreign sound (List.mem_toFinset.mp held)
    refine le_trans ?_ (cell_bounds sound coarse stranger).1
    refine le_trans (Finset.card_le_card ?_) (List.toFinset_card_le _)
    intro other also
    obtain ⟨inTable, likewise⟩ := Finset.mem_filter.mp also
    rw [List.mem_toFinset] at inTable ⊢
    apply List.mem_filter.mpr
    refine ⟨inTable, decide_eq_true ?_⟩
    exact Ident.same_cell_of_number stranger (live_foreign sound inTable)
      (numbered.trans likewise.symm)

theorem live_bounded : table.live.length ≤ 992 * table.capacity := by
  have distinct : table.live.Nodup := List.Nodup.of_map _ (live_distinct sound)
  have cells : ∀ contact ∈ table.live.toFinset,
      Ident.cellNumber table.owner contact.id ∈ Finset.range 992 := by
    intro contact held
    apply Finset.mem_range.mpr
    exact Ident.cell_number_lt (live_foreign sound (List.mem_toFinset.mp held))
  have counted := Finset.card_le_mul_card_image_of_maps_to cells table.capacity
    fun cell _ => live_of_number_bounded sound coarse cell
  rw [List.toFinset_card_of_nodup distinct, Finset.card_range, Nat.mul_comm] at counted
  exact counted

end Sound

/-- Whatever is added and removed, an addition performs at most 160 splits, each of which adds one
bucket, and a table never has more than 993 buckets, nor more live contacts than 992 of them hold. -/
theorem splits_and_size_bounded (owner : Ident) (capacity : Nat) (start : Nanoseconds)
    (changes : List Change) :
    let table := (Table.empty owner capacity start).after changes
    (∀ now contact, table.splits now contact ≤ 160 ∧
      (table.add now contact).1.buckets.length =
        table.buckets.length + table.splits now contact) ∧
      table.buckets.length ≤ 993 ∧ table.live.length ≤ 992 * capacity := by
  intro table
  have sound : table.Sound := after_sound (empty_sound owner capacity start) changes
  have coarse : table.Coarse :=
    after_coarse (empty_sound owner capacity start) (empty_coarse owner capacity start) changes
  have room : table.capacity = capacity := (after_owner (empty owner capacity start) changes).2
  refine ⟨fun now contact => add_splits sound now contact, buckets_bounded sound coarse, ?_⟩
  rw [← room]
  exact live_bounded sound coarse

/-- Where buckets have no room, the first addition next to the owner splits down to the last bit. -/
example : (Table.empty Ident.zero 0 0).splits 0 ⟨Ident.ofNat 1, default⟩ = 160 := by
  decide +kernel

end Table
end XorOverlay
