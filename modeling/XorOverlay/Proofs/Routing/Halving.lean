import Mathlib
import XorOverlay.Proofs.Routing.Nearest

/-!
Places found by halving. In a list in which every entry is closer to the target than those behind it,
the entries closer than a further one come first. So the place of the further one is found by looking
again and again at the middle of where it may be, and putting it there is sorted insertion. This takes
the order for granted: in a list that is out of order the middle says nothing about either half.
-/

namespace XorOverlay.Ranked

set_option autoImplicit false

/-- The place of an entry from `low` to `high`: behind the middle if whatever is there is closer. -/
def placeWithin (entry : Ranked) (entries : List Ranked) (low high : Nat) : Nat :=
  if low < high then
    let middle := (low + high) / 2
    if entries[middle]?.any fun known => known.closer entry then
      placeWithin entry entries (middle + 1) high
    else placeWithin entry entries low middle
  else low
termination_by high - low
decreasing_by all_goals omega

/-- The place of an entry among others, found by halving. -/
def place (entry : Ranked) (entries : List Ranked) : Nat :=
  placeWithin entry entries 0 entries.length

variable {entry : Ranked} {entries : List Ranked}

/-- The entries in front of a place are closer than `entry`, and none from there on is. -/
structure Parts (entry : Ranked) (entries : List Ranked) (place : Nat) : Prop where
  inside : place ≤ entries.length
  near : ∀ index known, entries[index]? = some known → index < place → known.closer entry = true
  far : ∀ index known, entries[index]? = some known → place ≤ index → known.closer entry = false

theorem ordered_around {target : Ident} {contacts : List Contact}
    (ascending : Ascending target contacts) :
    (contacts.map (around target)).Pairwise fun a b => a.closer b = true :=
  List.pairwise_map.mpr (ascending.imp (closer_around target _ _).mpr)

theorem closer_trans {a b c : Ranked} (first : a.closer b = true) (second : b.closer c = true) :
    a.closer c = true := by
  rw [closer_iff] at first second ⊢
  omega

/-- Whatever is in front of a closer entry is closer itself. -/
theorem closer_of_behind (ordered : entries.Pairwise fun a b => a.closer b = true)
    {index later : Nat} {known last : Ranked} (listed : entries[index]? = some known)
    (listedToo : entries[later]? = some last) (before : index ≤ later)
    (near : last.closer entry = true) : known.closer entry = true := by
  rcases before.eq_or_lt with rfl | less
  · obtain rfl : known = last := Option.some.inj (listed.symm.trans listedToo)
    exact near
  · obtain ⟨inside, rfl⟩ := List.getElem?_eq_some_iff.mp listed
    obtain ⟨insideToo, rfl⟩ := List.getElem?_eq_some_iff.mp listedToo
    exact closer_trans (List.pairwise_iff_getElem.mp ordered index later inside insideToo less) near

/-- If everything in front of `low` is closer and nothing from `high` on is, halving ends at the place
that parts the entries. -/
theorem place_within_parts (ordered : entries.Pairwise fun a b => a.closer b = true)
    {low high : Nat} (bounds : low ≤ high) (inside : high ≤ entries.length)
    (near : ∀ index known, entries[index]? = some known → index < low → known.closer entry = true)
    (far : ∀ index known, entries[index]? = some known → high ≤ index →
      known.closer entry = false) :
    Parts entry entries (placeWithin entry entries low high) := by
  have filled : ∀ index, index < high → ∃ known, entries[index]? = some known :=
    fun index below => ⟨_, List.getElem?_eq_getElem (below.trans_le inside)⟩
  fun_induction placeWithin entry entries low high with
  | case1 low high apart middle closer ih =>
      obtain ⟨last, central⟩ := filled middle (by omega)
      -- The middle is closer, and with it all that is in front of it.
      rw [central] at closer
      refine ih (by omega) inside ?_ far filled
      intro index known listed before
      exact closer_of_behind ordered listed central (by omega) closer
  | case2 low high apart middle farther ih =>
      obtain ⟨first, central⟩ := filled middle (by omega)
      -- The middle is not closer, so nothing behind it can be.
      rw [central] at farther
      refine ih (by omega) (by omega) near ?_ fun index below => filled index (by omega)
      intro index known listed behind
      rw [Bool.eq_false_iff]
      exact fun closer => farther (closer_of_behind ordered central listed behind closer)
  | case3 low high met =>
      obtain rfl : low = high := by omega
      exact ⟨inside, near, far⟩

theorem place_parts (ordered : entries.Pairwise fun a b => a.closer b = true) :
    Parts entry entries (place entry entries) := by
  refine place_within_parts ordered (Nat.zero_le _) le_rfl nofun ?_
  intro index known listed beyond
  rw [List.getElem?_eq_none beyond] at listed
  cases listed

/-- Sorted insertion puts the entry at the place that parts the list. -/
theorem insert_of_parts {place : Nat} (parts : Parts entry entries place) :
    entries.insertIdx place entry = insert entry entries := by
  induction entries generalizing place with
  | nil =>
      obtain rfl : place = 0 := Nat.le_zero.mp parts.inside
      rfl
  | cons first rest ih =>
      cases place with
      | zero =>
          rw [insert, parts.far 0 first rfl le_rfl]
          rfl
      | succ place =>
          have behind : Parts entry rest place := by
            refine ⟨Nat.le_of_succ_le_succ parts.inside, ?_, ?_⟩
            · intro index known listed before
              exact parts.near (index + 1) known listed (Nat.succ_lt_succ before)
            · intro index known listed beyond
              exact parts.far (index + 1) known listed (Nat.succ_le_succ beyond)
          rw [insert, parts.near 0 first rfl (Nat.succ_pos _), if_pos rfl,
            List.insertIdx_succ_cons, ih behind]

theorem insertIdx_place (ordered : entries.Pairwise fun a b => a.closer b = true) :
    entries.insertIdx (place entry entries) entry = insert entry entries :=
  insert_of_parts (place_parts ordered)

end XorOverlay.Ranked
