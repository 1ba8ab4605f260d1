import Mathlib
import XorOverlay.Node.State
import XorOverlay.Proofs.Routing.Nearest

/-!
The closest contacts and the ranking of all. Keeping the closest few while the contacts of a table
go by, whatever bucket they come from, finds the beginning of the full list sorted by distance.
Distances to one target differ between live contacts, so the ranking is strict and there is no
other. A node answers with that beginning whenever it has room to gather so many contacts.
-/

namespace XorOverlay

set_option autoImplicit false

/-- Contacts sorted by their distance to a target. -/
def nearestFirst (target : Ident) (contacts : List Contact) : List Contact :=
  contacts.mergeSort fun a b => decide (a.id.distance target ≤ b.id.distance target)

theorem nearest_first_perm (target : Ident) (contacts : List Contact) :
    (nearestFirst target contacts).Perm contacts :=
  List.mergeSort_perm _ _

theorem nearest_first_ascending (target : Ident) {contacts : List Contact}
    (distinct : (contacts.map Contact.id).Nodup) :
    Ascending target (nearestFirst target contacts) := by
  have sorted : (nearestFirst target contacts).Pairwise fun a b =>
      decide (a.id.distance target ≤ b.id.distance target) = true := by
    apply List.pairwise_mergeSort
    · intro a b c first second
      exact decide_eq_true ((of_decide_eq_true first).trans (of_decide_eq_true second))
    · intro a b
      rw [Bool.or_eq_true, decide_eq_true_eq, decide_eq_true_eq]
      exact le_total _ _
  have apart := ((nearest_first_perm target contacts).map Contact.id).nodup_iff.mpr distinct
  refine List.Pairwise.imp₂ ?_ sorted (List.pairwise_map.mp apart)
  intro a b ordered differ
  exact lt_of_le_of_ne (of_decide_eq_true ordered) fun same => differ (Ident.distance_injective same)

namespace Table

/-- All live contacts that a search may answer with, sorted by their distance to the target. -/
def ranking (target : Ident) (excluded : Option Ident) (table : Table) : List Contact :=
  nearestFirst target (table.live.filter fun contact =>
    contact.id != target && some contact.id != excluded)

theorem ranking_perm (target : Ident) (excluded : Option Ident) (table : Table) :
    (table.ranking target excluded).Perm (table.live.filter fun contact =>
      contact.id != target && some contact.id != excluded) :=
  nearest_first_perm _ _

theorem ranking_ascending {table : Table} (sound : table.Sound) (target : Ident)
    (excluded : Option Ident) : Ascending target (table.ranking target excluded) :=
  nearest_first_ascending target ((live_distinct sound).sublist (List.filter_sublist.map Contact.id))

theorem closest_eq_take_ranking {table : Table} (sound : table.Sound) (target : Ident)
    (count : Nat) (excluded : Option Ident) :
    table.closest target count excluded = (table.ranking target excluded).take count := by
  obtain ⟨all, perm, ascending, closest⟩ := closest_ascending sound target count excluded
  have same : all = table.ranking target excluded :=
    ascending.perm_eq (ranking_ascending sound target excluded)
      (perm.trans (ranking_perm target excluded table).symm)
  rw [closest, same]

/-- In any table a node can come to have, the closest contacts of any number are the first of the
ranking, which has every live contact but the target and the excluded one once, in strictly
ascending distance. A node with that table finds exactly these for itself and for a requester,
unless it has no room to gather so many: then it does not come back with any, and has no offer. -/
theorem closest_begins_ranking (owner : Ident) (capacity : Nat) (start : Nanoseconds)
    (changes : List Change) (target : Ident) :
    let table := (Table.empty owner capacity start).after changes
    (∀ excluded,
      (table.ranking target excluded).Perm (table.live.filter fun contact =>
        contact.id != target && some contact.id != excluded) ∧
      (table.ranking target excluded).Pairwise
        (fun a b => a.id.distance target < b.id.distance target) ∧
      ∀ count, table.closest target count excluded = (table.ranking target excluded).take count) ∧
    ∀ bare : Node,
      let node := { bare with table := table }
      (∀ count, node.neighbours? target count =
          (if node.canGather count then some ((table.ranking target none).take count) else none) ∧
        node.neighbours target count =
          if node.canGather count then (table.ranking target none).take count else []) ∧
      ∀ requester, node.offered? target requester =
        if node.canGather node.width then
          some ((table.ranking target (some requester)).take node.width)
        else none := by
  intro table
  have sound : table.Sound := after_sound (empty_sound owner capacity start) changes
  constructor
  · intro excluded
    exact ⟨ranking_perm target excluded table, ranking_ascending sound target excluded,
      fun count => closest_eq_take_ranking sound target count excluded⟩
  · intro bare node
    constructor
    · intro count
      rw [Node.neighbours_eq, Node.neighbours?, closest_eq_take_ranking sound]
      exact ⟨rfl, rfl⟩
    · intro requester
      rw [Node.offered?, closest_eq_take_ranking sound]

end Table

namespace Node

/-- A node whose buckets are of the largest power of two for which there is no room, with one
contact. -/
def overwide : Node :=
  let fresh := Node.start { Settings.default with
    width := 2 ^ 61, room := some Settings.addressableRoom } Ident.zero (.v4 0 1)
      (.expiring (Expiring.empty 1)) 0
  { fresh with table := fresh.table.after [.add 0 ⟨Ident.ofNat 1, some (.v4 0 2)⟩] }

/-- The one contact is all of the ranking, but is neither found nor offered. -/
theorem overwide_offers_none :
    (overwide.table.ranking (Ident.ofNat 3) (some (Ident.ofNat 2))).take overwide.width =
        [⟨Ident.ofNat 1, some (.v4 0 2)⟩] ∧
      overwide.neighbours? (Ident.ofNat 3) overwide.width = none ∧
      overwide.offered? (Ident.ofNat 3) (Ident.ofNat 2) = none := by
  have sound : overwide.table.Sound := Table.after_sound (Table.empty_sound _ _ _) _
  refine ⟨?_, by decide +kernel, by decide +kernel⟩
  rw [← Table.closest_eq_take_ranking sound]
  decide +kernel

end Node
end XorOverlay
