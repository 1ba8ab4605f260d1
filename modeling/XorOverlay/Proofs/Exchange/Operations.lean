import Mathlib
import XorOverlay.Proofs.Exchange.Calling
import XorOverlay.Proofs.Node.Upkeep

/-!
Operations of honest nodes. Whatever a node of an honest cluster does for its user, and whatever
errand it runs, only goes to nodes of the cluster and leaves the cluster honest.
-/

namespace XorOverlay

set_option autoImplicit false

theorem Query.short_of_fits {query : Query} (fits : query.Fits Octets.Short) : query.Short := by
  cases query with
  | ping => trivial
  | store key value => exact fits
  | findNode target => trivial
  | findValue key => exact fits

namespace Scene

variable {line : Nat} {roster : List Contact} {scene : Scene Cluster}

theorem neighbours_listed {node : Node} (sane : node.Sane roster) (target : Ident) (count : Nat) :
    ∀ contact ∈ node.neighbours target count, contact ∈ roster ∧ contact.id ≠ node.id := by
  intro contact near
  rw [Node.neighbours_eq, Node.can_gather sane, if_pos rfl] at near
  have live := (Table.mem_closest near).1
  refine ⟨sane.known contact (Table.holds_of_live live), ?_⟩
  rw [← sane.owner]
  exact Table.contacts_foreign sane.table contact (List.mem_append_left _ live)

theorem read_own_eq (honest : scene.Honest line roster) (key : Ident) :
    scene.readOwn key = ((scene.node.store.get 0 key.octets).1, scene) := by
  have clock : scene.clock = 0 := honest.whole.still
  have same := Store.get_unchanged (sane_acting honest).store key.octets
  unfold readOwn mapNode
  rw [clock]
  simp only [same]
  rw [← clock]

/-- Among honest nodes the nodes of the cluster are known, and whoever answers a ping is one of
them under the name it gives. -/
theorem honest_upkeep (line : Nat) (roster : List Contact) :
    Upkeep (Cluster.carrier line) (Honest line roster) (fun contact => contact ∈ roster)
      (fun _ => True) Octets.Short where
  call := by
    intro scene dest query honest met fits
    obtain ⟨after, good⟩ := call_keeps honest (met.imp_right And.right) (Query.short_of_fits fits)
    refine ⟨after, fun reply called => ?_⟩
    obtain ⟨short, inRoster, heard⟩ := good reply called
    refine ⟨inRoster, ?_, ?_⟩
    · rintro value rfl
      exact short
    · rintro id rfl
      cases lives : dest.endpoint with
      | none =>
          unfold Scene.call at called
          rw [lives] at called
          cases called
      | some endpoint => exact heard endpoint lives
  near := fun _ target count honest contact near =>
    (neighbours_listed (sane_acting honest) target count contact near).1
  read := by
    intro scene key honest
    rw [read_own_eq honest]
    exact honest
  keep := fun _ now _ _ honest shortKey shortValue =>
    honest_map honest _ rfl (Node.keep_sane (sane_acting honest) now shortKey shortValue)
  report := fun _ now latency success honest =>
    honest_map honest _ rfl (Node.report_sane (sane_acting honest) now latency success)
  cull := fun _ now honest => honest_map honest _ rfl (Node.cull_sane (sane_acting honest) now)
  repair := by
    intro scene peer key value honest met shortKey shortValue
    have sane := sane_acting honest
    refine honest_map honest
      (fun node => { node with errands := node.errands ++ [⟨peer, key, value⟩] }) rfl
      (Node.errands_sane sane ?_)
    intro errand due
    rcases List.mem_append.mp due with old | new
    · exact sane.errands errand old
    · rw [List.mem_singleton.mp new]
      exact ⟨met, shortKey, shortValue⟩
  errand := by
    intro scene errand rest honest due
    have sane := sane_acting honest
    obtain ⟨listed, shortKey, shortValue⟩ :=
      sane.errands errand (by rw [due]; exact List.mem_cons_self)
    refine ⟨listed, shortKey, shortValue, honest_map honest
      (fun node => { node with errands := rest }) rfl (Node.errands_sane sane ?_)⟩
    intro other later
    exact sane.errands other (by rw [due]; exact List.mem_cons_of_mem _ later)
  listed := fun _ now honest item listed =>
    (Store.listing_short (sane_acting honest).store now item listed).2
  names := Ident.short_octets

end Scene
end XorOverlay
