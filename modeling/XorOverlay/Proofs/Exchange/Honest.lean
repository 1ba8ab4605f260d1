import Mathlib
import XorOverlay.Exchange.Cluster
import XorOverlay.Proofs.Exchange.Sending
import XorOverlay.Proofs.Node.Handling

/-!
Clusters of honest nodes. Every node has its own line and its own IPv4 endpoint, knows none but the
nodes of the cluster, and the clock stands still. In such a cluster a request to a node is always
answered, as the node would have answered it before the request came; the cluster stays honest.
-/

namespace XorOverlay

set_option autoImplicit false

namespace Cluster

/-- All nodes, as their peers know them. -/
def roster (cluster : Cluster) : List Contact :=
  cluster.nodes.map Node.contact

/-- Every node is on the network, on its own line and at an IPv4 endpoint of its own. -/
def Attached (cluster : Cluster) : Prop :=
  ∀ line node, cluster.nodes[line]? = some node →
    cluster.network.endpoint? line = some node.endpoint ∧
      cluster.network.route node.endpoint = some line ∧
      ∃ host port, node.endpoint = .v4 host port

/-- Nodes on lines of their own, in good order among each other. -/
structure Honest (cluster : Cluster) : Prop where
  still : cluster.clock = 0
  counted : cluster.network.lines.length = cluster.nodes.length
  attached : ∀ line node, cluster.nodes[line]? = some node →
    cluster.network.endpoint? line = some node.endpoint ∧
      cluster.network.route node.endpoint = some line ∧
      ∃ host port, node.endpoint = .v4 host port
  routed : ∀ endpoint line, cluster.network.route endpoint = some line →
    ∃ node, cluster.nodes[line]? = some node ∧ node.endpoint = endpoint
  sane : ∀ node ∈ cluster.nodes, node.Sane cluster.roster

variable {cluster : Cluster}

theorem mem_roster {line : Nat} {node : Node} (stands : cluster.nodes[line]? = some node) :
    node.contact ∈ cluster.roster :=
  List.mem_map_of_mem (List.mem_of_getElem? stands)

theorem length_of_roster {first second : Cluster} (same : first.roster = second.roster) :
    first.nodes.length = second.nodes.length := by
  have count := congrArg List.length same
  unfold roster at count
  rw [List.length_map, List.length_map] at count
  exact count

theorem found_of_roster {contact : Contact} (listed : contact ∈ cluster.roster) :
    ∃ (line : Nat) (node : Node), cluster.nodes[line]? = some node ∧ node.contact = contact := by
  obtain ⟨node, member, same⟩ := List.mem_map.mp listed
  obtain ⟨line, stands⟩ := List.mem_iff_getElem?.mp member
  exact ⟨line, node, stands, same⟩

theorem attached_writable (attached : cluster.Attached) {peer : Contact}
    (listed : peer ∈ cluster.roster) : peer.Writable := by
  obtain ⟨line, node, stands, rfl⟩ := found_of_roster listed
  obtain ⟨_, _, host, port, endpoint⟩ := attached line node stands
  exact ⟨host, port, congrArg some endpoint⟩

theorem attached_unique (attached : cluster.Attached) {place other : Nat} {first second : Node}
    (found : cluster.nodes[place]? = some first) (there : cluster.nodes[other]? = some second)
    (same : first.contact = second.contact) : place = other := by
  have lives : first.endpoint = second.endpoint :=
    Option.some.inj (congrArg Contact.endpoint same)
  have routed := (attached place first found).2.1
  rw [lives, (attached other second there).2.1] at routed
  exact (Option.some.inj routed).symm

/-- A node that keeps its name stays where it is. -/
theorem attached_set (attached : cluster.Attached) {line : Nat} {node after : Node}
    (stands : cluster.nodes[line]? = some node) (same : after.contact = node.contact)
    {network : Network} (lines : network.SameLines cluster.network) :
    Attached ⟨network, cluster.nodes.set line after, cluster.clock⟩ := by
  have endpoint : after.endpoint = node.endpoint := Option.some.inj (congrArg Contact.endpoint same)
  intro place other found
  rw [Network.endpoint_congr lines, Network.route_congr lines]
  rw [List.getElem?_set] at found
  split_ifs at found with here inside
  · obtain rfl := Option.some.inj found
    subst here
    rw [endpoint]
    exact attached line node stands
  · exact attached place other found

theorem writable_of_roster (honest : cluster.Honest) {peer : Contact}
    (listed : peer ∈ cluster.roster) : peer.Writable :=
  attached_writable honest.attached listed

theorem sane_at (honest : cluster.Honest) {line : Nat} {node : Node}
    (stands : cluster.nodes[line]? = some node) : node.Sane cluster.roster :=
  honest.sane node (List.mem_of_getElem? stands)

theorem roster_set {nodes : List Node} {line : Nat} {node after : Node}
    (stands : nodes[line]? = some node) (same : after.contact = node.contact) :
    (nodes.set line after).map Node.contact = nodes.map Node.contact := by
  rw [List.map_set, same]
  apply List.ext_getElem?
  intro place
  rw [List.getElem?_set]
  split_ifs with here inside
  · subst here
    rw [List.getElem?_map, stands]
    rfl
  · subst here
    rw [List.getElem?_eq_none (not_lt.mp inside)]
  · rfl

/-- A node may change as long as it keeps its name and its good order. -/
theorem honest_set (honest : cluster.Honest) {line : Nat} {node after : Node}
    (stands : cluster.nodes[line]? = some node) (same : after.contact = node.contact)
    (sane : after.Sane cluster.roster) {network : Network}
    (lines : network.SameLines cluster.network) :
    Honest ⟨network, cluster.nodes.set line after, cluster.clock⟩ ∧
      roster ⟨network, cluster.nodes.set line after, cluster.clock⟩ = cluster.roster := by
  have names := roster_set stands same
  have endpoint : after.endpoint = node.endpoint := Option.some.inj (congrArg Contact.endpoint same)
  refine ⟨⟨honest.still, ?_, attached_set honest.attached stands same lines, ?_, ?_⟩, names⟩
  · rw [Network.length_lines lines, List.length_set]
    exact honest.counted
  · intro target place reached
    rw [Network.route_congr lines] at reached
    obtain ⟨held, found, lives⟩ := honest.routed target place reached
    by_cases here : line = place
    · subst here
      rw [stands] at found
      obtain rfl := Option.some.inj found
      refine ⟨after, ?_, endpoint.trans lives⟩
      rw [List.getElem?_set, if_pos rfl, if_pos (List.getElem?_eq_some_iff.mp stands).1]
    · refine ⟨held, ?_, lives⟩
      rw [List.getElem?_set, if_neg here]
      exact found
  · intro member listed
    show member.Sane ((cluster.nodes.set line after).map Node.contact)
    rw [names]
    rcases List.mem_or_eq_of_mem_set listed with old | rfl
    · exact honest.sane member old
    · exact sane

end Cluster

namespace Scene

/-- The cluster around a node that acts, with the node as it is now. -/
def whole (line : Nat) (scene : Scene Cluster) : Cluster where
  network := scene.outside.network
  nodes := scene.outside.nodes.set line scene.node
  clock := scene.clock

/-- A node of an honest cluster acts. -/
structure Honest (line : Nat) (roster : List Contact) (scene : Scene Cluster) : Prop where
  whole : (scene.whole line).Honest
  roster : (scene.whole line).roster = roster
  inside : line < scene.outside.nodes.length

variable {line : Nat} {roster : List Contact} {scene : Scene Cluster}

theorem whole_acting (inside : line < scene.outside.nodes.length) :
    (scene.whole line).nodes[line]? = some scene.node := by
  show (scene.outside.nodes.set line scene.node)[line]? = some scene.node
  rw [List.getElem?_set, if_pos rfl, if_pos inside]

theorem whole_start {cluster : Cluster} {node : Node}
    (stands : cluster.nodes[line]? = some node) :
    (⟨node, cluster.clock, cluster⟩ : Scene Cluster).whole line = cluster := by
  obtain ⟨_, here⟩ := List.getElem?_eq_some_iff.mp stands
  unfold whole
  simp only [← here, List.set_getElem_self]

theorem sane_acting (honest : scene.Honest line roster) : scene.node.Sane roster := by
  rw [← honest.roster]
  exact Cluster.sane_at honest.whole (whole_acting honest.inside)

theorem whole_map (change : Node → Node) (scene : Scene Cluster) :
    (scene.mapNode change).whole line =
      ⟨(scene.whole line).network, (scene.whole line).nodes.set line (change scene.node),
        (scene.whole line).clock⟩ := by
  simp only [whole, mapNode, List.set_set]

theorem honest_map (honest : scene.Honest line roster) (change : Node → Node)
    (same : (change scene.node).contact = scene.node.contact)
    (sane : (change scene.node).Sane roster) : (scene.mapNode change).Honest line roster := by
  rw [← honest.roster] at sane
  obtain ⟨whole, names⟩ := Cluster.honest_set honest.whole (whole_acting honest.inside) same sane
    (Network.same_lines_refl _)
  refine ⟨?_, ?_, honest.inside⟩
  · rw [whole_map]
    exact whole
  · rw [whole_map, names]
    exact honest.roster

end Scene

namespace Cluster

theorem act_standing {α : Type} (action : Scene Cluster → α × Scene Cluster) {cluster : Cluster}
    {line : Nat} {node : Node} (stands : cluster.nodes[line]? = some node) :
    cluster.act line action = (some (action ⟨node, cluster.clock, cluster⟩).1,
      (action ⟨node, cluster.clock, cluster⟩).2.whole line) := by
  unfold act
  rw [stands]
  rfl

end Cluster
end XorOverlay
