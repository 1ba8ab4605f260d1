import Mathlib
import XorOverlay.Proofs.Exchange.Calling
import XorOverlay.Proofs.Node.Insider
import XorOverlay.Proofs.Node.Probing

/-!
Clusters in which every node knows all others. While a value is written under a key and read again,
every call in such a cluster is answered as far as the wire carries the answer, all nodes go on
knowing each other, and whoever holds the value goes on holding it.
-/

namespace XorOverlay

set_option autoImplicit false

namespace Cluster

/-- Nodes on lines of their own that know each other, while a write and reads of its key go on. -/
structure Mesh (roster : List Contact) (write : Write) (cluster : Cluster) : Prop where
  clock : cluster.clock = write.now
  names : cluster.roster = roster
  attached : ∀ line node, cluster.nodes[line]? = some node →
    cluster.network.endpoint? line = some node.endpoint ∧
      cluster.network.route node.endpoint = some line ∧
      ∃ host port, node.endpoint = .v4 host port
  insiders : ∀ node ∈ cluster.nodes, node.Insider roster write

/-- The node that goes by a contact holds the value. -/
def HeldBy (write : Write) (contact : Contact) (cluster : Cluster) : Prop :=
  ∃ node ∈ cluster.nodes, node.contact = contact ∧
    node.copy write.now write.key = some write.value

variable {roster : List Contact} {write : Write} {cluster : Cluster}

theorem mesh_insider (mesh : cluster.Mesh roster write) {line : Nat} {node : Node}
    (stands : cluster.nodes[line]? = some node) : node.Insider roster write :=
  mesh.insiders node (List.mem_of_getElem? stands)

theorem mesh_listed (mesh : cluster.Mesh roster write) {line : Nat} {node : Node}
    (stands : cluster.nodes[line]? = some node) : node.contact ∈ roster := by
  rw [← mesh.names]
  exact mem_roster stands

theorem mesh_found (mesh : cluster.Mesh roster write) {contact : Contact}
    (listed : contact ∈ roster) :
    ∃ (place : Nat) (peer : Node),
      cluster.nodes[place]? = some peer ∧ peer.contact = contact := by
  rw [← mesh.names] at listed
  exact found_of_roster listed

theorem mesh_writable (mesh : cluster.Mesh roster write) {contact : Contact}
    (listed : contact ∈ roster) : contact.Writable := by
  rw [← mesh.names] at listed
  exact attached_writable mesh.attached listed

theorem mesh_unique (mesh : cluster.Mesh roster write) {place other : Nat} {first second : Node}
    (found : cluster.nodes[place]? = some first) (there : cluster.nodes[other]? = some second)
    (same : first.contact = second.contact) : place = other :=
  attached_unique mesh.attached found there same

/-- A node may change as long as it keeps its name and is an insider. -/
theorem mesh_set (mesh : cluster.Mesh roster write) {line : Nat} {node after : Node}
    (stands : cluster.nodes[line]? = some node) (same : after.contact = node.contact)
    (insider : after.Insider roster write) {network : Network}
    (lines : network.SameLines cluster.network) :
    Mesh roster write ⟨network, cluster.nodes.set line after, cluster.clock⟩ := by
  refine ⟨mesh.clock, (roster_set stands same).trans mesh.names,
    attached_set mesh.attached stands same lines, ?_⟩
  intro member listed
  rcases List.mem_or_eq_of_mem_set listed with old | rfl
  · exact mesh.insiders member old
  · exact insider

theorem held_set {line : Nat} {node after : Node} (stands : cluster.nodes[line]? = some node)
    (same : after.contact = node.contact)
    (kept : node.copy write.now write.key = some write.value →
      after.copy write.now write.key = some write.value) {contact : Contact} (network : Network)
    (held : cluster.HeldBy write contact) :
    HeldBy write contact ⟨network, cluster.nodes.set line after, cluster.clock⟩ := by
  obtain ⟨holder, member, rfl, copied⟩ := held
  obtain ⟨place, found⟩ := List.mem_iff_getElem?.mp member
  by_cases here : line = place
  · subst here
    rw [stands] at found
    obtain rfl := Option.some.inj found
    exact ⟨after, List.mem_set (List.getElem?_eq_some_iff.mp stands).1 _, same, kept copied⟩
  · refine ⟨holder, List.mem_of_getElem? (i := place) ?_, rfl, copied⟩
    show (cluster.nodes.set line after)[place]? = some holder
    rw [List.getElem?_set, if_neg here]
    exact found

end Cluster

namespace Scene

variable {line : Nat} {roster : List Contact} {write : Write} {scene later last : Scene Cluster}

/-- A node of a mesh acts. -/
structure Meshed (line : Nat) (roster : List Contact) (write : Write) (scene : Scene Cluster) :
    Prop where
  mesh : (scene.whole line).Mesh roster write
  inside : line < scene.outside.nodes.length

/-- What happens to a mesh: its nodes go on knowing each other, and no copy is lost. -/
structure Leads (line : Nat) (roster : List Contact) (write : Write)
    (scene later : Scene Cluster) : Prop where
  meshed : later.Meshed line roster write
  keeps : ∀ contact, (scene.whole line).HeldBy write contact →
    (later.whole line).HeldBy write contact

theorem leads_refl (meshed : scene.Meshed line roster write) :
    Leads line roster write scene scene :=
  ⟨meshed, fun _ held => held⟩

theorem leads_trans (early : Leads line roster write scene later)
    (late : Leads line roster write later last) : Leads line roster write scene last :=
  ⟨late.meshed, fun contact held => late.keeps contact (early.keeps contact held)⟩

theorem meshed_insider (meshed : scene.Meshed line roster write) :
    scene.node.Insider roster write :=
  Cluster.mesh_insider meshed.mesh (whole_acting meshed.inside)

theorem meshed_contact (meshed : scene.Meshed line roster write) :
    roster[line]? = some scene.node.contact := by
  rw [← meshed.mesh.names, Cluster.roster, List.getElem?_map, whole_acting meshed.inside]
  rfl

/-- The acting node keeps its name. -/
theorem leads_id (meshed : scene.Meshed line roster write)
    (leads : Leads line roster write scene later) : later.node.id = scene.node.id := by
  have same := (meshed_contact leads.meshed).symm.trans (meshed_contact meshed)
  exact congrArg Contact.id (Option.some.inj same)

theorem leads_map (meshed : scene.Meshed line roster write) (change : Node → Node)
    (same : (change scene.node).contact = scene.node.contact)
    (insider : (change scene.node).Insider roster write)
    (kept : scene.node.copy write.now write.key = some write.value →
      (change scene.node).copy write.now write.key = some write.value) :
    Leads line roster write scene (scene.mapNode change) := by
  have acting := whole_acting meshed.inside
  refine ⟨⟨?_, meshed.inside⟩, ?_⟩
  · rw [whole_map]
    exact Cluster.mesh_set meshed.mesh acting same insider (Network.same_lines_refl _)
  · intro contact held
    rw [whole_map]
    exact Cluster.held_set acting same kept _ held

/-- Another node of the cluster answers a request. -/
theorem meshed_carried (meshed : scene.Meshed line roster write) {dest : Contact}
    (listed : dest ∈ roster) (apart : dest.id ≠ scene.node.id) {request : Request}
    (sender : request.sender = scene.node.contact) (asks : write.Asks request.query) :
    ∃ copied reply later endpoint, dest.endpoint = some endpoint ∧
      Cluster.carrier line scene endpoint request = (.ok ⟨request.tag, reply.carried⟩, later) ∧
      later.node = scene.node ∧ Leads line roster write scene later ∧
      write.Tells roster copied request.query reply ∧
      ((scene.whole line).HeldBy write dest → copied = true) ∧
      ∀ value, request.query = .store write.key.octets value →
        (later.whole line).HeldBy write dest := by
  obtain ⟨place, peer, found, rfl⟩ := Cluster.mesh_found meshed.mesh listed
  have insider := Cluster.mesh_insider meshed.mesh found
  have known := Cluster.mesh_listed meshed.mesh (whole_acting meshed.inside)
  have asker : (⟨request.sender.id, some scene.node.endpoint⟩ : Contact) ∈ roster := by
    rw [sender]
    exact known
  have stranger : request.sender.id ≠ peer.id := by
    rw [sender]
    exact Ne.symm apart
  obtain ⟨reply, after, handled, tells, good, answers⟩ :=
    Node.handle_insider insider asker stranger asks
  rw [show write.now = scene.clock from meshed.mesh.clock.symm] at handled
  obtain ⟨network, later, lines, carried, self, inside, whole⟩ := carrier_reaches meshed.inside
    meshed.mesh.attached found apart insider.active (Write.asks_short asks)
    (sender ▸ Cluster.mesh_writable meshed.mesh known) handled
    (fun contact inside => Cluster.mesh_writable meshed.mesh
      (Write.tells_named tells request.tag contact inside))
  refine ⟨_, reply, later, peer.endpoint, rfl, carried, self, ⟨⟨?_, inside⟩, ?_⟩, tells, ?_, ?_⟩
  · rw [whole]
    exact Cluster.mesh_set meshed.mesh found answers.contact good lines
  · intro contact held
    rw [whole]
    exact Cluster.held_set found answers.contact answers.kept network held
  · rintro ⟨holder, member, same, copied⟩
    obtain ⟨other, there⟩ := List.mem_iff_getElem?.mp member
    obtain rfl := Cluster.mesh_unique meshed.mesh there found same
    rw [found] at there
    rw [Option.some.inj there, copied]
    rfl
  · intro value stored
    rw [whole]
    exact ⟨after, List.mem_set (List.getElem?_eq_some_iff.mp found).1 _, answers.contact,
      answers.stored value stored⟩

/-- Calls to other nodes are answered. -/
theorem meshed_call (meshed : scene.Meshed line roster write) (short : write.value.Short)
    {dest : Contact} (listed : dest ∈ roster) (apart : dest.id ≠ scene.node.id) {query : Query}
    (asks : write.Asks query) :
    ∃ copied reply later,
      scene.call (Cluster.carrier line) dest query = (.answered reply, later) ∧
      Leads line roster write scene later ∧ write.Tells roster copied query reply ∧
      ((scene.whole line).HeldBy write dest → copied = true) ∧
      ∀ value, query = .store write.key.octets value →
        (later.whole line).HeldBy write dest := by
  have insider := meshed_insider meshed
  have tagged : Leads line roster write scene scene.sending :=
    leads_map meshed (fun node => { node with lastTag := scene.node.lastTag + 1 }) rfl
      (Node.tag_insider insider _) fun held => held
  obtain ⟨copied, reply, carried, endpoint, lives, answered, self, leads, tells, held, stored⟩ :=
    @meshed_carried line roster write scene.sending tagged.meshed dest listed apart
      (scene.request query) rfl asks
  have arrived := Write.tells_carried short tells
  have responds := Write.responder_tells arrived endpoint dest
  have still : carried.node.id = scene.node.id := by
    rw [self]
    rfl
  have placed : dest.endpoint.isNone = false := by
    rw [lives]
    rfl
  obtain ⟨taken, welcomed⟩ := Node.welcome_insider (meshed_insider leads.meshed) carried.clock
    listed (still ▸ apart) placed
  rw [← responds] at taken
  have heard := leads_map leads.meshed (fun _ =>
    { carried.node with table := (carried.node.table.add carried.clock dest).1 })
    rfl welcomed fun held => held
  refine ⟨copied, reply.carried, _, call_answered lives answered taken,
    leads_trans tagged (leads_trans leads ?_), arrived, ?_, ?_⟩
  · rw [responds]
    exact heard
  · intro before
    exact held (tagged.keeps dest before)
  · intro value same
    rw [responds]
    exact heard.keeps dest (stored value same)

end Scene
end XorOverlay
