import Mathlib
import XorOverlay.Proofs.Exchange.Calling
import XorOverlay.Proofs.Node.Attending

/-!
A crew that gathers on a network. Who has met whom is a relation between contacts; a call of one
member to another adds to it that the two have met, in either direction, and nothing else. What is
replied to a newcomer is told from the relation as it was before the call.
-/

namespace XorOverlay

set_option autoImplicit false

/-- The relation once somebody has heard from somebody. -/
def Hears (met : Contact → Contact → Prop) (who whom : Contact) : Contact → Contact → Prop :=
  fun one other => met one other ∨ (one = who ∧ other = whom)

namespace Cluster

/-- Members of a crew on lines of their own, who have met as a relation says. -/
structure Gathers (crew roster : List Contact) (met : Contact → Contact → Prop)
    (cluster : Cluster) : Prop where
  names : cluster.roster = roster
  counted : cluster.network.lines.length = cluster.nodes.length
  attached : cluster.Attached
  attends : ∀ (line : Nat) (node : Node), cluster.nodes[line]? = some node →
    node.Attends crew (met node.contact)

variable {crew roster : List Contact} {met later : Contact → Contact → Prop} {cluster : Cluster}

theorem gathers_congr (gathers : cluster.Gathers crew roster met)
    (same : ∀ one other, met one other ↔ later one other) :
    cluster.Gathers crew roster later :=
  { gathers with
    attends := fun line node stands =>
      Node.attends_congr (gathers.attends line node stands) (same node.contact) }

theorem gathers_found (gathers : cluster.Gathers crew roster met) {contact : Contact}
    (listed : contact ∈ roster) :
    ∃ (place : Nat) (peer : Node), cluster.nodes[place]? = some peer ∧ peer.contact = contact := by
  rw [← gathers.names] at listed
  exact found_of_roster listed

theorem gathers_listed (gathers : cluster.Gathers crew roster met) {contact : Contact}
    (listed : contact ∈ roster) : contact ∈ crew := by
  obtain ⟨place, peer, found, rfl⟩ := gathers_found gathers listed
  exact (gathers.attends place peer found).listed

/-- One node changes, and with it whom that node has met. -/
theorem gathers_set (gathers : cluster.Gathers crew roster met) {line : Nat} {node after : Node}
    (stands : cluster.nodes[line]? = some node) (same : after.contact = node.contact)
    (attends : after.Attends crew (later node.contact))
    (others : ∀ one, one ≠ node.contact → ∀ other, met one other ↔ later one other)
    {network : Network} (lines : network.SameLines cluster.network) :
    Gathers crew roster later ⟨network, cluster.nodes.set line after, cluster.clock⟩ := by
  refine ⟨(roster_set stands same).trans gathers.names, ?_,
    attached_set gathers.attached stands same lines, ?_⟩
  · rw [Network.length_lines lines, List.length_set]
    exact gathers.counted
  · intro place other found
    rw [List.getElem?_set] at found
    split_ifs at found with here inside
    · obtain rfl := Option.some.inj found
      rw [same]
      exact attends
    · refine Node.attends_congr (gathers.attends place other found) (others other.contact ?_)
      exact fun equal => here (attached_unique gathers.attached stands found equal.symm)

theorem gathers_hears (gathers : cluster.Gathers crew roster met) {line : Nat} {node after : Node}
    (stands : cluster.nodes[line]? = some node) (same : after.contact = node.contact)
    {contact : Contact}
    (attends : after.Attends crew fun other => met node.contact other ∨ other = contact)
    {network : Network} (lines : network.SameLines cluster.network) :
    Gathers crew roster (Hears met node.contact contact)
      ⟨network, cluster.nodes.set line after, cluster.clock⟩ := by
  refine gathers_set gathers stands same (Node.attends_congr attends ?_) ?_ lines
  · intro other
    simp [Hears]
  · intro one apart other
    simp [Hears, apart]

end Cluster

namespace Scene

/-- A member of a gathering crew acts. -/
structure Gathers (line : Nat) (crew roster : List Contact) (met : Contact → Contact → Prop)
    (scene : Scene Cluster) : Prop where
  whole : (scene.whole line).Gathers crew roster met
  inside : line < scene.outside.nodes.length

variable {line : Nat} {crew roster : List Contact} {met later : Contact → Contact → Prop}
  {scene : Scene Cluster}

theorem gathers_acting (gathers : scene.Gathers line crew roster met) :
    scene.node.Attends crew (met scene.node.contact) :=
  gathers.whole.attends line scene.node (whole_acting gathers.inside)

/-- A member answers a request of the newcomer, and has met the newcomer then. -/
theorem carrier_gathers (gathers : scene.Gathers line crew roster met) (fit : Crew crew)
    {peer : Contact} (listed : peer ∈ roster) (apart : peer.id ≠ scene.node.id)
    {endpoint : Endpoint} (lives : peer.endpoint = some endpoint) {request : Request}
    (sender : request.sender = scene.node.contact)
    (joins : request.query.Joins scene.node.id) :
    ∃ reply after, Cluster.carrier line scene endpoint request = (.ok ⟨request.tag, reply⟩, after) ∧
      after.node = scene.node ∧ after.Gathers line crew roster (Hears met peer scene.node.contact) ∧
      reply.Introduces peer.id scene.node.id (met peer) request.query := by
  obtain ⟨place, member, found, rfl⟩ := Cluster.gathers_found gathers.whole listed
  obtain rfl : member.endpoint = endpoint := Option.some.inj lives
  have attends := gathers.whole.attends place member found
  have own : scene.node.contact ∈ crew := (gathers_acting gathers).listed
  -- The member learns of the sender under the endpoint its packet came from.
  have asker : (⟨request.sender.id, some scene.node.endpoint⟩ : Contact) = scene.node.contact := by
    rw [sender]
    rfl
  have named : request.sender.id = scene.node.id := congrArg Contact.id asker
  obtain ⟨reply, after, handled, same, heard, introduces⟩ :=
    @Node.handle_attends crew (met member.contact) member attends fit scene.clock
      scene.node.endpoint request (asker ▸ own) (named ▸ Ne.symm apart) (named ▸ joins)
  rw [asker] at heard
  rw [named] at introduces
  obtain ⟨arrives, inCrew⟩ := Node.introduces_arrives attends fit own (Ne.symm apart) introduces
  obtain ⟨network, later, lines, carried, self, inside, whole⟩ := carrier_reaches gathers.inside
    gathers.whole.attached found apart attends.active (Query.joins_short joins)
    (sender ▸ fit.writable _ own) handled
    (fun contact named => fit.writable contact (inCrew contact named))
  rw [arrives] at carried
  refine ⟨reply, later, carried, self, ⟨?_, inside⟩, introduces⟩
  rw [whole]
  exact Cluster.gathers_hears gathers.whole found same heard lines

theorem map_gathers (gathers : scene.Gathers line crew roster met) (change : Node → Node)
    (same : (change scene.node).contact = scene.node.contact) {contact : Contact}
    (attends : (change scene.node).Attends crew fun other =>
      met scene.node.contact other ∨ other = contact) :
    (scene.mapNode change).Gathers line crew roster (Hears met scene.node.contact contact) := by
  refine ⟨?_, gathers.inside⟩
  rw [whole_map]
  exact Cluster.gathers_hears gathers.whole (whole_acting gathers.inside) same attends
    (Network.same_lines_refl _)

theorem sending_gathers (gathers : scene.Gathers line crew roster met) :
    scene.sending.Gathers line crew roster met := by
  have same : scene.sending.node.contact = scene.node.contact := rfl
  have tagged := Node.tag_attends (gathers_acting gathers) (scene.node.lastTag + 1)
  refine ⟨?_, gathers.inside⟩
  rw [sending, whole_map]
  exact Cluster.gathers_set gathers.whole (whole_acting gathers.inside) same tagged
    (fun _ _ _ => Iff.rfl) (Network.same_lines_refl _)

/-- A reply is one of the member that was asked, also where only its endpoint was known. -/
theorem responder_introduces {peer dest : Contact} {endpoint : Endpoint} {newcomer : Ident}
    {known : Contact → Prop} {query : Query} {reply : Reply}
    (lives : peer.endpoint = some endpoint) (named : query ≠ .ping → dest = peer)
    (introduces : reply.Introduces peer.id newcomer known query) :
    responder endpoint dest reply = peer := by
  cases query with
  | ping =>
      obtain rfl : reply = .pong peer.id := introduces
      rw [responder, ← lives]
  | findNode target =>
      obtain ⟨contacts, rfl, _⟩ := introduces
      apply named
      intro ping
      cases ping
  | store key value => exact introduces.elim
  | findValue key => exact introduces.elim

/-- The newcomer's call to a member is answered, and the two have met then. -/
theorem call_gathers (gathers : scene.Gathers line crew roster met) (fit : Crew crew)
    {peer : Contact} (listed : peer ∈ roster) (apart : peer.id ≠ scene.node.id)
    {dest : Contact} (there : dest.endpoint = peer.endpoint) {query : Query}
    (named : query ≠ .ping → dest = peer) (joins : query.Joins scene.node.id) :
    ∃ reply later, scene.call (Cluster.carrier line) dest query = (.answered reply, later) ∧
      later.node.contact = scene.node.contact ∧
      later.Gathers line crew roster
        (Hears (Hears met peer scene.node.contact) scene.node.contact peer) ∧
      reply.Introduces peer.id scene.node.id (met peer) query := by
  have member := Cluster.gathers_listed gathers.whole listed
  obtain ⟨host, port, lives⟩ := fit.writable peer member
  obtain ⟨reply, carried, answered, self, after, introduces⟩ :=
    @carrier_gathers line crew roster met scene.sending (sending_gathers gathers) fit peer listed
      apart _ lives (scene.request query) rfl joins
  have same : carried.node.contact = scene.node.contact := by
    rw [self]
    rfl
  have stranger : peer.id ≠ carried.node.id := by
    rw [self]
    exact apart
  obtain ⟨welcomed, taken, kept, heard⟩ := Node.welcome_attends (gathers_acting after) fit member
    stranger carried.clock (by rw [lives]; rfl)
  rw [← responder_introduces lives named introduces] at taken
  refine ⟨reply, _, call_answered (there.trans lives) answered taken, kept.trans same, ?_,
    introduces⟩
  have met_both := map_gathers after (fun _ => welcomed) kept heard
  rw [same] at met_both
  exact met_both

end Scene
end XorOverlay
