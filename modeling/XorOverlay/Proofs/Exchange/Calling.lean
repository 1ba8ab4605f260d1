import Mathlib
import XorOverlay.Proofs.Exchange.Honest
import XorOverlay.Proofs.Node.Welcome

/-!
Calls between honest nodes. A call to a node of the cluster is answered, and the answer is what the
node would have replied before the call. Only the two nodes change: the one that was asked hears
from the caller and keeps what it was sent, and the caller hears from the one that answered.
-/

namespace XorOverlay

set_option autoImplicit false

namespace Scene

variable {line : Nat} {roster : List Contact} {scene : Scene Cluster}

/-- What a request to a node of the cluster does. -/
structure Served (line receiver : Nat) (roster : List Contact) (query : Query) (peer : Node)
    (reply : Reply) (scene later : Scene Cluster) : Prop where
  found : (scene.whole line).nodes[receiver]? = some peer
  replied : (peer.reply 0 scene.node.id query).1 = some reply
  short : reply.Short
  named : ∀ contact ∈ named reply, contact ∈ roster
  honest : later.Honest line roster
  lines : (later.whole line).network.SameLines (scene.whole line).network
  nodes : ∃ heard, Node.Hears scene.node.id peer heard ∧
    (later.whole line).nodes = (scene.whole line).nodes.set receiver (heard.answered query)

/-- The acting node finds itself among the nodes that a request left behind. -/
def moved (line : Nat) (network : Network) (nodes : List Node) (scene : Scene Cluster) :
    Scene Cluster :=
  { scene with
    node := (nodes[line]?).getD scene.node
    outside := { scene.outside with network := network, nodes := nodes } }

theorem whole_moved {nodes : List Node} (inside : line < nodes.length) (network : Network)
    (scene : Scene Cluster) :
    (scene.moved line network nodes).whole line = ⟨network, nodes, scene.clock⟩ := by
  unfold whole moved
  simp only [List.getElem?_eq_getElem inside, Option.getD_some, List.set_getElem_self]

/-- Whoever goes by another name is on another line. -/
theorem line_apart (inside : line < scene.outside.nodes.length) {place : Nat} {peer : Node}
    (found : (scene.whole line).nodes[place]? = some peer) (apart : peer.id ≠ scene.node.id) :
    place ≠ line := by
  rintro rfl
  rw [whole_acting inside] at found
  exact apart (congrArg Node.id (Option.some.inj found).symm)

/-- Where another node has changed, the acting one has not. -/
theorem node_moved (inside : line < scene.outside.nodes.length) {place : Nat}
    (away : place ≠ line) (network : Network) (after : Node) :
    (scene.moved line network ((scene.whole line).nodes.set place after)).node = scene.node := by
  unfold moved
  simp only [List.getElem?_set, if_neg away, whole_acting inside, Option.getD_some]

theorem length_whole (line : Nat) (scene : Scene Cluster) :
    (scene.whole line).nodes.length = scene.outside.nodes.length :=
  List.length_set

theorem answered_contact (query : Query) (node : Node) :
    (node.answered query).contact = node.contact := by
  cases query with
  | ping => rfl
  | store key value => rfl
  | findNode target => rfl
  | findValue key => rfl

/-- A request that a node of the cluster handles brings its reply, as far as the wire carries it,
and changes that node alone. -/
theorem carrier_delivers {request : Request} {dest : Endpoint} {receiver : Nat}
    {peer after : Node} {reply : Reply}
    (attached : (scene.whole line).network.endpoint? line = some scene.node.endpoint)
    (back : (scene.whole line).network.route scene.node.endpoint = some line)
    (routed : (scene.whole line).network.route dest = some receiver)
    (found : (scene.whole line).nodes[receiver]? = some peer) (active : peer.active = true)
    (short : request.query.Short) (writable : request.sender.Writable)
    (handled : peer.handle scene.clock scene.node.endpoint request =
      (some ⟨request.tag, reply⟩, after))
    (named : ∀ contact ∈ named reply, contact.Writable) :
    ∃ network, network.SameLines (scene.whole line).network ∧
      Cluster.carrier line scene dest request = (.ok ⟨request.tag, reply.carried⟩,
        scene.moved line network ((scene.whole line).nodes.set receiver after)) := by
  have serves : Cluster.serve scene.clock (scene.whole line).nodes receiver scene.node.endpoint
      request = ([⟨request.tag, reply⟩], (scene.whole line).nodes.set receiver after) := by
    unfold Cluster.serve
    simp only [found, active, if_true, handled, Option.toList_some]
  obtain ⟨network, sent, lines⟩ :=
    Network.send_answered attached back routed short writable serves named
  refine ⟨network, lines, ?_⟩
  unfold Cluster.carrier
  simp only [show scene.outside.nodes.set line scene.node = (scene.whole line).nodes from rfl,
    show scene.outside.network = (scene.whole line).network from rfl, sent]
  rfl

/-- A request to a node by another name brings its reply, and the acting node is not the one that has
changed. -/
theorem carrier_reaches {request : Request} {place : Nat} {peer after : Node} {reply : Reply}
    (inside : line < scene.outside.nodes.length) (attached : (scene.whole line).Attached)
    (found : (scene.whole line).nodes[place]? = some peer) (apart : peer.id ≠ scene.node.id)
    (active : peer.active = true) (short : request.query.Short)
    (writable : request.sender.Writable)
    (handled : peer.handle scene.clock scene.node.endpoint request =
      (some ⟨request.tag, reply⟩, after))
    (named : ∀ contact ∈ named reply, contact.Writable) :
    ∃ network later, network.SameLines (scene.whole line).network ∧
      Cluster.carrier line scene peer.endpoint request = (.ok ⟨request.tag, reply.carried⟩, later) ∧
      later.node = scene.node ∧ line < later.outside.nodes.length ∧
      later.whole line =
        ⟨network, (scene.whole line).nodes.set place after, (scene.whole line).clock⟩ := by
  obtain ⟨sends, back, _⟩ := attached line scene.node (whole_acting inside)
  obtain ⟨network, lines, carried⟩ := carrier_delivers sends back (attached place peer found).2.1
    found active short writable handled named
  have within : line < ((scene.whole line).nodes.set place after).length := by
    rw [List.length_set, length_whole]
    exact inside
  exact ⟨network, _, lines, carried, node_moved inside (line_apart inside found apart) network after,
    within, whole_moved within network scene⟩

theorem carrier_answers (request : Request) {dest : Endpoint} {receiver : Nat}
    (honest : scene.Honest line roster) (sender : request.sender = scene.node.contact)
    (short : request.query.Short)
    (routed : (scene.whole line).network.route dest = some receiver) :
    ∃ peer reply later, peer.endpoint = dest ∧
      Cluster.carrier line scene dest request = (.ok ⟨request.tag, reply⟩, later) ∧
      Served line receiver roster request.query peer reply scene later := by
  obtain ⟨peer, found, lives⟩ := honest.whole.routed dest receiver routed
  have acting := whole_acting honest.inside
  obtain ⟨attached, back, _⟩ := honest.whole.attached line scene.node acting
  have clock : scene.clock = 0 := honest.whole.still
  have sanePeer := Cluster.sane_at honest.whole found
  have known := Cluster.mem_roster acting
  have listed : (⟨request.sender.id, some scene.node.endpoint⟩ : Contact) ∈
      (scene.whole line).roster := by
    rw [sender]
    exact known
  obtain ⟨reply, heard, handled, replied, shortReply, inRoster, hears, saneAfter⟩ :=
    Node.handle_sane sanePeer listed short
  rw [← clock] at handled
  obtain ⟨network, lines, carried⟩ := carrier_delivers attached back routed found sanePeer.active
    short (sender ▸ Cluster.writable_of_roster honest.whole known) handled
    (fun contact inside => Cluster.writable_of_roster honest.whole (inRoster contact inside))
  rw [Reply.carried_of_short shortReply] at carried
  -- The receiver may be the acting node itself, so the nodes are replaced as a whole list.
  have same : (heard.answered request.query).contact = peer.contact :=
    (answered_contact _ _).trans (Node.alike_contact hears.toAlike)
  obtain ⟨honestAfter, names⟩ := Cluster.honest_set honest.whole found same saneAfter lines
  have inside : line < ((scene.whole line).nodes.set receiver
      (heard.answered request.query)).length := by
    rw [List.length_set, length_whole]
    exact honest.inside
  have after := whole_moved inside network scene
  refine ⟨peer, reply, _, lives, carried, ?_⟩
  refine ⟨found, ?_, shortReply, ?_, ⟨?_, ?_, inside⟩, ?_, heard, ?_, ?_⟩
  · rw [← replied, sender]
    rfl
  · rw [← honest.roster]
    exact inRoster
  · rw [after]
    exact honestAfter
  · rw [after]
    exact names.trans honest.roster
  · rw [after]
    exact lines
  · rw [sender] at hears
    exact hears
  · rw [after]

/-- A request to an endpoint that is not bound changes no node. -/
theorem carrier_unrouted (request : Request) {dest : Endpoint} (honest : scene.Honest line roster)
    (unrouted : (scene.whole line).network.route dest = none) :
    ∃ failure later, Cluster.carrier line scene dest request = (.error failure, later) ∧
      later.Honest line roster ∧ later.node = scene.node := by
  have acting := whole_acting honest.inside
  have inside : line < (scene.whole line).nodes.length := by
    rw [length_whole]
    exact honest.inside
  obtain ⟨failure, network, sent, lines⟩ := Network.send_unrouted (Cluster.serve scene.clock) line
    request (scene.whole line).nodes unrouted
  obtain ⟨honestAfter, names⟩ := Cluster.honest_set honest.whole acting rfl
    (Cluster.sane_at honest.whole acting) lines
  have same : (scene.whole line).nodes.set line scene.node = (scene.whole line).nodes :=
    List.set_set _
  rw [same] at honestAfter names
  have after := whole_moved inside network scene
  refine ⟨failure, scene.moved line network (scene.whole line).nodes, ?_, ⟨?_, ?_, inside⟩, ?_⟩
  · unfold Cluster.carrier
    simp only [show scene.outside.nodes.set line scene.node = (scene.whole line).nodes from rfl,
      show scene.outside.network = (scene.whole line).network from rfl, sent]
    rfl
  · rw [after]
    exact honestAfter
  · rw [after]
    exact names.trans honest.roster
  · unfold moved
    simp only [acting, Option.getD_some]

/-- What a call to another node of the cluster does. -/
structure Asked (line receiver : Nat) (query : Query) (reply : Reply)
    (scene later : Scene Cluster) : Prop where
  asker : Node.Alike scene.node later.node
  asked : ∀ peer, (scene.whole line).nodes[receiver]? = some peer →
    (peer.reply 0 scene.node.id query).1 = some reply ∧
      ∃ heard, Node.Hears scene.node.id peer heard ∧
        (later.whole line).nodes[receiver]? = some (heard.answered query)
  others : ∀ place, place ≠ line → place ≠ receiver →
    (later.whole line).nodes[place]? = (scene.whole line).nodes[place]?
  lines : (later.whole line).network.SameLines (scene.whole line).network

theorem responder_listed {dest : Contact} {endpoint : Endpoint} {query : Query} {reply : Reply}
    {requester : Ident} {peer : Node} (listed : dest ∈ roster ∨ query = .ping)
    (known : peer.contact ∈ roster) (lives : peer.endpoint = endpoint)
    (replied : (peer.reply 0 requester query).1 = some reply) :
    responder endpoint dest reply ∈ roster := by
  obtain ⟨pong, asked⟩ := Node.reply_names replied
  have other : (∀ id, reply ≠ .pong id) → dest ∈ roster := by
    intro noPong
    apply listed.resolve_right
    intro ping
    obtain ⟨id, same⟩ := asked ping
    exact noPong id same
  cases reply with
  | pong id =>
      have named : (⟨id, some endpoint⟩ : Contact) = peer.contact := by
        rw [pong id rfl, ← lives]
        rfl
      rw [responder, named]
      exact known
  | stored accepted => exact other nofun
  | nodes contacts => exact other nofun
  | found value => exact other nofun
  | closest contacts => exact other nofun

/-- A served request, with the caller's tag before it and the caller's welcome after it. -/
theorem asked_of_served {query : Query} {receiver : Nat} {peer welcomed : Node} {reply : Reply}
    {tag : Tag} {carried : Scene Cluster} (inside : line < scene.outside.nodes.length)
    (served : Served line receiver roster query peer reply
      (scene.mapNode fun node => { node with lastTag := tag }) carried)
    (alike : Node.Alike carried.node welcomed) (apart : receiver ≠ line) :
    Asked line receiver query reply scene (carried.mapNode fun _ => welcomed) := by
  obtain ⟨heard, hears, nodes⟩ := served.nodes
  have found := served.found
  have acting := whole_acting served.honest.inside
  have within : line < (scene.whole line).nodes.length := by
    rw [length_whole]
    exact inside
  rw [whole_map] at nodes found
  have self : carried.node = { scene.node with lastTag := tag } := by
    rw [nodes, List.getElem?_set, if_neg apart, List.getElem?_set, if_pos rfl, if_pos within]
      at acting
    exact (Option.some.inj acting).symm
  have sent : (scene.whole line).nodes[receiver]? = some peer := by
    rw [List.getElem?_set, if_neg (Ne.symm apart)] at found
    exact found
  have reached : receiver < (scene.whole line).nodes.length := (List.getElem?_eq_some_iff.mp sent).1
  refine ⟨?_, ?_, ?_, served.lines⟩
  · refine Node.alike_trans ?_ alike
    rw [self]
    exact ⟨rfl, rfl, rfl, rfl, rfl⟩
  · intro other same
    rw [sent] at same
    obtain rfl := Option.some.inj same
    refine ⟨served.replied, heard, hears, ?_⟩
    rw [whole_map, List.getElem?_set, if_neg (Ne.symm apart), nodes, List.getElem?_set, if_pos rfl,
      List.length_set, if_pos reached]
  · intro place notAsker notAsked
    rw [whole_map, List.getElem?_set, if_neg (Ne.symm notAsker), nodes, List.getElem?_set,
      if_neg (Ne.symm notAsked), List.getElem?_set, if_neg (Ne.symm notAsker)]

/-- A call to a node of the cluster is answered. -/
theorem call_answers {dest : Contact} {endpoint : Endpoint} {query : Query} {receiver : Nat}
    (honest : scene.Honest line roster) (lives : dest.endpoint = some endpoint)
    (routed : (scene.whole line).network.route endpoint = some receiver)
    (listed : dest ∈ roster ∨ query = .ping) (short : query.Short) :
    ∃ reply later, scene.call (Cluster.carrier line) dest query = (.answered reply, later) ∧
      later.Honest line roster ∧ reply.Short ∧ (∀ contact ∈ named reply, contact ∈ roster) ∧
      responder endpoint dest reply ∈ roster ∧
      (receiver ≠ line → Asked line receiver query reply scene later) := by
  have tagged := honest_map honest (fun node => { node with lastTag := scene.node.lastTag + 1 })
    rfl (Node.tag_sane (sane_acting honest) _)
  obtain ⟨peer, reply, carried, there, answered, served⟩ := carrier_answers
    ⟨scene.node.lastTag + 1, scene.node.contact, query⟩ tagged rfl short routed
  have known : peer.contact ∈ roster := by
    rw [← tagged.roster]
    exact Cluster.mem_roster served.found
  have heard := responder_listed listed known there served.replied
  obtain ⟨welcomed, taken, saneAfter, hears⟩ :=
    Node.welcome_sane (sane_acting served.honest) carried.clock heard
  exact ⟨reply, carried.mapNode fun _ => welcomed, call_answered lives answered taken,
    honest_map served.honest _ (Node.alike_contact hears.toAlike) saneAfter, served.short,
    served.named, heard, asked_of_served honest.inside served hears.toAlike⟩

/-- Whatever becomes of a call, the cluster stays honest. -/
theorem call_keeps {dest : Contact} {query : Query} (honest : scene.Honest line roster)
    (listed : dest ∈ roster ∨ query = .ping) (short : query.Short) :
    (scene.call (Cluster.carrier line) dest query).2.Honest line roster ∧
      ∀ reply, (scene.call (Cluster.carrier line) dest query).1 = .answered reply →
        reply.Short ∧ (∀ contact ∈ named reply, contact ∈ roster) ∧
          ∀ endpoint, dest.endpoint = some endpoint → responder endpoint dest reply ∈ roster := by
  cases lives : dest.endpoint with
  | none =>
      unfold call
      rw [lives]
      exact ⟨honest, nofun⟩
  | some endpoint =>
      cases routed : (scene.whole line).network.route endpoint with
      | some receiver =>
          obtain ⟨reply, later, called, after, shortReply, inRoster, heard, _⟩ :=
            call_answers honest lives routed listed short
          rw [called]
          refine ⟨after, ?_⟩
          intro other same
          obtain rfl := Called.answered.inj same
          refine ⟨shortReply, inRoster, ?_⟩
          intro place there
          rw [← Option.some.inj there]
          exact heard
      | none =>
          have tagged := honest_map honest
            (fun node => { node with lastTag := scene.node.lastTag + 1 }) rfl
            (Node.tag_sane (sane_acting honest) _)
          obtain ⟨failure, carried, refused, after, _⟩ := carrier_unrouted
            ⟨scene.node.lastTag + 1, scene.node.contact, query⟩ tagged routed
          unfold call
          simp only [lives, refused]
          exact ⟨honest_map after _ rfl (Node.forget_sane (sane_acting after) dest.id), nofun⟩

end Scene
end XorOverlay
