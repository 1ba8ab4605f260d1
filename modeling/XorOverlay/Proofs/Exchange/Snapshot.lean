import Mathlib
import XorOverlay.Proofs.Exchange.History

/-!
Searches as they would go in a cluster that stands still. The peers a node asks in the course of a
search hear from it and may take it in, but what they tell it stays the same, because they never
tell a node about itself. A search therefore finds what the same search finds when every peer
answers out of the cluster as it was in the beginning.
-/

namespace XorOverlay

set_option autoImplicit false

namespace Cluster

/-- What a contact would reply to a requester out of the cluster as it is. -/
def reply? (requester : Ident) (query : Query) (cluster : Cluster) (dest : Contact) :
    Option Reply :=
  (dest.endpoint.bind cluster.network.route).bind fun line =>
    (cluster.nodes[line]?).bind fun node => (node.reply cluster.clock requester query).1

def probe {α : Type} (requester : Ident) (query : Query) (choose : Reply → Option α)
    (cluster : Cluster) : Lookup.Ask Unit α := fun _ dests =>
  (dests.map fun dest => (dest, (cluster.reply? requester query dest).bind choose), ())

end Cluster

namespace Scene

/-- In the course of a search of one node the others have heard from it, and that is all that
happened to them. -/
structure Still (line : Nat) (start : Cluster) (asker : Node) (scene : Scene Cluster) : Prop where
  honest : scene.Honest line start.roster
  alike : Node.Alike asker scene.node
  peers : ∀ place peer, place ≠ line → start.nodes[place]? = some peer →
    ∃ now, (scene.whole line).nodes[place]? = some now ∧ Node.Hears asker.id peer now
  lines : (scene.whole line).network.SameLines start.network

variable {line : Nat} {start : Cluster} {asker : Node} {scene : Scene Cluster}

theorem still_start (honest : start.Honest) (stands : start.nodes[line]? = some asker) :
    Still line start asker ⟨asker, start.clock, start⟩ := by
  obtain ⟨same, good⟩ := Cluster.scene_honest honest stands
  refine ⟨good, ⟨rfl, rfl, rfl, rfl, rfl⟩, ?_, ?_⟩
  · intro place peer _ found
    rw [same]
    exact ⟨peer, found, Node.hears_refl _ _⟩
  · rw [same]
    exact Network.same_lines_refl _

/-- A node of the cluster that may be asked: any but the asker. -/
def Foreign (start : Cluster) (asker : Node) (dest : Contact) : Prop :=
  dest ∈ start.roster ∧ dest.id ≠ asker.id

theorem foreign_line (honest : start.Honest) (stands : start.nodes[line]? = some asker)
    {dest : Contact} (foreign : Foreign start asker dest) :
    ∃ place peer, place ≠ line ∧ start.nodes[place]? = some peer ∧ dest = peer.contact ∧
      start.network.route peer.endpoint = some place := by
  obtain ⟨listed, apart⟩ := foreign
  obtain ⟨peer, member, rfl⟩ := List.mem_map.mp listed
  obtain ⟨place, found⟩ := List.mem_iff_getElem?.mp member
  refine ⟨place, peer, ?_, found, rfl, (honest.attached place peer found).2.1⟩
  rintro rfl
  rw [stands] at found
  exact apart (congrArg Node.id (Option.some.inj found).symm)

/-- A query that leaves nothing behind is answered out of the beginning, and leaves the cluster
still. -/
theorem still_call (honest : start.Honest) (stands : start.nodes[line]? = some asker)
    (still : Still line start asker scene) {dest : Contact} (foreign : Foreign start asker dest)
    {query : Query} (short : query.Short) (quiet : ∀ node : Node, node.answered query = node) :
    ∃ reply later, scene.call (Cluster.carrier line) dest query = (.answered reply, later) ∧
      Still line start asker later ∧ start.reply? asker.id query dest = some reply ∧
      reply.Short ∧ ∀ contact ∈ named reply, contact ∈ start.roster := by
  obtain ⟨place, peer, apart, found, rfl, routed⟩ := foreign_line honest stands foreign
  obtain ⟨now, standsNow, heardNow⟩ := still.peers place peer apart found
  have routedNow : (scene.whole line).network.route peer.endpoint = some place :=
    (Network.route_congr still.lines _).trans routed
  obtain ⟨reply, later, called, good, shortReply, inRoster, _, asks⟩ :=
    call_answers still.honest rfl routedNow (Or.inl foreign.1) short
  have asked := asks apart
  obtain ⟨replied, heard, hears, standsLater⟩ := asked.asked now standsNow
  rw [still.alike.id] at replied hears
  -- The peer may have taken the asker in since the beginning; its reply leaves the asker out.
  have saneNow := Cluster.sane_at still.honest.whole standsNow
  rw [still.honest.roster] at saneNow
  refine ⟨reply, later, called, ?_, ?_, shortReply, inRoster⟩
  · refine ⟨good, Node.alike_trans still.alike asked.asker, ?_,
      Network.same_lines_trans asked.lines still.lines⟩
    intro other known notAsker there
    by_cases same : other = place
    · subst same
      rw [found] at there
      obtain rfl := Option.some.inj there
      refine ⟨heard, ?_, Node.hears_trans heardNow hears⟩
      rw [standsLater, quiet]
    · rw [asked.others other notAsker same]
      exact still.peers other known notAsker there
  · unfold Cluster.reply?
    rw [show peer.contact.endpoint = some peer.endpoint from rfl, Option.bind_some, routed,
      Option.bind_some, found, Option.bind_some, honest.still,
      ← Node.reply_heard (Cluster.sane_at honest found) saneNow heardNow, replied]

/-- A kind of call: one query is sent, and a part of the reply is picked. -/
structure Asks {α : Type} (line : Nat) (query : Query) (choose : Reply → Option α)
    (call : Contact → Scene Cluster → Called α × Scene Cluster) : Prop where
  runs : ∀ dest scene, call dest scene =
    ((scene.call (Cluster.carrier line) dest query).1.pick choose,
      (scene.call (Cluster.carrier line) dest query).2)
  quiet : ∀ node : Node, node.answered query = node
  short : query.Short

theorem asks_nodes (line : Nat) (target : Ident) :
    Asks line (.findNode target) Reply.contacts? (findNode (Cluster.carrier line) target) :=
  ⟨fun _ _ => rfl, fun _ => rfl, trivial⟩

theorem asks_value (line : Nat) (key : Ident) :
    Asks line (.findValue key.octets) Reply.finding? (findValue (Cluster.carrier line) key) :=
  ⟨fun _ _ => rfl, fun _ => rfl, key.short_octets⟩

variable {α : Type} {query : Query} {choose : Reply → Option α}
  {call : Contact → Scene Cluster → Called α × Scene Cluster}

/-- Calls to other nodes bring what the cluster would have answered in the beginning. -/
theorem still_each (honest : start.Honest) (stands : start.nodes[line]? = some asker)
    (asks : Asks line query choose call) {dests : List Contact}
    (foreign : ∀ dest ∈ dests, Foreign start asker dest) (still : Still line start asker scene) :
    (each call dests scene).1 = (start.probe asker.id query choose () dests).1 ∧
      Still line start asker (each call dests scene).2 := by
  induction dests generalizing scene with
  | nil => exact ⟨rfl, still⟩
  | cons dest dests ih =>
      rw [List.forall_mem_cons] at foreign
      obtain ⟨reply, later, called, stillLater, told, _⟩ :=
        still_call honest stands still foreign.1 asks.short asks.quiet
      obtain ⟨same, last⟩ := ih foreign.2 stillLater
      have made : call dest scene = (Called.pick choose (.answered reply), later) := by
        rw [asks.runs, called]
      have first : (start.reply? asker.id query dest).bind choose = choose reply := by
        rw [told, Option.bind_some]
      unfold Cluster.probe at same ⊢
      rw [each, made, List.map_cons, first]
      cases chosen : choose reply with
      | none =>
          simp only [Called.pick, chosen]
          exact ⟨congrArg (List.cons (dest, none)) same, last⟩
      | some value =>
          simp only [Called.pick, chosen]
          exact ⟨congrArg (List.cons (dest, some value)) same, last⟩

theorem still_agrees (honest : start.Honest) (stands : start.nodes[line]? = some asker)
    (asks : Asks line query choose call) (fine : α → Prop)
    (chosen : ∀ reply value, reply.Short → (∀ contact ∈ named reply, contact ∈ start.roster) →
      choose reply = some value → fine value) :
    Lookup.Agree (Foreign start asker) fine
      (fun scene (_ : Unit) => Still line start asker scene)
      (fun scene probes => each call probes scene) (start.probe asker.id query choose) := by
  refine ⟨?_, ?_, ?_⟩
  · intro scene _ probes still foreign
    exact (still_each honest stands asks foreign still).1
  · intro scene _ probes still foreign
    exact (still_each honest stands asks foreign still).2
  · intro scene _ probes still foreign
    refine (each_keeps (Still line start asker) (Foreign start asker) (fun _ => fine) ?_ foreign
      still).2
    intro dest scene good known
    obtain ⟨reply, later, called, stillLater, _, short, inRoster⟩ :=
      still_call honest stands good known asks.short asks.quiet
    rw [asks.runs, called]
    refine ⟨stillLater, ?_⟩
    intro value answered
    obtain ⟨brought, same, picked⟩ := picked_answered
      (show Called.pick choose (.answered reply) = .answered value from answered)
    obtain rfl := Called.answered.inj same
    exact chosen reply value short inRoster picked

/-- A search for contacts finds what it would find in the beginning. -/
theorem lookup_still (honest : start.Honest) (stands : start.nodes[line]? = some asker)
    (still : Still line start asker scene) (target : Ident) {seeds : List Contact}
    (foreign : ∀ seed ∈ seeds, Foreign start asker seed) :
    (scene.lookup (Cluster.carrier line) target seeds).1 =
        (Lookup.findNodes asker.id
          (start.probe asker.id (.findNode target) Reply.contacts?) target asker.width
          asker.parallelism seeds ()).1 ∧
      Still line start asker (scene.lookup (Cluster.carrier line) target seeds).2 ∧
      ∀ contact ∈ (scene.lookup (Cluster.carrier line) target seeds).1,
        Foreign start asker contact := by
  have agree := still_agrees honest stands (asks_nodes line target)
    (Lookup.NodeSearch.Fine asker.id (Foreign start asker)) ?_
  · obtain ⟨same, last, found⟩ := Lookup.NodeSearch.find_nodes_agree agree target asker.width
      asker.parallelism foreign scene () still
    unfold lookup
    rw [still.alike.id, still.alike.width, still.alike.parallelism]
    exact ⟨same, last, found⟩
  · intro reply value _ inRoster chosen contact listed apart
    obtain rfl := Reply.eq_of_contacts chosen
    exact ⟨inRoster contact listed, apart⟩

theorem lookup_value_still (honest : start.Honest) (stands : start.nodes[line]? = some asker)
    (still : Still line start asker scene) (key : Ident) {seeds : List Contact}
    (foreign : ∀ seed ∈ seeds, Foreign start asker seed) :
    (scene.lookupValue (Cluster.carrier line) key seeds).1 =
      (Lookup.findValue asker.id
        (start.probe asker.id (.findValue key.octets) Reply.finding?) key asker.width
        asker.parallelism seeds ()).1.map Lookup.Hit.value := by
  have agree := still_agrees honest stands (asks_value line key)
    (Lookup.ValueSearch.Fine asker.id (Foreign start asker) fun _ => True) ?_
  · obtain ⟨same, _⟩ := Lookup.ValueSearch.find_value_agree agree key asker.width
      asker.parallelism foreign scene () still
    unfold lookupValue
    rw [still.alike.id, still.alike.width, still.alike.parallelism, ← same]
    generalize Lookup.findValue asker.id _ key _ _ seeds scene = result
    obtain ⟨_ | ⟨value, _ | peer⟩, last⟩ := result
    · rfl
    · rfl
    · rfl
  · intro reply value _ inRoster chosen
    obtain ⟨found, rfl, rfl⟩ | ⟨contacts, rfl, rfl⟩ := Reply.eq_of_finding chosen
    · trivial
    · exact fun contact listed apart => ⟨inRoster contact listed, apart⟩

end Scene
end XorOverlay
