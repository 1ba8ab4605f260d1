import Mathlib
import XorOverlay.Exchange.Network
import XorOverlay.Proofs.Wire.Carried

/-!
Sending over the network. Who waits on a line changes with every request; the lines, their
endpoints and the bindings do not. A request that can be written, to an endpoint that is bound, is
served there as it was sent, and its response comes back to the caller.
-/

namespace XorOverlay

set_option autoImplicit false

namespace Pending

/-- A caller that has just registered gets the next response under its tag. -/
theorem outcome_registered (pending : Pending) (tag : Tag) {response : Response}
    (answers : response.tag = tag) :
    ((pending.register tag).2.complete response).2.outcome (pending.register tag).1 =
      .ok response := by
  subst answers
  unfold register complete
  simp only [List.lookup_cons, beq_self_eq_true]
  unfold outcome mailbox deliverTo
  simp only [List.map_cons, if_true, List.lookup_cons, beq_self_eq_true, Option.getD_some]

end Pending

namespace Network

/-- The same lines on the same endpoints, whoever waits on them. -/
structure SameLines (first second : Network) : Prop where
  bindings : first.bindings = second.bindings
  endpoints : first.lines.map Line.endpoint = second.lines.map Line.endpoint

theorem same_lines_refl (network : Network) : network.SameLines network :=
  ⟨rfl, rfl⟩

theorem same_lines_trans {first second third : Network} (early : first.SameLines second)
    (late : second.SameLines third) : first.SameLines third :=
  ⟨early.bindings.trans late.bindings, early.endpoints.trans late.endpoints⟩

theorem length_lines {first second : Network} (same : first.SameLines second) :
    first.lines.length = second.lines.length := by
  have count := congrArg List.length same.endpoints
  rw [List.length_map, List.length_map] at count
  exact count

theorem route_congr {first second : Network} (same : first.SameLines second)
    (endpoint : Endpoint) : first.route endpoint = second.route endpoint := by
  unfold route
  rw [same.bindings]

theorem endpoint_congr {first second : Network} (same : first.SameLines second) (line : Nat) :
    first.endpoint? line = second.endpoint? line := by
  unfold endpoint?
  rw [← List.getElem?_map, ← List.getElem?_map, same.endpoints]

theorem map_pending_same (line : Nat) (change : Pending → Pending) (network : Network) :
    (network.mapPending line change).SameLines network := by
  refine ⟨rfl, ?_⟩
  unfold mapPending
  apply List.ext_getElem?
  intro place
  rw [List.getElem?_map, List.getElem?_map, List.getElem?_modify]
  cases network.lines[place]? with
  | none => rfl
  | some held =>
      change some (if line = place then _ else _ : Line).endpoint = some held.endpoint
      by_cases here : line = place
      · rw [if_pos here]
      · rw [if_neg here]

theorem line_of_endpoint {line : Nat} {source : Endpoint} {network : Network}
    (attached : network.endpoint? line = some source) :
    ∃ held, network.lines[line]? = some held ∧ held.endpoint = source := by
  unfold endpoint? at attached
  exact Option.map_eq_some_iff.mp attached

theorem deliver_eq {message : Message} {packet : Octets} {dest : Endpoint} {line : Nat}
    {network : Network} (written : Wire.encode message = .ok packet)
    (routed : network.route dest = some line) :
    network.deliver message dest = .ok (packet, line) := by
  unfold deliver
  rw [written]
  simp only [routed]

theorem respond_eq {response : Response} {source : Endpoint} {line : Nat} {network : Network}
    (routed : network.route source = some line)
    (writable : ∀ peer ∈ (Message.response response).contacts, peer.Writable) :
    network.respond response source =
      .ok (network.mapPending line fun pending =>
        (pending.complete ⟨response.tag, response.reply.carried⟩).2) := by
  obtain ⟨packet, written, read⟩ := Wire.response_arrives response writable
  unfold respond
  rw [deliver_eq written routed]
  simp only [read]

/-- A request to a bound endpoint is served there, and its response comes back. -/
theorem send_answered {γ : Type} {serve : Serve γ} {line receiver : Nat} {request : Request}
    {source dest : Endpoint} {network : Network} {server served : γ} {reply : Reply}
    (attached : network.endpoint? line = some source)
    (back : network.route source = some line)
    (routed : network.route dest = some receiver)
    (short : request.query.Short) (writable : request.sender.Writable)
    (serves : serve server receiver source request = ([⟨request.tag, reply⟩], served))
    (writableReply : ∀ peer ∈ (Message.response ⟨request.tag, reply⟩).contacts, peer.Writable) :
    ∃ later, network.send serve line request dest server =
        (.ok ⟨request.tag, reply.carried⟩, later, served) ∧ later.SameLines network := by
  obtain ⟨held, stands, _⟩ := line_of_endpoint attached
  obtain ⟨packet, written, read⟩ := @Wire.arrives (.request request) short
    (fun peer listed => (List.mem_singleton.mp listed) ▸ writable)
  have waits := map_pending_same line (fun pending => (pending.register request.tag).2) network
  have answered := map_pending_same line
    (fun pending => (pending.complete ⟨request.tag, reply.carried⟩).2)
    (network.mapPending line fun pending => (pending.register request.tag).2)
  have done : ((network.mapPending line fun pending => (pending.register request.tag).2).mapPending
      line fun pending => (pending.complete ⟨request.tag, reply.carried⟩).2).lines[line]? =
      some { held with
        pending := ((held.pending.register request.tag).2.complete
          ⟨request.tag, reply.carried⟩).2 } := by
    simp only [mapPending, List.getElem?_modify, stands, if_true]
    rfl
  have sent : (network.mapPending line fun pending => (pending.register request.tag).2).transmit
      serve line request dest server =
      .ok ((network.mapPending line fun pending => (pending.register request.tag).2).mapPending line
        fun pending => (pending.complete ⟨request.tag, reply.carried⟩).2, served) := by
    unfold transmit
    rw [endpoint_congr waits, attached, deliver_eq written ((route_congr waits dest).trans routed)]
    simp only [read, serves, respondAll, List.foldl_cons, List.foldl_nil,
      respond_eq ((route_congr waits source).trans back) writableReply]
  refine ⟨_, ?_, same_lines_trans (map_pending_same line
    (fun pending => (pending.finish (held.pending.register request.tag).1 request.tag).2) _)
    (same_lines_trans answered waits)⟩
  unfold send register
  simp only [stands, sent, finish, done]
  rw [Pending.outcome_registered held.pending request.tag rfl]

/-- A request to an endpoint that is not bound fails, and nobody sees it. -/
theorem send_unrouted {γ : Type} (serve : Serve γ) (line : Nat) (request : Request)
    {dest : Endpoint} {network : Network} (server : γ) (unrouted : network.route dest = none) :
    ∃ failure later, network.send serve line request dest server = (.error failure, later, server) ∧
      later.SameLines network := by
  have waits : (network.register line request.tag).2.SameLines network := by
    unfold register
    cases network.lines[line]? with
    | some held =>
        exact map_pending_same line (fun pending => (pending.register request.tag).2) network
    | none => exact same_lines_refl network
  obtain ⟨failure, refused⟩ : ∃ failure,
      (network.register line request.tag).2.deliver (.request request) dest =
        .error failure := by
    unfold deliver
    rw [route_congr waits, unrouted]
    cases Wire.encode (.request request) with
    | error failure => exact ⟨failure, rfl⟩
    | ok packet => exact ⟨_, rfl⟩
  refine ⟨failure, _, ?_, same_lines_trans (map_pending_same line
    (fun pending => pending.withdraw (network.register line request.tag).1 request.tag) _) waits⟩
  unfold send transmit
  simp only [refused]
  rfl

end Network
end XorOverlay
