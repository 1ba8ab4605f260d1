import Mathlib
import XorOverlay.Proofs.Node.Requests
import XorOverlay.Proofs.Routing.Acquaintance
import XorOverlay.Proofs.Routing.Closest
import XorOverlay.Proofs.Wire.Language

/-!
Nodes that know nobody the wire has no room for. A peer is welcomed under the endpoint its packet
came from, or as an answer named it, so a node that hears from IPv4 endpoints only never has a contact
that cannot be written, live or parked, and no errand to one. Such a node can write every answer it
has, and the answer is of the kind that was asked for.
-/

namespace XorOverlay

set_option autoImplicit false

namespace Node

/-- Every contact of the node can be written. -/
structure Presentable (node : Node) : Prop where
  table : node.table.Sound
  known : ∀ contact, node.table.Holds contact → contact.Writable
  errands : ∀ errand ∈ node.errands, errand.dest.Writable

variable {node : Node}

theorem start_presentable (settings : Settings) (id : Ident) (endpoint : Endpoint) (store : Store)
    (now : Nanoseconds) : (start settings id endpoint store now).Presentable where
  table := Table.empty_sound id settings.width now
  known := fun contact held => (Table.not_holds_empty id settings.width now contact held).elim
  errands := fun _ due => (List.not_mem_nil due).elim

theorem welcome_presentable (presentable : node.Presentable) {now : Nanoseconds} {peer : Contact}
    (writable : peer.Writable) {welcomed : Node}
    (taken : node.welcome? now peer = some welcomed) : welcomed.Presentable := by
  have sound := Table.add_sound presentable.table now peer
  have known : ∀ contact, (node.table.add now peer).1.Holds contact → contact.Writable := by
    intro contact held
    rcases Table.holds_add presentable.table now held with old | rfl
    · exact presentable.known contact old
    · exact writable
  rcases welcome_cases taken with rfl | ⟨pushed, _, rfl⟩
  · exact presentable
  · refine ⟨sound, known, ?_⟩
    intro errand due
    rcases List.mem_append.mp due with old | new
    · exact presentable.errands errand old
    · obtain ⟨entry, _, rfl⟩ := List.mem_map.mp new
      exact writable

theorem forget_presentable (presentable : node.Presentable) (id : Ident) :
    (node.forget id).Presentable where
  table := Table.remove_sound presentable.table id
  known := fun contact held =>
    presentable.known contact (Table.holds_remove presentable.table id held)
  errands := presentable.errands

theorem closest_writable (presentable : node.Presentable) (target : Ident) (count : Nat)
    (except : Option Ident) :
    ∀ contact ∈ node.table.closest target count except, contact.Writable :=
  fun contact near => presentable.known contact (Table.holds_of_live (Table.mem_closest near).1)

theorem near_writable (presentable : node.Presentable) (target : Ident) (count : Nat) :
    ∀ contact ∈ node.neighbours target count, contact.Writable := by
  intro contact near
  rw [neighbours_eq] at near
  split_ifs at near
  · exact closest_writable presentable target count none contact near
  · exact (List.not_mem_nil near).elim

theorem offered_writable (presentable : node.Presentable) {target requester : Ident}
    {contacts : List Contact} (offered : node.offered? target requester = some contacts) :
    ∀ contact ∈ contacts, contact.Writable := by
  unfold offered? at offered
  split_ifs at offered
  obtain rfl := Option.some.inj offered
  exact closest_writable presentable target node.width (some requester)

/-- An answer is of the kind that was asked for, and names none but contacts of the node. -/
theorem replies_writable (presentable : node.Presentable) {now : Nanoseconds} {requester : Ident}
    {query : Query} {reply : Reply} (replies : node.Replies now requester query reply)
    (tag : Tag) :
    (∀ peer ∈ (Message.response ⟨tag, reply⟩).contacts, peer.Writable) ∧
      Wire.replyKind reply = Wire.queryKind query + 0x10 := by
  have nobody : ∀ peer ∈ ([] : List Contact), peer.Writable :=
    fun _ none => (List.not_mem_nil none).elim
  cases replies with
  | pong => exact ⟨nobody, rfl⟩
  | stored key value => exact ⟨nobody, rfl⟩
  | nodes offered => exact ⟨offered_writable presentable offered, rfl⟩
  | found read => exact ⟨nobody, rfl⟩
  | closest read parsed offered => exact ⟨offered_writable presentable offered, rfl⟩
  | nowhere read parsed => exact ⟨nobody, rfl⟩

/-- Hearing a request from an IPv4 endpoint leaves a node presentable. -/
theorem handle_presentable (presentable : node.Presentable) (now : Nanoseconds) (host : UInt32)
    (port : UInt16) (request : Request) :
    (node.handle now (.v4 host port) request).2.Presentable := by
  unfold handle
  cases taken : node.welcome? now ⟨request.sender.id, some (.v4 host port)⟩ with
  | none => exact presentable
  | some welcomed =>
      have after := welcome_presentable presentable ⟨host, port, rfl⟩ taken
      obtain ⟨store, left⟩ := reply_store now request.sender.id request.query welcomed
      show (welcomed.reply now request.sender.id request.query).2.Presentable
      rw [left]
      exact { after with }

/-- A presentable node can write every answer it has to a request from an IPv4 endpoint. -/
theorem handle_writable (presentable : node.Presentable) {now : Nanoseconds} {host : UInt32}
    {port : UInt16} {request : Request} {response : Response}
    (handled : (node.handle now (.v4 host port) request).1 = some response) :
    response.tag = request.tag ∧
      (∀ peer ∈ (Message.response response).contacts, peer.Writable) ∧
      Wire.replyKind response.reply = Wire.queryKind request.query + 0x10 := by
  unfold handle at handled
  cases taken : node.welcome? now ⟨request.sender.id, some (.v4 host port)⟩ with
  | none =>
      rw [taken] at handled
      cases handled
  | some welcomed =>
      rw [taken] at handled
      obtain ⟨reply, replied, rfl⟩ := Option.map_eq_some_iff.mp handled
      have after := welcome_presentable presentable ⟨host, port, rfl⟩ taken
      exact ⟨rfl, replies_writable after (replies_of_reply replied) request.tag⟩

end Node
end XorOverlay
