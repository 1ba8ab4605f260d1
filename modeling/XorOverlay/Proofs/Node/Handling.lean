import Mathlib
import XorOverlay.Proofs.Node.Requests
import XorOverlay.Proofs.Routing.Acquaintance
import XorOverlay.Proofs.Routing.Closest
import XorOverlay.Proofs.Store.Still
import XorOverlay.Proofs.Wire.RoundTrip

/-!
How a node among honest peers handles what it hears while the clock stands still. It is in good
order if it knows none but the peers of a roster and holds nothing that the wire has no room for.
Such a node takes in every peer of the roster, answers every query, and stays in good order; what it
answers to a peer does not depend on whether it has taken that peer in.
-/

namespace XorOverlay

set_option autoImplicit false

namespace Node

/-- In good order among the peers of a roster. -/
structure Sane (roster : List Contact) (node : Node) : Prop where
  active : node.active = true
  unlimited : node.room = none
  narrow : node.width < 2 ^ 32
  table : node.table.Sound
  owner : node.table.owner = node.id
  known : ∀ contact, node.table.Holds contact → contact ∈ roster
  store : node.store.Slim
  errands : ∀ errand ∈ node.errands,
    errand.dest ∈ roster ∧ errand.key.Short ∧ errand.value.Short

/-- The same node with the same contents of its store, whatever it knows and has yet to do. -/
structure Alike (before after : Node) : Prop where
  id : after.id = before.id
  endpoint : after.endpoint = before.endpoint
  width : after.width = before.width
  parallelism : after.parallelism = before.parallelism
  store : after.store = before.store

/-- A node before and after a peer was heard from: nothing that the peer could be told has
changed. -/
structure Hears (peer : Ident) (before after : Node) : Prop extends Alike before after where
  others : (after.table.live.filter fun known => known.id != peer).Perm
    (before.table.live.filter fun known => known.id != peer)

variable {roster : List Contact} {node : Node}

theorem alike_trans {first second third : Node} (early : Alike first second)
    (late : Alike second third) : Alike first third :=
  ⟨late.id.trans early.id, late.endpoint.trans early.endpoint, late.width.trans early.width,
    late.parallelism.trans early.parallelism, late.store.trans early.store⟩

theorem alike_contact {before after : Node} (alike : Alike before after) :
    after.contact = before.contact := by
  unfold contact
  rw [alike.id, alike.endpoint]

theorem hears_refl (peer : Ident) (node : Node) : Hears peer node node :=
  ⟨⟨rfl, rfl, rfl, rfl, rfl⟩, List.Perm.refl _⟩

theorem hears_trans {peer : Ident} {first second third : Node} (early : Hears peer first second)
    (late : Hears peer second third) : Hears peer first third :=
  ⟨alike_trans early.toAlike late.toAlike, late.others.trans early.others⟩

theorem can_gather (sane : node.Sane roster) (count : Nat) : node.canGather count = true := by
  unfold canGather
  rw [sane.unlimited]

theorem sane_mono {larger : List Contact} (grows : roster ⊆ larger) (sane : node.Sane roster) :
    node.Sane larger :=
  { sane with
    known := fun contact held => grows (sane.known contact held)
    errands := fun errand due => ⟨grows (sane.errands errand due).1, (sane.errands errand due).2⟩ }

theorem start_sane (settings : Settings) (id : Ident) (endpoint : Endpoint) {store : Store}
    (now : Nanoseconds) (unlimited : settings.room = none) (narrow : settings.width < 2 ^ 32)
    (slim : store.Slim) : (start settings id endpoint store now).Sane roster where
  active := rfl
  unlimited := unlimited
  narrow := narrow
  table := Table.empty_sound id settings.width now
  owner := rfl
  known := fun contact held => (Table.not_holds_empty id settings.width now contact held).elim
  store := slim
  errands := fun _ due => (List.not_mem_nil due).elim

theorem add_sane (sane : node.Sane roster) (now : Nanoseconds) {peer : Contact}
    (listed : peer ∈ roster) :
    Sane roster { node with table := (node.table.add now peer).1 } where
  active := sane.active
  unlimited := sane.unlimited
  narrow := sane.narrow
  table := Table.add_sound sane.table now peer
  owner := (Table.add_owner now peer node.table).1.trans sane.owner
  known := by
    intro contact held
    rcases Table.holds_add sane.table now held with old | rfl
    · exact sane.known contact old
    · exact listed
  store := sane.store
  errands := sane.errands

theorem welcome_sane (sane : node.Sane roster) (now : Nanoseconds) {peer : Contact}
    (listed : peer ∈ roster) :
    ∃ welcomed, node.welcome? now peer = some welcomed ∧ welcomed.Sane roster ∧
      Hears peer.id node welcomed := by
  have added := add_sane sane now listed
  have heard : Hears peer.id node { node with table := (node.table.add now peer).1 } :=
    ⟨⟨rfl, rfl, rfl, rfl, rfl⟩, Table.add_others sane.table now peer⟩
  obtain ⟨welcomed, taken⟩ := Option.isSome_iff_exists.mp
    ((welcome_is_some_iff node now peer).mpr (Or.inl (can_gather sane node.width)))
  refine ⟨welcomed, taken, ?_⟩
  rcases welcome_cases taken with rfl | ⟨pushed, stored, rfl⟩
  · exact ⟨sane, hears_refl peer.id welcomed⟩
  · refine ⟨{ added with errands := ?_ }, { heard with }⟩
    intro errand due
    rcases List.mem_append.mp due with old | new
    · exact sane.errands errand old
    · obtain ⟨entry, chosen, rfl⟩ := List.mem_map.mp new
      exact ⟨listed, Store.contents_short sane.store now entry (stored chosen)⟩

theorem forget_sane (sane : node.Sane roster) (id : Ident) : (node.forget id).Sane roster :=
  { sane with
    table := Table.remove_sound sane.table id
    owner := sane.owner
    known := fun contact held => sane.known contact (Table.holds_remove sane.table id held) }

theorem keep_sane (sane : node.Sane roster) (now : Nanoseconds) {key value : Octets}
    (shortKey : key.Short) (shortValue : value.Short) : (node.keep now key value).Sane roster :=
  { sane with store := Store.put_slim sane.store now shortKey shortValue }

theorem report_sane (sane : node.Sane roster) (now latency : Nanoseconds) (success : Bool) :
    (node.report now latency success).Sane roster :=
  ⟨sane.active, sane.unlimited, sane.narrow, sane.table, sane.owner, sane.known, sane.store,
    sane.errands⟩

theorem tag_sane (sane : node.Sane roster) (tag : Tag) :
    Sane roster { node with lastTag := tag } :=
  ⟨sane.active, sane.unlimited, sane.narrow, sane.table, sane.owner, sane.known, sane.store,
    sane.errands⟩

theorem errands_sane (sane : node.Sane roster) {errands : List Errand}
    (due : ∀ errand ∈ errands, errand.dest ∈ roster ∧ errand.key.Short ∧ errand.value.Short) :
    Sane roster { node with errands := errands } :=
  ⟨sane.active, sane.unlimited, sane.narrow, sane.table, sane.owner, sane.known, sane.store, due⟩

theorem cull_sane (sane : node.Sane roster) (now : Nanoseconds) :
    Sane roster { node with store := node.store.cull now } :=
  ⟨sane.active, sane.unlimited, sane.narrow, sane.table, sane.owner, sane.known,
    Store.cull_slim sane.store now, sane.errands⟩

theorem offered_eq (sane : node.Sane roster) (target requester : Ident) :
    node.offered? target requester =
      some (node.table.closest target node.width (some requester)) := by
  unfold offered?
  rw [can_gather sane, if_pos rfl]

theorem offered_heard {requester : Ident} {after : Node} (sane : node.Sane roster)
    (saneAfter : after.Sane roster) (heard : Hears requester node after) (target : Ident) :
    after.offered? target requester = node.offered? target requester := by
  rw [offered_eq sane, offered_eq saneAfter, heard.width]
  refine congrArg some (Table.closest_perm saneAfter.table ?_ node.width)
  have apart : ∀ table : Table, table.eligible target (some requester) =
      (table.live.filter fun known => known.id != requester).filter
        fun known => known.id != target := by
    intro table
    rw [List.filter_filter]
    unfold Table.eligible
    congr
  rw [apart, apart]
  exact heard.others.filter _

/-- What a node holds after it answered a query: a value that was sent to it is kept. -/
def answered (query : Query) (node : Node) : Node :=
  match query with
  | .store key value => node.keep 0 key value
  | _ => node

/-- Every query is answered, and with peers of the roster only. -/
theorem reply_sane (sane : node.Sane roster) (requester : Ident) {query : Query}
    (short : query.Short) :
    ∃ reply, node.reply 0 requester query = (some reply, node.answered query) ∧ reply.Short ∧
      (∀ tag, ∀ peer ∈ (Message.response ⟨tag, reply⟩).contacts, peer ∈ roster) ∧
      (node.answered query).Sane roster := by
  have listed : ∀ target, ∀ peer ∈ node.table.closest target node.width (some requester),
      peer ∈ roster :=
    fun target peer chosen => sane.known peer (Table.holds_of_live (Table.mem_closest chosen).1)
  have few : ∀ target,
      (node.table.closest target node.width (some requester)).length < 2 ^ 32 :=
    fun target => (Table.length_closest _ _ _ _).trans_lt sane.narrow
  cases query with
  | ping => exact ⟨_, rfl, trivial, fun _ _ none => (List.not_mem_nil none).elim, sane⟩
  | store key value =>
      exact ⟨_, rfl, trivial, fun _ _ none => (List.not_mem_nil none).elim,
        keep_sane sane 0 short.1 short.2⟩
  | findNode target =>
      refine ⟨.nodes (node.table.closest target node.width (some requester)), ?_, few target,
        fun _ => listed target, sane⟩
      rw [reply, offered_eq sane]
      rfl
  | findValue key =>
      have same := Store.get_unchanged sane.store key
      have unread : { node with store := (node.store.get 0 key).2 } = node := by
        rw [same]
      unfold reply answered
      simp only [unread]
      cases found : (node.store.get 0 key).1 with
      | some value =>
          exact ⟨_, rfl, Store.get_short sane.store found,
            fun _ _ none => (List.not_mem_nil none).elim, sane⟩
      | none =>
          cases Ident.ofOctets key with
          | error failure =>
              exact ⟨_, rfl, Nat.two_pow_pos 32, fun _ _ none => (List.not_mem_nil none).elim,
                sane⟩
          | ok target =>
              simp only [offered_eq sane]
              exact ⟨_, rfl, few target, fun _ => listed target, sane⟩

/-- What is answered to a requester does not depend on whether it is known. -/
theorem reply_heard {requester : Ident} {after : Node} (sane : node.Sane roster)
    (saneAfter : after.Sane roster) (heard : Hears requester node after) (query : Query) :
    (after.reply 0 requester query).1 = (node.reply 0 requester query).1 := by
  cases query with
  | ping =>
      show some (Reply.pong after.id) = some (Reply.pong node.id)
      rw [heard.id]
  | store key value => rfl
  | findNode target =>
      show (after.offered? target requester).map _ = (node.offered? target requester).map _
      rw [offered_heard sane saneAfter heard]
  | findValue key =>
      simp only [reply, heard.store, offered_heard sane saneAfter heard]
      generalize node.store.get 0 key = read
      obtain ⟨_ | value, left⟩ := read
      · cases Ident.ofOctets key with
        | error failure => rfl
        | ok target => rfl
      · rfl

theorem handle_sane (sane : node.Sane roster) {source : Endpoint} {request : Request}
    (listed : ⟨request.sender.id, some source⟩ ∈ roster) (short : request.query.Short) :
    ∃ reply heard, node.handle 0 source request =
        (some ⟨request.tag, reply⟩, heard.answered request.query) ∧
      (node.reply 0 request.sender.id request.query).1 = some reply ∧ reply.Short ∧
      (∀ peer ∈ (Message.response ⟨request.tag, reply⟩).contacts, peer ∈ roster) ∧
      Hears request.sender.id node heard ∧ (heard.answered request.query).Sane roster := by
  obtain ⟨heard, taken, saneHeard, hears⟩ := welcome_sane sane 0 listed
  obtain ⟨reply, replied, shortReply, named, left⟩ :=
    reply_sane saneHeard request.sender.id short
  refine ⟨reply, heard, handle_of_reply taken replied, ?_, shortReply, named request.tag, hears,
    left⟩
  rw [← reply_heard sane saneHeard hears, replied]

/-- A pong names the node that gives it, and answers nothing but a ping. -/
theorem reply_names {requester : Ident} {query : Query} {reply : Reply}
    (replied : (node.reply 0 requester query).1 = some reply) :
    (∀ id, reply = .pong id → id = node.id) ∧ (query = .ping → ∃ id, reply = .pong id) := by
  cases replies_of_reply replied with
  | pong => exact ⟨fun id same => (Reply.pong.inj same).symm, fun _ => ⟨node.id, rfl⟩⟩
  | _ => exact ⟨nofun, nofun⟩

end Node
end XorOverlay
