import Mathlib
import XorOverlay.Node.State

/-!
What a request does to a node. Whoever is welcomed joins the table and may be due some of the stored
pairs, and answering changes nothing but the store. Contacts are gathered to decide what a newcomer is
due, and to name them in an answer: a request for which neither is done is answered by every node, any
other exactly by the nodes that have room to gather as many contacts as their lists are long.
-/

namespace XorOverlay

set_option autoImplicit false

namespace Node

variable {node : Node} {now : Nanoseconds}

section Welcoming

theorem handovers_stored {newcomer : Ident} {entries : List (Octets × Octets)}
    (handed : node.handovers? now newcomer = some entries) :
    entries ⊆ node.store.contents now := by
  unfold handovers? at handed
  dsimp only at handed
  split_ifs at handed
  obtain rfl := Option.some.inj handed
  exact fun entry chosen => List.mem_of_mem_filter chosen

/-- Who is not ignored joins the table, and stored pairs are due to it, or to nobody. -/
theorem welcome_cases {peer : Contact} {welcomed : Node}
    (taken : node.welcome? now peer = some welcomed) :
    welcomed = node ∨ ∃ pushed ⊆ node.store.contents now, welcomed =
      { node with
        table := (node.table.add now peer).1
        errands := node.errands ++ pushed.map fun entry => ⟨peer, entry.1, entry.2⟩ } := by
  unfold welcome? at taken
  dsimp only at taken
  split_ifs at taken
  · exact Or.inl (Option.some.inj taken).symm
  · refine Or.inr ⟨[], List.nil_subset _, ?_⟩
    rw [← Option.some.inj taken, List.map_nil, List.append_nil]
  · obtain ⟨entries, handed, rfl⟩ := Option.map_eq_some_iff.mp taken
    exact Or.inr ⟨entries, handovers_stored handed, rfl⟩

/-- Whoever is welcomed changes neither the store nor the room. -/
theorem welcome_spares {peer : Contact} {welcomed : Node}
    (taken : node.welcome? now peer = some welcomed) :
    welcomed.store = node.store ∧
      welcomed.canGather welcomed.width = node.canGather node.width := by
  rcases welcome_cases taken with rfl | ⟨pushed, _, rfl⟩
  · exact ⟨rfl, rfl⟩
  · exact ⟨rfl, rfl⟩

end Welcoming

section Answering

/-- A request is answered as the query in it is, once its sender has been welcomed. -/
theorem handle_of_reply {source : Endpoint} {request : Request} {welcomed after : Node}
    {reply : Reply} (taken : node.welcome? now ⟨request.sender.id, some source⟩ = some welcomed)
    (replied : welcomed.reply now request.sender.id request.query = (some reply, after)) :
    node.handle now source request = (some ⟨request.tag, reply⟩, after) := by
  unfold handle
  rw [taken]
  simp only [replied, Option.map_some]

/-- The answers a node has to the queries of a requester. -/
inductive Replies (node : Node) (now : Nanoseconds) (requester : Ident) : Query → Reply → Prop where
  | pong : Replies node now requester .ping (.pong node.id)
  | stored (key value : Octets) : Replies node now requester (.store key value) (.stored true)
  | nodes {target : Ident} {contacts : List Contact} :
      node.offered? target requester = some contacts →
      Replies node now requester (.findNode target) (.nodes contacts)
  | found {key value : Octets} : (node.store.get now key).1 = some value →
      Replies node now requester (.findValue key) (.found value)
  | closest {key : Octets} {target : Ident} {contacts : List Contact} :
      (node.store.get now key).1 = none → Ident.ofOctets key = .ok target →
      node.offered? target requester = some contacts →
      Replies node now requester (.findValue key) (.closest contacts)
  /-- No contact is close to a key that is no identifier. -/
  | nowhere {key : Octets} {failure : Failure} :
      (node.store.get now key).1 = none → Ident.ofOctets key = .error failure →
      Replies node now requester (.findValue key) (.closest [])

theorem replies_of_reply {requester : Ident} {query : Query} {answer : Reply}
    (replied : (node.reply now requester query).1 = some answer) :
    node.Replies now requester query answer := by
  cases query with
  | ping => exact Option.some.inj replied ▸ .pong
  | store key value => exact Option.some.inj replied ▸ .stored key value
  | findNode target =>
      obtain ⟨contacts, offered, rfl⟩ := Option.map_eq_some_iff.mp replied
      exact .nodes offered
  | findValue key =>
      unfold reply at replied
      dsimp only at replied
      cases read : (node.store.get now key).1 with
      | some value =>
          rw [read] at replied
          exact Option.some.inj replied ▸ .found read
      | none =>
          rw [read] at replied
          cases parsed : Ident.ofOctets key with
          | error failure =>
              rw [parsed] at replied
              exact Option.some.inj replied ▸ .nowhere read parsed
          | ok target =>
              rw [parsed] at replied
              obtain ⟨contacts, offered, rfl⟩ := Option.map_eq_some_iff.mp replied
              exact .closest read parsed offered

theorem reply_store (now : Nanoseconds) (requester : Ident) (query : Query) (node : Node) :
    ∃ store, (node.reply now requester query).2 = { node with store := store } := by
  cases query with
  | ping => exact ⟨node.store, rfl⟩
  | store key value => exact ⟨_, rfl⟩
  | findNode target => exact ⟨node.store, rfl⟩
  | findValue key =>
      refine ⟨(node.store.get now key).2, ?_⟩
      unfold reply
      dsimp only
      split
      · rfl
      · split
        · rfl
        · rfl

/-- The room a node has for contacts is not affected by requests. -/
theorem handle_room (now : Nanoseconds) (source : Endpoint) (request : Request) :
    (node.handle now source request).2.canGather (node.handle now source request).2.width =
      node.canGather node.width := by
  unfold handle
  cases taken : node.welcome? now ⟨request.sender.id, some source⟩ with
  | none => rfl
  | some welcomed =>
      obtain ⟨store, left⟩ := reply_store now request.sender.id request.query welcomed
      rw [← (welcome_spares taken).2]
      show (welcomed.reply now request.sender.id request.query).2.canGather
        (welcomed.reply now request.sender.id request.query).2.width = _
      rw [left]
      rfl

end Answering

section Gathering

/-- To take in a newcomer, the neighbours of stored keys have to be gathered. -/
def Settles (now : Nanoseconds) (newcomer : Ident) (node : Node) : Prop :=
  newcomer ≠ node.id ∧ node.table.knows newcomer = false ∧
    ∃ entry ∈ node.store.contents now, hasNeighbours entry.1 = true

/-- The answer to a query is a list of contacts. -/
def Names (now : Nanoseconds) (node : Node) : Query → Prop
  | .ping => False
  | .store _ _ => False
  | .findNode _ => True
  | .findValue key => (node.store.get now key).1 = none ∧ hasNeighbours key = true

/-- Contacts have to be gathered to answer a request. -/
def Gathers (now : Nanoseconds) (request : Request) (node : Node) : Prop :=
  node.Settles now request.sender.id ∨ node.Names now request.query

theorem offered_is_some (target requester : Ident) (node : Node) :
    (node.offered? target requester).isSome = node.canGather node.width := by
  unfold offered?
  split_ifs with room
  · exact room.symm
  · exact (Bool.eq_false_of_not_eq_true room).symm

theorem handovers_is_some_iff (newcomer : Ident) :
    (node.handovers? now newcomer).isSome = true ↔ node.canGather node.width = true ∨
      ∀ entry ∈ node.store.contents now, hasNeighbours entry.1 = false := by
  unfold handovers?
  dsimp only
  split_ifs with room
  · simpa using room
  · simpa using room

theorem welcome_is_some_iff (node : Node) (now : Nanoseconds) (peer : Contact) :
    (node.welcome? now peer).isSome = true ↔ node.canGather node.width = true ∨
      peer.endpoint = none ∨ ¬node.Settles now peer.id := by
  unfold welcome? Settles
  dsimp only
  split_ifs with own known
  · simp_all
    tauto
  · simp_all
  · rw [Option.isSome_map, handovers_is_some_iff]
    simp_all

theorem reply_is_some_iff (requester : Ident) (query : Query) :
    (node.reply now requester query).1.isSome = true ↔
      node.canGather node.width = true ∨ ¬node.Names now query := by
  cases query with
  | ping => exact ⟨fun _ => Or.inr not_false, fun _ => rfl⟩
  | store key value => exact ⟨fun _ => Or.inr not_false, fun _ => rfl⟩
  | findNode target =>
      rw [reply, Option.isSome_map, offered_is_some]
      exact ⟨Or.inl, fun answered => answered.resolve_right (not_not_intro trivial)⟩
  | findValue key =>
      simp only [reply, Names]
      generalize node.store.get now key = read
      obtain ⟨_ | value, left⟩ := read
      · unfold Ident.ofOctets hasNeighbours
        by_cases name : key.length = Ident.byteCount
        · simp [name, offered_is_some]
        · simp [name]
      · simp

/-- A request is answered exactly if there is room to gather contacts or none have to be. -/
theorem handle_is_some_iff (node : Node) (now : Nanoseconds) (source : Endpoint)
    (request : Request) :
    (node.handle now source request).1.isSome = true ↔
      node.canGather node.width = true ∨ ¬node.Gathers now request := by
  have welcome := welcome_is_some_iff node now ⟨request.sender.id, some source⟩
  unfold handle Gathers
  cases taken : node.welcome? now ⟨request.sender.id, some source⟩ with
  | none =>
      rw [taken] at welcome
      simp only [Option.isSome_none, Bool.false_eq_true, reduceCtorEq, false_or, false_iff]
        at welcome ⊢
      tauto
  | some welcomed =>
      rw [taken] at welcome
      obtain ⟨store, room⟩ := welcome_spares taken
      have names : welcomed.Names now request.query ↔ node.Names now request.query := by
        cases request.query with
        | findValue key => rw [Names, Names, store]
        | _ => exact Iff.rfl
      dsimp only
      rw [Option.isSome_map, reply_is_some_iff, room, names]
      simp only [Option.isSome_some, reduceCtorEq, false_or, true_iff] at welcome
      tauto

end Gathering

end Node
end XorOverlay
