import Mathlib
import XorOverlay.Proofs.Node.Requests
import XorOverlay.Proofs.Node.Welcome
import XorOverlay.Proofs.Routing.Nearest
import XorOverlay.Proofs.Store.Instant
import XorOverlay.Proofs.Store.Still
import XorOverlay.Proofs.Wire.Carried

/-!
Nodes that know all others. The live contacts of an insider are the others of a roster, so that it
welcomes nobody and hands over nothing, and its answers name nobody else. While one value is written
under one key and read again, the only copies and the only errands under that key are of that value.
-/

namespace XorOverlay

set_option autoImplicit false

/-- A value under a key, written and read at one instant. -/
structure Write where
  key : Ident
  value : Octets
  now : Nanoseconds

namespace Write

/-- A request that may be made in the course of the write and of reads of its key: what is stored
under the key is the value. -/
def Asks (write : Write) : Query → Prop
  | .ping => False
  | .store key value =>
    (Query.store key value).Short ∧ (key = write.key.octets → value = write.value)
  | .findNode _ => True
  | .findValue key => key = write.key.octets

/-- The replies to such a request, of a node that does or does not hold a copy. -/
def Tells (write : Write) (roster : List Contact) (copied : Bool) : Query → Reply → Prop
  | .ping, _ => False
  | .store _ _, reply => reply = .stored true
  | .findNode _, reply => ∃ contacts, reply = .nodes contacts ∧ contacts ⊆ roster
  | .findValue _, reply =>
    if copied then reply = .found write.value
    else ∃ contacts, reply = .closest contacts ∧ contacts ⊆ roster

variable {write : Write} {roster : List Contact} {copied : Bool} {query : Query} {reply : Reply}

theorem asks_short (asks : write.Asks query) : query.Short := by
  cases query with
  | ping => trivial
  | store key value => exact asks.1
  | findNode target => trivial
  | findValue key =>
      have same : key = write.key.octets := asks
      rw [same]
      exact write.key.short_octets

/-- Such a reply is no pong, names none but nodes of the roster, and arrives as such a reply. -/
theorem tells_named (tells : write.Tells roster copied query reply) (tag : Tag) :
    ∀ contact ∈ (Message.response ⟨tag, reply⟩).contacts, contact ∈ roster := by
  cases query with
  | ping => exact tells.elim
  | store key value =>
      obtain rfl : reply = .stored true := tells
      simp [Message.contacts]
  | findNode target =>
      obtain ⟨contacts, rfl, inside⟩ := tells
      exact inside
  | findValue key =>
      unfold Tells at tells
      split_ifs at tells
      · subst tells
        simp [Message.contacts]
      · obtain ⟨contacts, rfl, inside⟩ := tells
        exact inside

theorem tells_carried (short : write.value.Short) (tells : write.Tells roster copied query reply) :
    write.Tells roster copied query reply.carried := by
  cases query with
  | ping => exact tells
  | store key value =>
      obtain rfl : reply = .stored true := tells
      rfl
  | findNode target =>
      obtain ⟨contacts, rfl, inside⟩ := tells
      exact ⟨counted contacts, rfl, fun contact member => inside (mem_counted member)⟩
  | findValue key =>
      unfold Tells at tells ⊢
      split_ifs at tells ⊢
      · subst tells
        exact Reply.carried_of_short short
      · obtain ⟨contacts, rfl, inside⟩ := tells
        exact ⟨counted contacts, rfl, fun contact member => inside (mem_counted member)⟩

theorem responder_tells (tells : write.Tells roster copied query reply) (endpoint : Endpoint)
    (dest : Contact) : Scene.responder endpoint dest reply = dest := by
  cases query with
  | ping => exact tells.elim
  | store key value =>
      obtain rfl : reply = .stored true := tells
      rfl
  | findNode target =>
      obtain ⟨contacts, rfl, _⟩ := tells
      rfl
  | findValue key =>
      unfold Tells at tells
      split_ifs at tells
      · subst tells
        rfl
      · obtain ⟨contacts, rfl, _⟩ := tells
        rfl

end Write

theorem length_without {crew known : List Contact} {member : Contact} (distinct : known.Nodup)
    (inside : known ⊆ crew) (listed : member ∈ crew) (absent : member ∉ known) :
    known.length + 1 ≤ crew.length := by
  have whole : (member :: known).Nodup := List.nodup_cons.mpr ⟨absent, distinct⟩
  have part : member :: known ⊆ crew := List.cons_subset.mpr ⟨listed, inside⟩
  exact (List.subperm_of_subset whole part).length_le

namespace Node

/-- Answers every request, whenever and from wherever it comes. -/
def Answering (node : Node) : Prop :=
  node.active = true ∧
    ∀ now source request, (node.handle now source request).1.isSome = true

/-- Room is all that an active node needs to answer. -/
theorem answering_iff (node : Node) :
    node.Answering ↔ node.active = true ∧ node.canGather node.width = true := by
  constructor
  · rintro ⟨active, answers⟩
    refine ⟨active, ?_⟩
    -- Of a request of its own the node learns nothing, but contacts are gathered to answer it.
    have own := answers 0 node.endpoint ⟨0, node.contact, .findNode Ident.zero⟩
    exact ((handle_is_some_iff node 0 _ _).mp own).resolve_right (not_not_intro (Or.inr trivial))
  · rintro ⟨active, room⟩
    refine ⟨active, ?_⟩
    intro now source request
    exact (handle_is_some_iff node now source request).mpr (Or.inl room)

/-- The copy a node holds of a key. -/
def copy (now : Nanoseconds) (key : Ident) (node : Node) : Option Octets :=
  (node.store.get now key.octets).1

/-- Among the others of a roster while a write and reads of its key go on. -/
structure Insider (roster : List Contact) (write : Write) (node : Node) : Prop where
  active : node.active = true
  room : node.canGather node.width = true
  wide : 0 < node.width
  busy : 0 < node.parallelism
  sound : node.table.Sound
  coarse : node.table.Coarse
  owner : node.table.owner = node.id
  live : ∀ contact, contact ∈ node.table.live ↔ contact ∈ roster ∧ contact.id ≠ node.id
  timed : node.store.Timed
  copies : ∀ held, node.copy write.now write.key = some held → held = write.value
  errands : ∀ errand ∈ node.errands, errand.dest ∈ roster ∧ errand.dest.id ≠ node.id ∧
    write.Asks (.store errand.key errand.value)

variable {roster : List Contact} {write : Write} {node : Node}

theorem tag_insider (insider : node.Insider roster write) (tag : Tag) :
    Insider roster write { node with lastTag := tag } :=
  { insider with }

theorem report_insider (insider : node.Insider roster write) (now latency : Nanoseconds)
    (success : Bool) : (node.report now latency success).Insider roster write :=
  { insider with }

theorem errands_insider (insider : node.Insider roster write) {errands : List Errand}
    (due : ∀ errand ∈ errands, errand.dest ∈ roster ∧ errand.dest.id ≠ node.id ∧
      write.Asks (.store errand.key errand.value)) :
    Insider roster write { node with errands := errands } :=
  { insider with errands := due }

/-- Hearing from a live contact changes nothing but the table, and there not who is live. -/
theorem welcome_live (sound : node.table.Sound) (coarse : node.table.Coarse) (now : Nanoseconds)
    {peer : Contact} (live : peer ∈ node.table.live) (apart : peer.id ≠ node.id)
    (lives : peer.endpoint.isNone = false) :
    node.welcome? now peer = some { node with table := (node.table.add now peer).1 } ∧
      (node.table.add now peer).1.live.Perm node.table.live := by
  have known : node.table.knows peer.id = true :=
    (Table.knows_iff sound peer.id).mpr ⟨peer, live, rfl⟩
  refine ⟨?_, Table.add_known sound coarse now live⟩
  unfold welcome?
  rw [if_neg (by simp [lives, apart])]
  simp only [known, if_true]

/-- Hearing from a peer changes neither the live contacts nor the errands. -/
theorem welcome_insider (insider : node.Insider roster write) (now : Nanoseconds) {peer : Contact}
    (listed : peer ∈ roster) (apart : peer.id ≠ node.id) (lives : peer.endpoint.isNone = false) :
    node.welcome? now peer = some { node with table := (node.table.add now peer).1 } ∧
      Insider roster write { node with table := (node.table.add now peer).1 } := by
  have live : peer ∈ node.table.live := (insider.live peer).mpr ⟨listed, apart⟩
  obtain ⟨taken, same⟩ := welcome_live insider.sound insider.coarse now live apart lives
  exact ⟨taken, { insider with
    sound := Table.add_sound insider.sound now peer
    coarse := Table.add_coarse insider.sound insider.coarse now peer
    owner := (Table.add_owner now peer node.table).1.trans insider.owner
    live := fun contact => same.mem_iff.trans (insider.live contact) }⟩

theorem copy_keep (insider : node.Insider roster write) (key value : Octets) :
    (node.keep write.now key value).copy write.now write.key =
      if write.key.octets = key then some value else node.copy write.now write.key :=
  Store.get_put insider.timed write.now key write.key.octets value

theorem keep_insider (insider : node.Insider roster write) {key value : Octets}
    (asks : write.Asks (.store key value)) :
    (node.keep write.now key value).Insider roster write := by
  refine { insider with timed := Store.put_timed insider.timed _ _ _, copies := ?_ }
  intro held found
  rw [copy_keep insider] at found
  split_ifs at found with same
  · rw [← Option.some.inj found]
    exact asks.2 same.symm
  · exact insider.copies held found

theorem copy_read (insider : node.Insider roster write) (key : Octets) :
    copy write.now write.key { node with store := (node.store.get write.now key).2 } =
      node.copy write.now write.key :=
  Store.get_get insider.timed write.now key write.key.octets

theorem read_insider (insider : node.Insider roster write) (key : Octets) :
    Insider roster write { node with store := (node.store.get write.now key).2 } := by
  refine { insider with timed := Store.get_timed insider.timed _ _, copies := ?_ }
  intro held found
  rw [copy_read insider] at found
  exact insider.copies held found

theorem offered_insider (insider : node.Insider roster write) (target requester : Ident) :
    ∃ contacts, node.offered? target requester = some contacts ∧ contacts ⊆ roster := by
  unfold offered?
  rw [if_pos insider.room]
  refine ⟨_, rfl, ?_⟩
  intro contact member
  exact ((insider.live contact).mp (Table.mem_closest member).1).1

/-- The closest contacts of an insider are the closest of all others, if nobody goes by the target's
name. -/
theorem neighbours_insider (insider : node.Insider roster write) {target : Ident}
    (unnamed : ∀ contact ∈ roster, contact.id ≠ target) :
    ∃ all, Ascending target all ∧
      (∀ contact, contact ∈ all ↔ contact ∈ roster ∧ contact.id ≠ node.id) ∧
      node.neighbours target node.width = all.take node.width := by
  obtain ⟨all, perm, ascending, closest⟩ :=
    Table.closest_ascending insider.sound target node.width none
  refine ⟨all, ascending, ?_, ?_⟩
  · intro contact
    rw [perm.mem_iff, Table.eligible, List.mem_filter, insider.live]
    constructor
    · exact fun chosen => chosen.1
    · intro other
      exact ⟨other, by simpa using unnamed contact other.1⟩
  · rw [neighbours_eq, if_pos insider.room, closest]

/-- What a node holds after it has answered: a copy it held before, and what it was sent. -/
structure Answers (write : Write) (query : Query) (node after : Node) : Prop where
  contact : after.contact = node.contact
  kept : node.copy write.now write.key = some write.value →
    after.copy write.now write.key = some write.value
  stored : ∀ value, query = .store write.key.octets value →
    after.copy write.now write.key = some write.value

theorem find_value_insider (insider : node.Insider roster write) (requester : Ident) :
    ∃ reply after,
      node.reply write.now requester (.findValue write.key.octets) = (some reply, after) ∧
      write.Tells roster (node.copy write.now write.key).isSome (.findValue write.key.octets)
        reply ∧
      after.Insider roster write ∧ Answers write (.findValue write.key.octets) node after := by
  have after := read_insider insider write.key.octets
  have answers : Answers write (.findValue write.key.octets) node
      { node with store := (node.store.get write.now write.key.octets).2 } := by
    refine ⟨rfl, ?_, nofun⟩
    rw [copy_read insider]
    exact fun held => held
  unfold reply
  simp only [Write.Tells]
  cases held : node.copy write.now write.key with
  | some value =>
      have same := insider.copies value held
      have found : (node.store.get write.now write.key.octets).1 = some value := held
      simp only [found]
      exact ⟨.found value, _, rfl, by simp [same], after, answers⟩
  | none =>
      have none : (node.store.get write.now write.key.octets).1 = none := held
      obtain ⟨contacts, offered, inside⟩ := offered_insider insider write.key requester
      have tells : ∃ offers, Reply.closest contacts = .closest offers ∧ offers ⊆ roster :=
        ⟨contacts, rfl, inside⟩
      simp only [none, write.key.of_octets]
      refine ⟨.closest contacts, _, ?_, by simpa using tells, after, answers⟩
      rw [offered]
      rfl

theorem reply_insider (insider : node.Insider roster write) (requester : Ident) {query : Query}
    (asks : write.Asks query) :
    ∃ reply after, node.reply write.now requester query = (some reply, after) ∧
      write.Tells roster (node.copy write.now write.key).isSome query reply ∧
      after.Insider roster write ∧ Answers write query node after := by
  cases query with
  | ping => exact asks.elim
  | store key value =>
      have copied := copy_keep insider key value
      refine ⟨.stored true, _, rfl, rfl, keep_insider insider asks, rfl, ?_, ?_⟩
      · intro held
        rw [copied, held]
        split_ifs with same
        · rw [asks.2 same.symm]
        · rfl
      · intro other same
        have named : key = write.key.octets := (Query.store.inj same).1
        rw [copied, if_pos named.symm, asks.2 named]
  | findNode target =>
      obtain ⟨contacts, offered, inside⟩ := offered_insider insider target requester
      refine ⟨.nodes contacts, node, ?_, ⟨contacts, rfl, inside⟩, insider, rfl, fun held => held,
        nofun⟩
      rw [reply, offered]
      rfl
  | findValue key =>
      have named : key = write.key.octets := asks
      rw [named]
      exact find_value_insider insider requester

/-- A request of a peer is answered. -/
theorem handle_insider (insider : node.Insider roster write) {source : Endpoint} {request : Request}
    (listed : ⟨request.sender.id, some source⟩ ∈ roster) (apart : request.sender.id ≠ node.id)
    (asks : write.Asks request.query) :
    ∃ reply after, node.handle write.now source request = (some ⟨request.tag, reply⟩, after) ∧
      write.Tells roster (node.copy write.now write.key).isSome request.query reply ∧
      after.Insider roster write ∧ Answers write request.query node after := by
  obtain ⟨taken, known⟩ := welcome_insider insider write.now listed apart rfl
  obtain ⟨reply, after, replied, tells, good, answers⟩ :=
    reply_insider known request.sender.id asks
  exact ⟨reply, after, handle_of_reply taken replied, tells, good, answers.contact, answers.kept,
    answers.stored⟩

end Node
end XorOverlay
