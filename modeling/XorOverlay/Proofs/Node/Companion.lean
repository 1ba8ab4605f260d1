import Mathlib
import XorOverlay.Proofs.Node.Insider
import XorOverlay.Proofs.Store.Lifetime

/-!
Nodes that know all others and ask all of them. Where the lists of a node have room for everyone it
knows, its neighbours are all others but the one named like the target. A request leaves everything as
it was but for the value it stores, so the copies a node holds afterwards are told by the copies before
and the request alone; and the answers name copies that are held and nodes that are known.
-/

namespace XorOverlay

set_option autoImplicit false

namespace Store

/-- An expiring store with one entry a key, each short enough for the wire. -/
structure Tidy (store : Store) : Prop where
  slim : store.Slim
  distinct : ∀ held, store = .expiring held → held.Distinct

variable {store : Store}

theorem tidy_of_distinct {held : Expiring} (slim : (Store.expiring held).Slim)
    (distinct : held.Distinct) : (Store.expiring held).Tidy := by
  refine ⟨slim, ?_⟩
  intro other same
  rw [← Store.expiring.inj same]
  exact distinct

theorem empty_tidy (lifetime : Nanoseconds) : (Store.expiring (Expiring.empty lifetime)).Tidy :=
  tidy_of_distinct (empty_slim lifetime) List.nodup_nil

theorem expiring_of_tidy (tidy : store.Tidy) : ∃ held, store = .expiring held ∧ held.Distinct := by
  have slim := tidy.slim
  cases store with
  | expiring held => exact ⟨held, rfl, tidy.distinct held rfl⟩
  | adaptive cache => exact slim.elim

theorem put_tidy (tidy : store.Tidy) (now : Nanoseconds) {key value : Octets}
    (shortKey : key.Short) (shortValue : value.Short) : (store.put now key value).Tidy := by
  have slim := put_slim tidy.slim now shortKey shortValue
  obtain ⟨held, rfl, distinct⟩ := expiring_of_tidy tidy
  exact tidy_of_distinct slim (Expiring.put_distinct distinct now key value)

theorem get_tidy (tidy : store.Tidy) (now : Nanoseconds) (key : Octets) :
    (store.get now key).2.Tidy := by
  obtain ⟨held, rfl, distinct⟩ := expiring_of_tidy tidy
  have kept : (held.get now key).2.entries ⊆ held.entries := by
    unfold Expiring.get
    split
    · exact List.Subset.refl _
    · split_ifs
      · exact fun entry member => List.mem_of_mem_filter member
      · exact List.Subset.refl _
  exact tidy_of_distinct (fun entry member => tidy.slim entry (kept member))
    ((Expiring.get_cleared now key held).distinct distinct)

theorem cull_tidy (tidy : store.Tidy) (now : Nanoseconds) : (store.cull now).Tidy := by
  have slim := cull_slim tidy.slim now
  obtain ⟨held, rfl, distinct⟩ := expiring_of_tidy tidy
  exact tidy_of_distinct slim ((Expiring.cull_cleared now held).distinct distinct)

theorem get_cull (tidy : store.Tidy) (now : Nanoseconds) (key : Octets) :
    ((store.cull now).get now key).1 = (store.get now key).1 := by
  obtain ⟨held, rfl, _⟩ := expiring_of_tidy tidy
  show ((held.cull now).get now key).1 = (held.get now key).1
  rw [Expiring.get_shows, Expiring.get_shows]
  exact congrArg (Option.map Written.value) ((Expiring.cull_cleared now held).standing key)

theorem short_of_get (tidy : store.Tidy) {now : Nanoseconds} {key value : Octets}
    (found : (store.get now key).1 = some value) : value.Short := by
  have slim := tidy.slim
  obtain ⟨held, rfl, _⟩ := expiring_of_tidy tidy
  rw [show (Store.get now key (.expiring held)).1 = held.shows now key from
    Expiring.get_shows now key held] at found
  obtain ⟨written, stands, rfl⟩ := Option.map_eq_some_iff.mp found
  exact (slim _ (Expiring.mem_of_lookup (Option.filter_eq_some_iff.mp stands).1)).2

/-- A listing has what can be read, each key once and none past its deadline. -/
theorem listing_reads (tidy : store.Tidy) (now : Nanoseconds) :
    ((store.listing now).map Listed.key).Nodup ∧
      (∀ item ∈ store.listing now,
        item.read now = .ok (item.key, item.value) ∧ item.value.Short) ∧
      ∀ key value, (store.get now key).1 = some value ↔
        ∃ item ∈ store.listing now, item.key = key ∧ item.value = value := by
  have short := listing_short tidy.slim now
  obtain ⟨held, rfl, distinct⟩ := expiring_of_tidy tidy
  refine ⟨Expiring.listing_keys_nodup distinct now, ?_, ?_⟩
  · intro item listed
    refine ⟨?_, (short item listed).2⟩
    have read := Expiring.read_listing now held
    rw [List.map_map] at read
    exact List.map_inj_left.mp read item listed
  · intro key value
    rw [show (Store.get now key (.expiring held)).1 = held.shows now key from
      Expiring.get_shows now key held]
    constructor
    · intro found
      obtain ⟨written, stands, rfl⟩ := Option.map_eq_some_iff.mp found
      exact ⟨⟨key, written.value, _⟩,
        (Expiring.mem_listing distinct now _).mpr ⟨written, stands, rfl⟩, rfl, rfl⟩
    · rintro ⟨item, listed, rfl, rfl⟩
      obtain ⟨written, stands, shape⟩ := (Expiring.mem_listing distinct now item).mp listed
      have same : item.value = written.value := congrArg Listed.value shape
      rw [same]
      exact Option.map_eq_some_iff.mpr ⟨written, stands, rfl⟩

end Store

namespace Query

/-- A request to store under an identifier or to search for one, of lengths the wire has room for. -/
def Plain : Query → Prop
  | .ping => False
  | .store key value => (∃ name : Ident, key = name.octets) ∧ value.Short
  | .findNode _ => True
  | .findValue key => ∃ name : Ident, key = name.octets

/-- The value that a request leaves behind under a key. -/
def stores (key : Ident) : Query → Option Octets
  | .store named value => if key.octets = named then some value else none
  | _ => none

theorem stores_store (key named : Ident) (value : Octets) :
    (Query.store key.octets value).stores named = if named = key then some value else none := by
  simp only [stores, Ident.octets_injective.eq_iff]

theorem short_of_plain {query : Query} (plain : query.Plain) : query.Short := by
  cases query with
  | ping => trivial
  | store key value =>
      obtain ⟨⟨name, same⟩, short⟩ := plain
      rw [same]
      exact ⟨name.short_octets, short⟩
  | findNode target => trivial
  | findValue key =>
      obtain ⟨name, same⟩ := plain
      rw [same]
      exact name.short_octets

/-- What is told in reply: that the value was stored, members by other names than the target's, or a
value that is held. -/
inductive Tells (roster : List Contact) (holds : Ident → Octets → Prop) : Query → Reply → Prop where
  | stored (key value : Octets) : Tells roster holds (.store key value) (.stored true)
  | nodes {target : Ident} {contacts : List Contact} :
      (∀ contact ∈ contacts, contact ∈ roster ∧ contact.id ≠ target) →
      Tells roster holds (.findNode target) (.nodes contacts)
  | found {key : Ident} {value : Octets} : holds key value → value.Short →
      Tells roster holds (.findValue key.octets) (.found value)
  | closest {key : Ident} {contacts : List Contact} :
      (∀ contact ∈ contacts, contact ∈ roster ∧ contact.id ≠ key) →
      Tells roster holds (.findValue key.octets) (.closest contacts)

variable {roster : List Contact} {holds : Ident → Octets → Prop} {query : Query} {reply : Reply}

theorem tells_mono {also : Ident → Octets → Prop}
    (wider : ∀ key value, query = .findValue key.octets → holds key value → also key value)
    (tells : Tells roster holds query reply) : Tells roster also query reply := by
  cases tells with
  | stored key value => exact .stored key value
  | nodes inside => exact .nodes inside
  | found held short => exact .found (wider _ _ rfl held) short
  | closest inside => exact .closest inside

theorem tells_named (tells : Tells roster holds query reply) (tag : Tag) :
    ∀ contact ∈ (Message.response ⟨tag, reply⟩).contacts, contact ∈ roster := by
  cases tells with
  | stored key value => exact fun _ none => (List.not_mem_nil none).elim
  | nodes inside => exact fun contact member => (inside contact member).1
  | found held short => exact fun _ none => (List.not_mem_nil none).elim
  | closest inside => exact fun contact member => (inside contact member).1

/-- The wire carries what is told, or less of its contacts. -/
theorem tells_carried (tells : Tells roster holds query reply) :
    Tells roster holds query reply.carried := by
  cases tells with
  | stored key value => exact .stored key value
  | nodes inside => exact .nodes fun contact member => inside contact (mem_counted member)
  | found held short =>
      rw [Reply.carried_of_short (show (Reply.found _).Short from short)]
      exact .found held short
  | closest inside => exact .closest fun contact member => inside contact (mem_counted member)

theorem responder_tells (tells : Tells roster holds query reply) (endpoint : Endpoint)
    (dest : Contact) : Scene.responder endpoint dest reply = dest := by
  cases tells <;> rfl

end Query

namespace Node

/-- One of a company whose members know each other, with room for all of them in its lists. -/
structure Companion (roster : List Contact) (node : Node) : Prop where
  active : node.active = true
  room : node.canGather node.width = true
  crowd : roster.length ≤ node.width + 1
  listed : node.contact ∈ roster
  sound : node.table.Sound
  coarse : node.table.Coarse
  owner : node.table.owner = node.id
  live : ∀ contact, contact ∈ node.table.live ↔ contact ∈ roster ∧ contact.id ≠ node.id
  store : node.store.Tidy

variable {roster : List Contact} {node : Node} {now : Nanoseconds}

theorem timed_of_companion (companion : node.Companion roster) : node.store.Timed :=
  Store.timed_of_slim companion.store.slim

/-- Hearing from a member changes nothing but the table, and there not who is live. -/
theorem welcome_companion (companion : node.Companion roster) (now : Nanoseconds) {peer : Contact}
    (listed : peer ∈ roster) (apart : peer.id ≠ node.id) (lives : peer.endpoint.isNone = false) :
    node.welcome? now peer = some { node with table := (node.table.add now peer).1 } ∧
      Companion roster { node with table := (node.table.add now peer).1 } := by
  have live : peer ∈ node.table.live := (companion.live peer).mpr ⟨listed, apart⟩
  obtain ⟨taken, same⟩ := welcome_live companion.sound companion.coarse now live apart lives
  exact ⟨taken, { companion with
    sound := Table.add_sound companion.sound now peer
    coarse := Table.add_coarse companion.sound companion.coarse now peer
    owner := (Table.add_owner now peer node.table).1.trans companion.owner
    live := fun contact => same.mem_iff.trans (companion.live contact) }⟩

theorem keep_companion (companion : node.Companion roster) (now : Nanoseconds)
    {key value : Octets} (shortKey : key.Short) (shortValue : value.Short) :
    (node.keep now key value).Companion roster :=
  { companion with store := Store.put_tidy companion.store now shortKey shortValue }

theorem keep_copy (companion : node.Companion roster) (now : Nanoseconds) (named value : Octets)
    (key : Ident) : (node.keep now named value).copy now key =
      if key.octets = named then some value else node.copy now key :=
  Store.get_put (timed_of_companion companion) now named key.octets value

theorem read_companion (companion : node.Companion roster) (now : Nanoseconds) (key : Octets) :
    Companion roster { node with store := (node.store.get now key).2 } :=
  { companion with store := Store.get_tidy companion.store now key }

theorem read_copy (companion : node.Companion roster) (now : Nanoseconds) (named : Octets)
    (key : Ident) :
    copy now key { node with store := (node.store.get now named).2 } = node.copy now key :=
  Store.get_get (timed_of_companion companion) now named key.octets

/-- All others but the one named like a target, closest to the target first. -/
structure Fellows (target : Ident) (roster : List Contact) (own : Ident) (all : List Contact) :
    Prop where
  ascending : Ascending target all
  mem : ∀ contact, contact ∈ all ↔ contact ∈ roster ∧ contact.id ≠ own ∧ contact.id ≠ target

/-- The neighbours of a target are all others but the one named like it, as far as neighbours are
counted; the lists have room for all of these. -/
theorem neighbours_companion (companion : node.Companion roster) (target : Ident) :
    ∃ all, Fellows target roster node.id all ∧ all.length ≤ node.width ∧
      node.neighbours target node.width = all ∧ ∀ count, node.neighbours target count ⊆ all := by
  obtain ⟨all, perm, ascending, closest⟩ :=
    Table.closest_ascending companion.sound target node.width none
  have mem : ∀ contact, contact ∈ all ↔
      contact ∈ roster ∧ contact.id ≠ node.id ∧ contact.id ≠ target := by
    intro contact
    rw [perm.mem_iff, Table.eligible, List.mem_filter, companion.live, and_assoc]
    simp
  have few : all.length ≤ node.width := by
    have count := length_without (List.Nodup.of_map Contact.id ascending.ids_nodup)
      (fun contact other => ((mem contact).mp other).1) companion.listed
      fun own => ((mem node.contact).mp own).2.1 rfl
    have crowd := companion.crowd
    omega
  refine ⟨all, ⟨ascending, mem⟩, few, ?_, ?_⟩
  · rw [neighbours_eq, if_pos companion.room, closest, List.take_of_length_le few]
  · intro count contact near
    rw [neighbours_eq] at near
    split_ifs at near
    · obtain ⟨live, apart, _⟩ := Table.mem_closest near
      have known := (companion.live contact).mp live
      exact (mem contact).mpr ⟨known.1, known.2, apart⟩
    · exact (List.not_mem_nil near).elim

theorem offered_companion (companion : node.Companion roster) (target requester : Ident) :
    ∃ contacts, node.offered? target requester = some contacts ∧
      ∀ contact ∈ contacts, contact ∈ roster ∧ contact.id ≠ target := by
  unfold offered?
  rw [if_pos companion.room]
  refine ⟨_, rfl, ?_⟩
  intro contact member
  obtain ⟨live, apart, _⟩ := Table.mem_closest member
  exact ⟨((companion.live contact).mp live).1, apart⟩

/-- A member before and after a request: it goes by its name, its errands are the same, and so are
its copies but for the value that was stored. -/
structure Serves (now : Nanoseconds) (query : Query) (node after : Node) : Prop where
  contact : after.contact = node.contact
  errands : after.errands = node.errands
  copies : ∀ key, after.copy now key = (query.stores key).or (node.copy now key)

theorem reply_companion (companion : node.Companion roster) (now : Nanoseconds) (requester : Ident)
    {query : Query} (plain : query.Plain) :
    ∃ reply after, node.reply now requester query = (some reply, after) ∧
      Query.Tells roster (fun key value => node.copy now key = some value) query reply ∧
      after.Companion roster ∧ Serves now query node after := by
  cases query with
  | ping => exact plain.elim
  | store named value =>
      refine ⟨.stored true, _, rfl, .stored named value,
        keep_companion companion now (Query.short_of_plain plain).1 plain.2, rfl, rfl, ?_⟩
      intro key
      rw [keep_copy companion, Query.stores]
      split_ifs <;> rfl
  | findNode target =>
      obtain ⟨contacts, offered, inside⟩ := offered_companion companion target requester
      refine ⟨.nodes contacts, node, ?_, .nodes inside, companion, rfl, rfl, fun _ => rfl⟩
      rw [reply, offered]
      rfl
  | findValue named =>
      obtain ⟨name, same⟩ := plain
      rw [same]
      have after := read_companion companion now name.octets
      have serves : Serves now (.findValue name.octets) node
          { node with store := (node.store.get now name.octets).2 } :=
        ⟨rfl, rfl, fun key => read_copy companion now name.octets key⟩
      unfold reply
      dsimp only
      cases held : node.copy now name with
      | some value =>
          have found : (node.store.get now name.octets).1 = some value := held
          simp only [found]
          exact ⟨_, _, rfl, .found held (Store.short_of_get companion.store found), after, serves⟩
      | none =>
          obtain ⟨contacts, offered, inside⟩ := offered_companion companion name requester
          have none : (node.store.get now name.octets).1 = none := held
          simp only [none, name.of_octets]
          refine ⟨.closest contacts, _, ?_, .closest inside, after, serves⟩
          rw [offered]
          rfl

/-- A request of another member is answered. -/
theorem handle_companion (companion : node.Companion roster) (now : Nanoseconds)
    {source : Endpoint} {request : Request} (listed : ⟨request.sender.id, some source⟩ ∈ roster)
    (apart : request.sender.id ≠ node.id) (plain : request.query.Plain) :
    ∃ reply after, node.handle now source request = (some ⟨request.tag, reply⟩, after) ∧
      Query.Tells roster (fun key value => node.copy now key = some value) request.query reply ∧
      after.Companion roster ∧ Serves now request.query node after := by
  obtain ⟨taken, known⟩ := welcome_companion companion now listed apart rfl
  obtain ⟨reply, after, replied, tells, good, serves⟩ :=
    reply_companion known now request.sender.id plain
  exact ⟨reply, after, handle_of_reply taken replied, tells, good, serves.contact, serves.errands,
    serves.copies⟩

end Node
end XorOverlay
