import Mathlib
import XorOverlay.Proofs.Node.Insider

/-!
A node among a crew that gathers. Its table has room for the whole crew wherever their names lie,
so whoever it hears from is live from then on; it stores nothing, so a newcomer is handed nothing;
and its lists are long enough to name everyone it has met.
-/

namespace XorOverlay

set_option autoImplicit false

/-- What a newcomer asks: whether anyone is there, and who is closest to its own name. -/
def Query.Joins (newcomer : Ident) : Query → Prop
  | .ping => True
  | .findNode target => target = newcomer
  | _ => False

theorem Query.joins_short {newcomer : Ident} {query : Query} (joins : query.Joins newcomer) :
    query.Short := by
  cases query with
  | ping => trivial
  | findNode target => trivial
  | store key value => exact joins.elim
  | findValue key => exact joins.elim

/-- What a node that has met some of the crew replies to a newcomer: its name, or everyone it has
met, the newcomer left out. -/
def Reply.Introduces (name newcomer : Ident) (met : Contact → Prop) : Query → Reply → Prop
  | .ping, reply => reply = .pong name
  | .findNode target, reply => ∃ contacts, reply = .nodes contacts ∧ Ascending target contacts ∧
    ∀ contact, contact ∈ contacts ↔ met contact ∧ contact.id ≠ newcomer
  | _, _ => False

namespace Reply

variable {name newcomer : Ident} {met other : Contact → Prop} {query : Query} {reply : Reply}

/-- Whether the newcomer itself has been met makes no difference. -/
theorem introduces_congr (introduces : reply.Introduces name newcomer met query)
    (same : ∀ contact, contact.id ≠ newcomer → (met contact ↔ other contact)) :
    reply.Introduces name newcomer other query := by
  cases query with
  | ping => exact introduces
  | findNode target =>
      obtain ⟨contacts, rfl, ascending, named⟩ := introduces
      refine ⟨contacts, rfl, ascending, fun contact => (named contact).trans ?_⟩
      exact and_congr_left (same contact)
  | store key value => exact introduces.elim
  | findValue key => exact introduces.elim

end Reply

/-- A crew whose members have names and IPv4 endpoints of their own. It is small enough for a list
of all but two of them to have a four-byte count: with one member more, such a list would be counted
as none, and a newcomer would hear of nobody. -/
structure Crew (crew : List Contact) : Prop where
  distinct : (crew.map Contact.id).Nodup
  separate : (crew.map Contact.endpoint).Nodup
  writable : ∀ contact ∈ crew, contact.Writable
  few : crew.length ≤ 2 ^ 32 + 1

theorem length_without_two {crew known : List Contact} {first second : Contact}
    (distinct : known.Nodup) (inside : known ⊆ crew) (listed : first ∈ crew)
    (also : second ∈ crew) (apart : first ≠ second) (notFirst : first ∉ known)
    (notSecond : second ∉ known) : known.length + 2 ≤ crew.length := by
  have pair : (second :: known).Nodup := List.nodup_cons.mpr ⟨notSecond, distinct⟩
  have part : second :: known ⊆ crew := List.cons_subset.mpr ⟨also, inside⟩
  have absent : first ∉ second :: known := by
    simp [apart, notFirst]
  exact length_without pair part listed absent

namespace Node

open Bucket (without without_eq_self)

/-- Among a crew, and acquainted with those of it that it has met. -/
structure Attends (crew : List Contact) (met : Contact → Prop) (node : Node) : Prop where
  active : node.active = true
  room : node.canGather node.width = true
  busy : 0 < node.parallelism
  wide : crew.length ≤ node.width + 1
  sound : node.table.Sound
  coarse : node.table.Coarse
  owner : node.table.owner = node.id
  capacity : node.table.capacity = node.width
  bare : ∀ now, node.store.contents now = []
  errands : node.errands = []
  listed : node.contact ∈ crew
  within : ∀ contact, met contact → contact ∈ crew ∧ contact.id ≠ node.id
  live : ∀ contact, contact ∈ node.table.live ↔ met contact

variable {crew : List Contact} {met : Contact → Prop} {node : Node}

theorem tag_attends (attends : node.Attends crew met) (tag : Tag) :
    Attends crew met { node with lastTag := tag } :=
  { attends with }

theorem attends_congr {other : Contact → Prop} (attends : node.Attends crew met)
    (same : ∀ contact, met contact ↔ other contact) : node.Attends crew other :=
  { attends with
    within := fun contact known => attends.within contact ((same contact).mpr known)
    live := fun contact => (attends.live contact).trans (same contact) }

theorem live_nodup (attends : node.Attends crew met) : node.table.live.Nodup :=
  List.Nodup.of_map Contact.id (Table.live_distinct attends.sound)

theorem not_met_self (attends : node.Attends crew met) : ¬met node.contact :=
  fun known => (attends.within _ known).2 rfl

theorem live_inside (attends : node.Attends crew met) : node.table.live ⊆ crew :=
  fun contact known => (attends.within contact ((attends.live contact).mp known)).1

theorem live_length (attends : node.Attends crew met) :
    node.table.live.length ≤ node.width := by
  have absent : node.contact ∉ node.table.live := by
    rw [attends.live]
    exact not_met_self attends
  have count := length_without (live_nodup attends) (live_inside attends) attends.listed absent
  have wide := attends.wide
  omega

section Hearing

variable (attends : node.Attends crew met) (fit : Crew crew)
  {peer : Contact} (listed : peer ∈ crew) (apart : peer.id ≠ node.id)
include attends fit listed

theorem knows_iff_met : node.table.knows peer.id = true ↔ met peer := by
  rw [Table.knows_iff attends.sound]
  constructor
  · rintro ⟨known, live, named⟩
    have same : known = peer :=
      List.inj_on_of_nodup_map fit.distinct (live_inside attends live) listed named
    exact (attends.live peer).mp (same ▸ live)
  · exact fun known => ⟨peer, (attends.live peer).mpr known, rfl⟩

include apart

/-- Whoever is heard from is live afterwards, and nobody makes room for it. -/
theorem add_attends (now : Nanoseconds) (contact : Contact) :
    contact ∈ (node.table.add now peer).1.live ↔ met contact ∨ contact = peer := by
  by_cases known : met peer
  · have live := (attends.live peer).mpr known
    rw [(Table.add_known attends.sound attends.coarse now live).mem_iff, attends.live]
    constructor
    · exact Or.inl
    · rintro (old | rfl)
      · exact old
      · exact known
  · have stranger : peer.id ≠ node.table.owner := attends.owner.symm ▸ apart
    -- Neither the node nor the peer is in the table, so even a cell with all others in it has room.
    have few : node.table.live.length + 2 ≤ crew.length :=
      length_without_two (live_nodup attends) (live_inside attends) attends.listed listed
        (fun same => apart (congrArg Contact.id same).symm)
        (fun live => not_met_self attends ((attends.live _).mp live))
        (fun live => known ((attends.live _).mp live))
    have taken : (node.table.add now peer).2 = true := by
      refine (Table.add_answer attends.sound attends.coarse now stranger).mpr (Or.inr ?_)
      have cell := List.length_filter_le (Contact.inCell node.table.owner peer.id) node.table.live
      have wide := attends.wide
      rw [attends.capacity]
      omega
    have gained := Table.add_live attends.sound now stranger
    have nobody : without peer.id node.table.live = node.table.live := by
      apply without_eq_self
      intro old live same
      exact known ((knows_iff_met attends fit listed).mp
        ((Table.knows_iff attends.sound peer.id).mpr ⟨old, live, same⟩))
    rw [if_pos taken, nobody] at gained
    rw [gained.mem_iff, List.mem_append, List.mem_singleton, attends.live]

/-- A peer of the crew is taken in, and handed nothing. -/
theorem welcome_attends (now : Nanoseconds) (lives : peer.endpoint.isNone = false) :
    ∃ welcomed, node.welcome? now peer = some welcomed ∧ welcomed.contact = node.contact ∧
      welcomed.Attends crew fun contact => met contact ∨ contact = peer := by
  refine ⟨{ node with table := (node.table.add now peer).1 }, ?_, rfl, { attends with
    sound := Table.add_sound attends.sound now peer
    coarse := Table.add_coarse attends.sound attends.coarse now peer
    owner := (Table.add_owner now peer node.table).1.trans attends.owner
    capacity := (Table.add_owner now peer node.table).2.trans attends.capacity
    within := ?_
    live := add_attends attends fit listed apart now }⟩
  · have none : node.handovers? now peer.id = some [] := by
      simp [handovers?, attends.bare now]
    unfold welcome?
    rw [if_neg (by simp [lives, apart]), none]
    simp
  · rintro contact (old | rfl)
    · exact attends.within contact old
    · exact ⟨listed, apart⟩

end Hearing

theorem offered_attends (attends : node.Attends crew met) (newcomer : Ident) :
    ∃ contacts, node.offered? newcomer newcomer = some contacts ∧ Ascending newcomer contacts ∧
      ∀ contact, contact ∈ contacts ↔ met contact ∧ contact.id ≠ newcomer := by
  obtain ⟨all, perm, ascending, closest⟩ :=
    Table.closest_ascending attends.sound newcomer node.width (some newcomer)
  have count : all.length ≤ node.width := by
    rw [perm.length_eq]
    exact (List.length_filter_le _ _).trans (live_length attends)
  refine ⟨all, ?_, ascending, ?_⟩
  · rw [offered?, if_pos attends.room, closest, List.take_of_length_le count]
  · intro contact
    rw [perm.mem_iff, Table.eligible, List.mem_filter, attends.live]
    simp

theorem reply_attends (attends : node.Attends crew met) (now : Nanoseconds) {newcomer : Ident}
    {query : Query} (joins : query.Joins newcomer) :
    ∃ reply, node.reply now newcomer query = (some reply, node) ∧
      reply.Introduces node.id newcomer met query := by
  cases query with
  | ping => exact ⟨.pong node.id, rfl, rfl⟩
  | findNode target =>
      obtain rfl : target = newcomer := joins
      obtain ⟨contacts, offered, ascending, named⟩ := offered_attends attends target
      exact ⟨.nodes contacts, by rw [reply, offered]; rfl, contacts, rfl, ascending, named⟩
  | store key value => exact joins.elim
  | findValue key => exact joins.elim

/-- What a newcomer asks is answered, and the newcomer is live from then on. -/
theorem handle_attends (attends : node.Attends crew met) (fit : Crew crew) (now : Nanoseconds)
    {source : Endpoint} {request : Request} (listed : ⟨request.sender.id, some source⟩ ∈ crew)
    (apart : request.sender.id ≠ node.id) (joins : request.query.Joins request.sender.id) :
    ∃ reply after, node.handle now source request = (some ⟨request.tag, reply⟩, after) ∧
      after.contact = node.contact ∧
      after.Attends crew (fun contact => met contact ∨ contact = ⟨request.sender.id, some source⟩) ∧
      reply.Introduces node.id request.sender.id met request.query := by
  obtain ⟨welcomed, taken, same, heard⟩ := welcome_attends attends fit listed apart now rfl
  obtain ⟨reply, replied, introduces⟩ := reply_attends heard now joins
  rw [show welcomed.id = node.id from congrArg Contact.id same] at introduces
  refine ⟨reply, welcomed, handle_of_reply taken replied, same, heard, ?_⟩
  refine Reply.introduces_congr introduces fun contact foreign => or_iff_left ?_
  rintro rfl
  exact foreign rfl

/-- What is replied to a newcomer arrives as it is, and names members of the crew alone. -/
theorem introduces_arrives (attends : node.Attends crew met) (fit : Crew crew)
    {newcomer : Contact} (listed : newcomer ∈ crew) (apart : newcomer.id ≠ node.id)
    {query : Query} {reply : Reply}
    (introduces : reply.Introduces node.id newcomer.id met query) :
    reply.carried = reply ∧
      ∀ contact ∈ (Message.response ⟨0, reply⟩).contacts, contact ∈ crew := by
  cases query with
  | ping =>
      obtain rfl : reply = .pong node.id := introduces
      exact ⟨rfl, nofun⟩
  | findNode target =>
      obtain ⟨contacts, rfl, ascending, named⟩ := introduces
      have inside : contacts ⊆ crew := fun contact listed =>
        (attends.within contact ((named contact).mp listed).1).1
      have count : contacts.length + 2 ≤ crew.length := by
        refine length_without_two (List.Nodup.of_map Contact.id ascending.ids_nodup) inside
          attends.listed listed (fun same => apart (congrArg Contact.id same).symm) ?_ ?_
        · exact fun own => not_met_self attends ((named _).mp own).1
        · exact fun own => ((named _).mp own).2 rfl
      have few := fit.few
      have short : contacts.length < 2 ^ 32 := by omega
      exact ⟨Reply.carried_of_short short, inside⟩
  | store key value => exact introduces.elim
  | findValue key => exact introduces.elim

end Node
end XorOverlay
