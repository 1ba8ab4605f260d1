import Mathlib
import XorOverlay.Node.Scene
import XorOverlay.Proofs.Routing.Membership
import XorOverlay.Proofs.Routing.Nearest

/-!
Who is handed stored pairs. A pair goes to a newcomer that is closer to its key than the farthest
of the closest known contacts, and only if the node itself is closer than all of them. Ranks leave
no room for a full cell between these two conditions, so the newcomer is live from then on, and what
it answers to the pushes is the answer of a known contact.
-/

namespace XorOverlay

set_option autoImplicit false

namespace Ident

variable {owner newcomer other key : Ident}

/-- Everyone in a cell is closer to all others of the cell than to the owner. -/
theorem rank_in_cell (stranger : newcomer ≠ owner)
    (cell : SameBlock (cellDepth owner newcomer) newcomer other) :
    other.rank newcomer < newcomer.rank owner := by
  have inner : other.rank newcomer ≤ cellDepth owner newcomer :=
    (rank_le_iff other newcomer _).mpr (same_block_symm cell)
  have positive := (rank_pos_iff newcomer owner).mpr stranger
  unfold cellDepth at inner
  omega

/-- A cell farther from the owner than the key is at one rank from the key. -/
theorem rank_of_far_cell (inner : other.rank newcomer < newcomer.rank owner)
    (far : owner.rank key < newcomer.rank owner) : other.rank key = newcomer.rank key := by
  have keyward : newcomer.rank key = newcomer.rank owner := by
    rw [rank_comm newcomer key, rank_comm newcomer owner]
    apply rank_eq_of_lt
    rw [rank_comm key owner, rank_comm owner newcomer]
    exact far
  apply rank_eq_of_lt
  rw [keyward]
  exact inner

/-- Where one of a cell is farther from the key than the owner, the cell is farther from the owner
than the key. -/
theorem far_of_rank (inner : other.rank newcomer < newcomer.rank owner)
    (beyond : owner.rank key < other.rank key) : owner.rank key < newcomer.rank owner := by
  have ownward : other.rank owner = newcomer.rank owner := rank_eq_of_lt inner
  rw [rank_comm other key] at beyond
  have keyward : owner.rank other = key.rank other := rank_eq_of_lt beyond
  rw [← ownward, rank_comm other owner, keyward]
  exact beyond

end Ident

namespace Table

theorem length_le_one_of_named {contacts : List Contact} {id : Ident}
    (distinct : (contacts.map Contact.id).Nodup) (named : ∀ contact ∈ contacts, contact.id = id) :
    contacts.length ≤ 1 := by
  have inside : contacts.map Contact.id ⊆ [id] := by
    intro other member
    obtain ⟨contact, among, rfl⟩ := List.mem_map.mp member
    exact List.mem_singleton.mpr (named contact among)
  have bound := (List.subperm_of_subset distinct inside).length_le
  rwa [List.length_map] at bound

/-- No full cell lies between an owner that is closer to a key than all its contacts and the
farthest of the closest contacts. -/
theorem cell_has_room {table : Table} (sound : table.Sound) (wide : 2 ≤ table.capacity)
    {newcomer key : Ident} (stranger : newcomer ≠ table.owner) {nearest farthest : Contact}
    (first : (table.closest key table.capacity none).head? = some nearest)
    (last : (table.closest key table.capacity none).getLast? = some farthest)
    (beats : newcomer.rank key < farthest.id.rank key)
    (leads : table.owner.rank key < nearest.id.rank key) :
    (table.live.filter (Contact.inCell table.owner newcomer)).length < table.capacity := by
  obtain ⟨all, perm, ascending, closest⟩ := closest_ascending sound key table.capacity none
  rw [closest] at first last
  have inCell : ∀ contact ∈ table.live.filter (Contact.inCell table.owner newcomer),
      contact ∈ table.live ∧ contact.id.rank newcomer < newcomer.rank table.owner := by
    intro contact member
    obtain ⟨live, cell⟩ := List.mem_filter.mp member
    exact ⟨live, Ident.rank_in_cell stranger (of_decide_eq_true cell)⟩
  have names : ((table.live.filter (Contact.inCell table.owner newcomer)).map Contact.id).Nodup :=
    (live_distinct sound).sublist (List.filter_sublist.map Contact.id)
  by_cases far : table.owner.rank key < newcomer.rank table.owner
  · -- The whole cell is at the newcomer's rank, so a full one leaves no place for the farthest.
    by_contra full
    have close : table.live.filter (Contact.inCell table.owner newcomer) ⊆
        (table.eligible key none).filter
          fun contact => contact.id.rank key ≤ newcomer.rank key := by
      intro contact member
      obtain ⟨live, inner⟩ := inCell contact member
      have same := Ident.rank_of_far_cell inner far
      have apart : contact.id ≠ key := by
        rintro rfl
        rw [Ident.rank_comm table.owner, Ident.rank_eq_of_lt inner] at far
        exact lt_irrefl _ far
      simp [eligible, live, apart, same]
    have enough : table.capacity ≤
        (all.filter fun contact => contact.id.rank key ≤ newcomer.rank key).length := by
      rw [(perm.filter _).length_eq]
      exact (Nat.le_of_not_lt full).trans
        (List.subperm_of_subset (List.Nodup.of_map Contact.id names) close).length_le
    have within := Ascending.rank_of_take ascending enough farthest (List.mem_of_getLast? last)
    omega
  · -- The cell holds nobody that could be among the closest, which leaves one named like the key.
    have named : ∀ contact ∈ table.live.filter (Contact.inCell table.owner newcomer),
        contact.id = key := by
      intro contact member
      obtain ⟨live, inner⟩ := inCell contact member
      by_contra apart
      have listed : contact ∈ all := by
        apply perm.mem_iff.mpr
        simp [eligible, live, apart]
      have behind := Ident.rank_mono (Ascending.head_le ascending first contact listed)
      exact far (Ident.far_of_rank inner (leads.trans_le behind))
    have few := length_le_one_of_named names named
    omega

end Table

namespace Scene

variable {ε : Type}

/-- The scene of a call when its request goes out. -/
def sending (scene : Scene ε) : Scene ε :=
  scene.mapNode fun node => { node with lastTag := scene.node.lastTag + 1 }

/-- The request that the next call sends. -/
def request (query : Query) (scene : Scene ε) : Request :=
  ⟨scene.node.lastTag + 1, scene.node.contact, query⟩

def named (reply : Reply) : List Contact :=
  (Message.response ⟨0, reply⟩).contacts

/-- Who is heard from when a reply comes back. -/
def responder (endpoint : Endpoint) (dest : Contact) : Reply → Contact
  | .pong id => ⟨id, some endpoint⟩
  | _ => dest

/-- A call that brought a response: the responder is welcomed where the request left the scene. -/
theorem call_answered {carrier : Carrier ε} {dest : Contact} {endpoint : Endpoint} {query : Query}
    {scene later : Scene ε} {response : Response} {welcomed : Node}
    (lives : dest.endpoint = some endpoint)
    (carried : carrier scene.sending endpoint (scene.request query) = (.ok response, later))
    (heard : later.node.welcome? later.clock (responder endpoint dest response.reply) =
      some welcomed) :
    scene.call carrier dest query = (.answered response.reply, later.mapNode fun _ => welcomed) := by
  unfold sending request at carried
  unfold call
  simp only [lives, carried]
  generalize same : later.node.welcome? later.clock _ = outcome
  obtain rfl : outcome = some welcomed := same.symm.trans heard
  rfl

end Scene

namespace Node

/-- What a known contact is heard to say changes nothing about the errands. -/
theorem welcome_known {node : Node} {peer : Contact} (known : node.table.knows peer.id = true)
    (now : Nanoseconds) :
    ∃ welcomed, node.welcome? now peer = some welcomed ∧ welcomed.errands = node.errands := by
  unfold welcome?
  split_ifs
  · exact ⟨node, rfl, rfl⟩
  · exact ⟨_, rfl, rfl⟩

theorem welcome_new {node : Node} {peer : Contact} {endpoint : Endpoint} {now : Nanoseconds}
    (lives : peer.endpoint = some endpoint) (stranger : peer.id ≠ node.id)
    (new : node.table.knows peer.id = false) :
    node.welcome? now peer = (node.handovers? now peer.id).map fun entries =>
      { node with
        table := (node.table.add now peer).1
        errands := node.errands ++ entries.map fun entry => ⟨peer, entry.1, entry.2⟩ } := by
  unfold welcome?
  rw [if_neg, if_neg]
  · simp [new]
  · simp [lives, stranger]

/-- Whoever is handed something is closer to a key than the farthest of its closest contacts, and
the node is closer to it than all of them. -/
theorem handovers_ranks {node : Node} {now : Nanoseconds} {newcomer : Ident}
    {entries : List (Octets × Octets)} (selected : node.handovers? now newcomer = some entries)
    (chosen : entries ≠ []) :
    ∃ key nearest farthest, (node.table.closest key node.width none).head? = some nearest ∧
      (node.table.closest key node.width none).getLast? = some farthest ∧
      newcomer.rank key < farthest.id.rank key ∧ node.id.rank key < nearest.id.rank key := by
  unfold handovers? at selected
  dsimp only at selected
  split_ifs at selected
  obtain rfl := Option.some.inj selected
  obtain ⟨entry, member⟩ := List.exists_mem_of_ne_nil _ chosen
  have handed := (List.mem_filter.mp member).2
  split at handed
  · rename_i key named
    refine ⟨key, ?_⟩
    unfold handsOver at handed
    rw [neighbours_eq] at handed
    dsimp only at handed
    split_ifs at handed
    · split at handed
      · rename_i nearest farthest first last
        rw [Bool.and_eq_true, decide_eq_true_eq, decide_eq_true_eq] at handed
        exact ⟨nearest, farthest, first, last, handed.1, handed.2⟩
      · cases handed
    · cases handed
  · cases handed

/-- Whoever is handed something is live from then on. -/
theorem handovers_live {node : Node} {now : Nanoseconds} {peer : Contact}
    {entries : List (Octets × Octets)} (sound : node.table.Sound) (coarse : node.table.Coarse)
    (owner : node.table.owner = node.id) (capacity : node.table.capacity = node.width)
    (wide : 2 ≤ node.width) (stranger : peer.id ≠ node.id)
    (selected : node.handovers? now peer.id = some entries) (chosen : entries ≠ []) :
    (node.table.add now peer).2 = true := by
  obtain ⟨key, nearest, farthest, first, last, beats, leads⟩ := handovers_ranks selected chosen
  rw [← capacity] at first last wide
  rw [← owner] at stranger leads
  apply (Table.add_answer sound coarse now stranger).mpr
  right
  exact Table.cell_has_room sound wide stranger first last beats leads

/-- In a node with buckets of two or more, a newcomer that is handed stored pairs becomes live; and
until it is removed, a response of its own to a pushed pair comes from a known contact and brings no
further errands. -/
theorem pushes_reach_live_contact (node : Node) (wide : 2 ≤ node.width) (start : Nanoseconds)
    (history : List Table.Change)
    (reached : node.table = (Table.empty node.id node.width start).after history)
    (now : Nanoseconds) (peer : Contact) (endpoint : Endpoint)
    (lives : peer.endpoint = some endpoint) (stranger : peer.id ≠ node.id)
    (new : ∀ known ∈ node.table.live, known.id ≠ peer.id) (entries : List (Octets × Octets))
    (selected : node.handovers? now peer.id = some entries) (chosen : entries ≠ []) :
    ∃ welcomed, node.welcome? now peer = some welcomed ∧
      welcomed.table = (node.table.add now peer).1 ∧
      welcomed.errands = node.errands ++ entries.map (fun entry => ⟨peer, entry.1, entry.2⟩) ∧
      (node.table.add now peer).2 = true ∧ peer ∈ welcomed.table.live ∧
      ∀ {ε : Type} (carrier : Carrier ε) (scene later : Scene ε) (key value : Octets)
        (response : Response) (meanwhile : List Table.Change),
        later.node.table = welcomed.table.after meanwhile →
        Table.Change.remove peer.id ∉ meanwhile →
        carrier scene.sending endpoint (scene.request (.store key value)) =
          (.ok response, later) →
        (Scene.responder endpoint peer response.reply).id = peer.id →
        later.node.table.knows peer.id = true ∧
          (scene.storeAt carrier peer key value).2.node.errands = later.node.errands := by
  have made := Table.after_owner (Table.empty node.id node.width start) history
  have fresh := Table.empty_sound node.id node.width start
  have sound := Table.after_sound fresh history
  have coarse := Table.after_coarse fresh (Table.empty_coarse node.id node.width start) history
  rw [← reached] at made sound coarse
  have live := handovers_live sound coarse made.1 made.2 wide stranger selected chosen
  have unknown : node.table.knows peer.id = false := by
    rw [← Bool.not_eq_true, Table.knows_iff sound]
    rintro ⟨known, member, same⟩
    exact new known member same
  have foreign : peer.id ≠ node.table.owner := by
    rw [made.1]
    exact stranger
  have perm := Table.add_live sound now foreign
  rw [if_pos live] at perm
  have member : peer ∈ (node.table.add now peer).1.live :=
    perm.mem_iff.mpr (List.mem_append_right _ (List.mem_singleton_self peer))
  refine ⟨_, (welcome_new lives stranger unknown).trans (congrArg _ selected), rfl, rfl, live,
    member, ?_⟩
  intro ε carrier scene later key value response meanwhile table kept carried own
  have soundAfter := Table.add_sound sound now peer
  have known : later.node.table.knows peer.id = true := by
    rw [table]
    apply Table.knows_after soundAfter (Table.add_coarse sound coarse now peer) _ kept
    exact (Table.knows_iff soundAfter peer.id).mpr ⟨peer, member, rfl⟩
  refine ⟨known, ?_⟩
  obtain ⟨heard, taken, errands⟩ := welcome_known (own.symm ▸ known) later.clock
  have called := Scene.call_answered lives carried taken
  unfold Scene.storeAt
  simp only [called]
  exact errands

/-- A node that knows one contact, and keeps a value whose key it is closer to. -/
def keeper : Node :=
  { (start { Settings.default with width := 2 } Ident.zero (.v4 1 1)
      (.expiring (Expiring.empty (seconds 1))) 0).keep 0 (Ident.ofNat 1).octets [7] with
    table := (Table.empty Ident.zero 2 0).after [.add 0 ⟨Ident.ofNat 8, none⟩] }

/-- A newcomer between the two is sent the value, and brings nothing more by storing it. -/
theorem newcomer_is_sent_value_once :
    let peer : Contact := ⟨Ident.ofNat 4, some (.v4 1 2)⟩
    ∃ welcomed, keeper.welcome? 0 peer = some welcomed ∧ peer ∈ welcomed.table.live ∧
      welcomed.errands = [⟨peer, (Ident.ofNat 1).octets, [7]⟩] ∧
      ((⟨welcomed, 0, ()⟩ : Scene Unit).storeAt
        (fun scene _ request => (.ok ⟨request.tag, .stored true⟩, scene)) peer
        (Ident.ofNat 1).octets [7]).2.node.errands = welcomed.errands := by
  intro peer
  have selected : keeper.handovers? 0 peer.id = some [((Ident.ofNat 1).octets, [7])] := by
    decide +kernel
  obtain ⟨welcomed, taken, table, errands, _, live, pushed⟩ := pushes_reach_live_contact keeper
    (by decide) 0 [.add 0 ⟨Ident.ofNat 8, none⟩] rfl 0 peer (.v4 1 2) rfl (by decide)
    (by decide +kernel) _ selected (List.cons_ne_nil _ _)
  have later := pushed (fun scene _ request => (.ok ⟨request.tag, .stored true⟩, scene))
    ⟨welcomed, 0, ()⟩ (Scene.sending ⟨welcomed, 0, ()⟩) (Ident.ofNat 1).octets [7]
    ⟨welcomed.lastTag + 1, .stored true⟩ [] rfl List.not_mem_nil rfl rfl
  exact ⟨welcomed, taken, live, errands, later.2⟩

end Node
end XorOverlay
