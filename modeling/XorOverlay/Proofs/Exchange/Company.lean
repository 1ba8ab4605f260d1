import Mathlib
import XorOverlay.Proofs.Exchange.Copies
import XorOverlay.Proofs.Node.Companion

/-!
Clusters of companions, seen through the copies that they hold. What a call does to the cluster is a
matter of these alone: it is answered, everyone goes on knowing all others, and the one that was asked
holds what it was sent.
-/

namespace XorOverlay

set_option autoImplicit false

/-- The copies that nodes hold, by place and key. -/
abbrev Copies := Nat → Ident → Option Octets

/-- A value is among the copies of a key. -/
def Copies.Hold (copies : Copies) (key : Ident) (value : Octets) : Prop :=
  ∃ place, copies place key = some value

/-- Where all names differ, everyone has one place. -/
theorem place_unique {roster : List Contact} (distinct : (roster.map Contact.id).Nodup)
    {place other : Nat} {contact : Contact} (here : roster[place]? = some contact)
    (there : roster[other]? = some contact) : place = other := by
  have nodup := List.Nodup.of_map Contact.id distinct
  obtain ⟨inside, rfl⟩ := List.getElem?_eq_some_iff.mp here
  exact (List.getElem?_inj inside nodup).mp (here.trans there.symm)

namespace Query

variable {roster dests : List Contact} {query : Query} {copies : Copies}

/-- The copies after a request has been made to some contacts. -/
def leaves (roster : List Contact) (query : Query) (dests : List Contact) (copies : Copies) :
    Copies := fun place key =>
  if (roster[place]?).any dests.contains then (query.stores key).or (copies place key)
  else copies place key

theorem leaves_nil (roster : List Contact) (query : Query) (copies : Copies) :
    query.leaves roster [] copies = copies := by
  funext place key
  unfold leaves
  cases roster[place]? <;> rfl

theorem leaves_cons (roster : List Contact) (query : Query) (dest : Contact)
    (dests : List Contact) (copies : Copies) :
    query.leaves roster (dest :: dests) copies =
      query.leaves roster dests (query.leaves roster [dest] copies) := by
  funext place key
  unfold leaves
  cases roster[place]? with
  | none => rfl
  | some peer =>
      by_cases first : peer = dest <;> by_cases later : peer ∈ dests <;>
        cases query.stores key <;> simp [first, later]

/-- A search leaves the copies as they are. -/
theorem leaves_of_silent (silent : ∀ key, query.stores key = none) (roster dests : List Contact)
    (copies : Copies) : query.leaves roster dests copies = copies := by
  funext place key
  unfold leaves
  rw [silent key, Option.none_or, ite_self]

end Query

namespace Cluster

/-- Companions on lines of their own, with the copies they hold and the errands they have to run. -/
structure Company (roster : List Contact) (now : Nanoseconds) (copies : Copies)
    (due : List (List Errand)) (cluster : Cluster) : Prop where
  clock : cluster.clock = now
  names : cluster.roster = roster
  distinct : (roster.map Contact.id).Nodup
  attached : cluster.Attached
  companions : ∀ node ∈ cluster.nodes, node.Companion roster
  held : ∀ place key, cluster.held place key = copies place key
  due : cluster.nodes.map Node.errands = due

variable {roster : List Contact} {now : Nanoseconds} {copies : Copies} {due : List (List Errand)}
  {cluster : Cluster}

theorem companion_at (company : cluster.Company roster now copies due) {line : Nat} {node : Node}
    (stands : cluster.nodes[line]? = some node) : node.Companion roster :=
  company.companions node (List.mem_of_getElem? stands)

theorem copy_at (company : cluster.Company roster now copies due) {line : Nat} {node : Node}
    (stands : cluster.nodes[line]? = some node) (key : Ident) :
    node.copy now key = copies line key := by
  rw [← company.held line key, held, stands, company.clock]
  rfl

theorem contact_at (company : cluster.Company roster now copies due) {line : Nat} {node : Node}
    (stands : cluster.nodes[line]? = some node) : roster[line]? = some node.contact := by
  rw [← company.names, Cluster.roster, List.getElem?_map, stands]
  rfl

theorem errands_at (company : cluster.Company roster now copies due) {line : Nat} {node : Node}
    (stands : cluster.nodes[line]? = some node) : due[line]? = some node.errands := by
  rw [← company.due, List.getElem?_map, stands]
  rfl

theorem found_in_company (company : cluster.Company roster now copies due) {contact : Contact}
    (listed : contact ∈ roster) : ∃ (place : Nat) (peer : Node),
      cluster.nodes[place]? = some peer ∧ peer.contact = contact := by
  rw [← company.names] at listed
  exact found_of_roster listed

theorem writable_in_company (company : cluster.Company roster now copies due) {contact : Contact}
    (listed : contact ∈ roster) : contact.Writable := by
  rw [← company.names] at listed
  exact attached_writable company.attached listed

theorem due_still (company : cluster.Company roster now copies due) {line : Nat} {node : Node}
    (stands : cluster.nodes[line]? = some node) : due.set line node.errands = due := by
  obtain ⟨inside, here⟩ := List.getElem?_eq_some_iff.mp (errands_at company stands)
  rw [← here, List.set_getElem_self]

/-- A member may change its copies and its errands, and nobody else's. -/
theorem company_set (company : cluster.Company roster now copies due) {place : Nat}
    {node after : Node} (stands : cluster.nodes[place]? = some node)
    (same : after.contact = node.contact) (companion : after.Companion roster) {network : Network}
    (lines : network.SameLines cluster.network) {changed : Copies}
    (own : ∀ key, changed place key = after.copy now key)
    (others : ∀ other, other ≠ place → ∀ key, changed other key = copies other key) :
    Company roster now changed (due.set place after.errands)
      ⟨network, cluster.nodes.set place after, cluster.clock⟩ where
  clock := company.clock
  names := (roster_set stands same).trans company.names
  distinct := company.distinct
  attached := attached_set company.attached stands same lines
  companions member listed := by
    rcases List.mem_or_eq_of_mem_set listed with old | rfl
    · exact company.companions member old
    · exact companion
  held other key := by
    have inside := (List.getElem?_eq_some_iff.mp stands).1
    unfold held
    rw [List.getElem?_set]
    split_ifs with here
    · subst here
      rw [own, ← company.clock]
      rfl
    · rw [others other (Ne.symm here)]
      exact company.held other key
  due := by
    rw [← company.due, List.map_set]

/-- A member changes, but neither its copies nor its errands do. -/
theorem company_calm (company : cluster.Company roster now copies due) {place : Nat}
    {node after : Node} (stands : cluster.nodes[place]? = some node)
    (same : after.contact = node.contact) (companion : after.Companion roster) {network : Network}
    (lines : network.SameLines cluster.network)
    (kept : ∀ key, after.copy now key = node.copy now key) (errands : after.errands = node.errands) :
    Company roster now copies due ⟨network, cluster.nodes.set place after, cluster.clock⟩ := by
  have changed := company_set company stands same companion lines
    (fun key => (copy_at company stands key).symm.trans (kept key).symm) fun _ _ _ => rfl
  rw [errands, due_still company stands] at changed
  exact changed

end Cluster

namespace Scene

/-- One of a company acts. -/
structure Accompanied (line : Nat) (roster : List Contact) (now : Nanoseconds) (copies : Copies)
    (due : List (List Errand)) (scene : Scene Cluster) : Prop where
  company : (scene.whole line).Company roster now copies due
  inside : line < scene.outside.nodes.length

variable {line : Nat} {roster : List Contact} {now : Nanoseconds} {copies : Copies}
  {due : List (List Errand)} {scene later : Scene Cluster}

theorem companion_acting (accompanied : scene.Accompanied line roster now copies due) :
    scene.node.Companion roster :=
  Cluster.companion_at accompanied.company (whole_acting accompanied.inside)

theorem contact_acting (accompanied : scene.Accompanied line roster now copies due) :
    roster[line]? = some scene.node.contact :=
  Cluster.contact_at accompanied.company (whole_acting accompanied.inside)

theorem copy_acting (accompanied : scene.Accompanied line roster now copies due) (key : Ident) :
    scene.node.copy now key = copies line key :=
  Cluster.copy_at accompanied.company (whole_acting accompanied.inside) key

theorem clock_acting (accompanied : scene.Accompanied line roster now copies due) :
    scene.clock = now :=
  accompanied.company.clock

/-- The acting member keeps its name, whatever becomes of copies and errands. -/
theorem same_acting (accompanied : scene.Accompanied line roster now copies due)
    {changed : Copies} {owed : List (List Errand)}
    (after : later.Accompanied line roster now changed owed) :
    later.node.contact = scene.node.contact :=
  Option.some.inj ((contact_acting after).symm.trans (contact_acting accompanied))

theorem same_id_acting (accompanied : scene.Accompanied line roster now copies due)
    {changed : Copies} {owed : List (List Errand)}
    (after : later.Accompanied line roster now changed owed) : later.node.id = scene.node.id :=
  congrArg Contact.id (same_acting accompanied after)

theorem accompanied_map (accompanied : scene.Accompanied line roster now copies due)
    (change : Node → Node) (same : (change scene.node).contact = scene.node.contact)
    (companion : (change scene.node).Companion roster) {changed : Copies}
    (own : ∀ key, changed line key = (change scene.node).copy now key)
    (others : ∀ other, other ≠ line → ∀ key, changed other key = copies other key) :
    (scene.mapNode change).Accompanied line roster now changed
      (due.set line (change scene.node).errands) := by
  refine ⟨?_, accompanied.inside⟩
  rw [whole_map]
  exact Cluster.company_set accompanied.company (whole_acting accompanied.inside) same companion
    (Network.same_lines_refl _) own others

theorem calm_map (accompanied : scene.Accompanied line roster now copies due)
    (change : Node → Node) (same : (change scene.node).contact = scene.node.contact)
    (companion : (change scene.node).Companion roster)
    (kept : ∀ key, (change scene.node).copy now key = scene.node.copy now key)
    (errands : (change scene.node).errands = scene.node.errands) :
    (scene.mapNode change).Accompanied line roster now copies due := by
  refine ⟨?_, accompanied.inside⟩
  rw [whole_map]
  exact Cluster.company_calm accompanied.company (whole_acting accompanied.inside) same companion
    (Network.same_lines_refl _) kept errands

/-- Another member answers a request. -/
theorem carried_in_company (accompanied : scene.Accompanied line roster now copies due)
    {dest : Contact} (listed : dest ∈ roster) (apart : dest.id ≠ scene.node.id) {request : Request}
    (sender : request.sender = scene.node.contact) (plain : request.query.Plain) :
    ∃ reply later endpoint, dest.endpoint = some endpoint ∧
      Cluster.carrier line scene endpoint request = (.ok ⟨request.tag, reply.carried⟩, later) ∧
      later.Accompanied line roster now (request.query.leaves roster [dest] copies) due ∧
      Query.Tells roster copies.Hold request.query reply := by
  have company := accompanied.company
  obtain ⟨place, peer, found, rfl⟩ := Cluster.found_in_company company listed
  have companion := Cluster.companion_at company found
  have known : scene.node.contact ∈ roster := List.mem_of_getElem? (contact_acting accompanied)
  have asker : (⟨request.sender.id, some scene.node.endpoint⟩ : Contact) ∈ roster := by
    rw [sender]
    exact known
  have stranger : request.sender.id ≠ peer.id := by
    rw [sender]
    exact Ne.symm apart
  obtain ⟨reply, after, handled, tells, good, serves⟩ :=
    Node.handle_companion companion now asker stranger plain
  rw [← clock_acting accompanied] at handled
  have spoken : Query.Tells roster copies.Hold request.query reply :=
    Query.tells_mono (fun key _ _ held =>
      ⟨place, (Cluster.copy_at company found key).symm.trans held⟩) tells
  obtain ⟨network, later, lines, carried, _, inside, whole⟩ := carrier_reaches accompanied.inside
    company.attached found apart companion.active (Query.short_of_plain plain)
    (sender ▸ Cluster.writable_in_company company known) handled
    (fun contact inside => Cluster.writable_in_company company
      (Query.tells_named spoken request.tag contact inside))
  refine ⟨reply, later, peer.endpoint, rfl, carried, ⟨?_, inside⟩, spoken⟩
  have here := Cluster.contact_at company found
  rw [whole, ← Cluster.due_still company found, ← serves.errands]
  refine Cluster.company_set company found serves.contact good lines ?_ ?_
  · intro key
    rw [Query.leaves, here, serves.copies key, Cluster.copy_at company found]
    simp
  · intro other elsewhere key
    rw [Query.leaves]
    split_ifs with asked
    · obtain ⟨known, there, same⟩ := (Option.any_eq_true _ _).mp asked
      rw [List.mem_singleton.mp (List.contains_iff_mem.mp same)] at there
      exact (elsewhere (place_unique company.distinct there here)).elim
    · rfl

/-- Calls to other members are answered. -/
theorem call_in_company (accompanied : scene.Accompanied line roster now copies due)
    {dest : Contact} (listed : dest ∈ roster) (apart : dest.id ≠ scene.node.id) {query : Query}
    (plain : query.Plain) :
    ∃ reply later, scene.call (Cluster.carrier line) dest query = (.answered reply, later) ∧
      later.Accompanied line roster now (query.leaves roster [dest] copies) due ∧
      Query.Tells roster copies.Hold query reply := by
  have tagged : scene.sending.Accompanied line roster now copies due :=
    calm_map accompanied (fun node => { node with lastTag := scene.node.lastTag + 1 }) rfl
      { companion_acting accompanied with } (fun _ => rfl) rfl
  obtain ⟨reply, carried, endpoint, lives, answered, good, spoken⟩ :=
    @carried_in_company line roster now copies due scene.sending tagged dest listed apart
      (scene.request query) rfl plain
  have arrived := Query.tells_carried spoken
  have still : carried.node.id = scene.node.id := same_id_acting accompanied good
  have placed : dest.endpoint.isNone = false := by
    rw [lives]
    rfl
  obtain ⟨taken, welcomed⟩ := Node.welcome_companion (companion_acting good) carried.clock listed
    (still ▸ apart) placed
  rw [← Query.responder_tells arrived endpoint dest] at taken
  refine ⟨reply.carried, _, call_answered lives answered taken, ?_, arrived⟩
  rw [Query.responder_tells arrived endpoint dest]
  exact calm_map good (fun _ =>
    { carried.node with table := (carried.node.table.add carried.clock dest).1 }) rfl welcomed
    (fun _ => rfl) rfl

end Scene
end XorOverlay
