import Mathlib
import XorOverlay.Proofs.Exchange.Mesh
import XorOverlay.Proofs.Lookup.Informed

/-!
Searches in a mesh. A node that knows all others begins a search with the closest of them, and hears
of nobody closer, so these are what it finds. A search for the value begins with the closest of them
too, and if that one holds the value its first round brings it.
-/

namespace XorOverlay

set_option autoImplicit false

namespace Scene

variable {line : Nat} {roster : List Contact} {write : Write} {scene : Scene Cluster}

/-- Sends one query to several contacts. -/
def asking (line : Nat) (query : Query) : Lookup.Ask (Scene Cluster) Reply :=
  fun scene dests =>
    each (fun dest scene => scene.call (Cluster.carrier line) dest query) dests scene

/-- What calls to others bring: an answer of everyone, and from whoever held the value the value. -/
structure Brings (line : Nat) (roster : List Contact) (write : Write) (query : Query)
    (scene : Scene Cluster) (dests : List Contact) (outcomes : List (Contact × Option Reply)) :
    Prop where
  asked : outcomes.map Prod.fst = dests
  told : ∀ outcome ∈ outcomes, ∃ copied reply, outcome.2 = some reply ∧
    write.Tells roster copied query reply ∧
      ((scene.whole line).HeldBy write outcome.1 → copied = true)

theorem mem_of_asked {dests : List Contact} {outcomes : List (Contact × Option Reply)}
    (asked : outcomes.map Prod.fst = dests) {outcome : Contact × Option Reply}
    (among : outcome ∈ outcomes) : outcome.1 ∈ dests := by
  rw [← asked]
  exact List.mem_map_of_mem among

theorem asking_meshed (meshed : scene.Meshed line roster write) (short : write.value.Short)
    {query : Query} (asks : write.Asks query) {dests : List Contact}
    (others : ∀ dest ∈ dests, dest ∈ roster ∧ dest.id ≠ scene.node.id) :
    Leads line roster write scene (asking line query scene dests).2 ∧
      Brings line roster write query scene dests (asking line query scene dests).1 ∧
      ∀ value, query = .store write.key.octets value →
        ∀ dest ∈ dests, ((asking line query scene dests).2.whole line).HeldBy write dest := by
  unfold asking
  induction dests generalizing scene with
  | nil => exact ⟨leads_refl meshed, ⟨rfl, nofun⟩, nofun⟩
  | cons dest dests ih =>
      rw [List.forall_mem_cons] at others
      obtain ⟨copied, reply, later, called, leads, tells, held, stored⟩ :=
        meshed_call meshed short others.1.1 others.1.2 asks
      have same := leads_id meshed leads
      obtain ⟨last, brings, kept⟩ := ih leads.meshed (same.symm ▸ others.2)
      rw [each, called]
      refine ⟨leads_trans leads last, ⟨congrArg (List.cons dest) brings.asked, ?_⟩, ?_⟩
      · intro outcome listed
        rcases List.mem_cons.mp listed with rfl | later
        · exact ⟨copied, reply, rfl, tells, held⟩
        · obtain ⟨copied, reply, answered, tells, held⟩ := brings.told outcome later
          exact ⟨copied, reply, answered, tells, fun before => held (leads.keeps _ before)⟩
      · intro value storing
        rw [List.forall_mem_cons]
        exact ⟨last.keeps dest (stored value storing), kept value storing⟩

/-- All others, closest to a target first. -/
structure Others (target : Ident) (roster : List Contact) (own : Ident) (all : List Contact) :
    Prop where
  ascending : Ascending target all
  mem : ∀ contact, contact ∈ all ↔ contact ∈ roster ∧ contact.id ≠ own

section Searches

variable {target : Ident} {all : List Contact} {later : Scene Cluster}

theorem others_live (meshed : scene.Meshed line roster write)
    (others : Others target roster scene.node.id all) :
    ∀ contact ∈ all, contact.endpoint.isSome = true := by
  intro contact member
  obtain ⟨place, peer, _, rfl⟩ :=
    Cluster.mesh_found meshed.mesh ((others.mem contact).mp member).1
  rfl

/-- A round of a search that began in a mesh, some time later. -/
theorem round_meshed (meshed : scene.Meshed line roster write) (short : write.value.Short)
    (others : Others target roster scene.node.id all) {query : Query} (asks : write.Asks query)
    (leads : Leads line roster write scene later) {probes : List Contact}
    (known : ∀ probe ∈ probes, probe ∈ all) :
    Leads line roster write scene (asking line query later probes).2 ∧
      Brings line roster write query later probes (asking line query later probes).1 := by
  have same := leads_id meshed leads
  obtain ⟨last, brings, _⟩ := asking_meshed leads.meshed short asks
    (fun probe chosen => same.symm ▸ (others.mem probe).mp (known probe chosen))
  exact ⟨leads_trans leads last, brings⟩

theorem contacts_informs (others : Others target roster scene.node.id all)
    {probes : List Contact} {outcomes : List (Contact × Option Reply)}
    (brings : Brings line roster write (.findNode target) later probes outcomes) :
    Lookup.NodeSearch.Informs scene.node.id all (Lookup.picked Reply.contacts? outcomes) := by
  intro outcome among
  obtain ⟨made, listed, rfl⟩ := List.mem_map.mp among
  obtain ⟨copied, reply, answered, ⟨contacts, rfl, inside⟩, _⟩ := brings.told made listed
  refine ⟨contacts, by rw [answered]; rfl, ?_⟩
  exact fun contact named foreign => (others.mem contact).mpr ⟨inside named, foreign⟩

/-- The search of a node that begins with the closest of all others finds these. -/
theorem lookup_meshed (meshed : scene.Meshed line roster write) (short : write.value.Short)
    (others : Others target roster scene.node.id all) :
    (scene.lookup (Cluster.carrier line) target (all.take scene.node.width)).1 =
        all.take scene.node.width ∧
      Leads line roster write scene
        (scene.lookup (Cluster.carrier line) target (all.take scene.node.width)).2 := by
  have asks : write.Asks (.findNode target) := trivial
  have round : ∀ state probes, Leads line roster write scene state →
      (∀ probe ∈ probes, probe ∈ all) →
      Leads line roster write scene (asking line (.findNode target) state probes).2 ∧
        (∀ outcome ∈ (asking line (.findNode target) state probes).1, outcome.1 ∈ all) ∧
        Lookup.NodeSearch.Informs scene.node.id all
          (Lookup.picked Reply.contacts? (asking line (.findNode target) state probes).1) := by
    intro state probes leads known
    obtain ⟨last, brings⟩ := round_meshed meshed short others asks leads known
    exact ⟨last, fun outcome among => known _ (mem_of_asked brings.asked among),
      contacts_informs others brings⟩
  have near : ∀ seed ∈ all.take scene.node.width, seed ∈ all :=
    fun seed chosen => List.mem_of_mem_take chosen
  obtain ⟨leads, found⟩ := Lookup.NodeSearch.find_nodes_among scene.node.width
    scene.node.parallelism others.ascending (others_live meshed others) round (leads_refl meshed)
    near
  rw [lookup_eq]
  exact ⟨found rfl, leads⟩

theorem find_value_each (key : Ident) (dests : List Contact) (scene : Scene Cluster) :
    each (findValue (Cluster.carrier line) key) dests scene =
      Lookup.picking Reply.finding? (asking line (.findValue key.octets)) scene dests :=
  each_picked (fun dest scene => scene.call (Cluster.carrier line) dest (.findValue key.octets))
    Reply.finding? dests scene

/-- A reply to a request for the value is the value or names nodes of the roster. -/
theorem finding_of_tells {copied : Bool} {reply : Reply}
    (others : Others target roster scene.node.id all)
    (tells : write.Tells roster copied (.findValue write.key.octets) reply) :
    ∃ finding, reply.finding? = some finding ∧
      Lookup.ValueSearch.Fine scene.node.id (fun contact => contact ∈ all)
        (fun value => value = write.value) finding ∧
      (copied = true → finding = .found write.value) := by
  unfold Write.Tells at tells
  split_ifs at tells with held
  · rw [tells]
    exact ⟨_, rfl, rfl, fun _ => rfl⟩
  · obtain ⟨contacts, rfl, inside⟩ := tells
    refine ⟨_, rfl, ?_, fun copied => (held copied).elim⟩
    exact fun contact named foreign => (others.mem contact).mpr ⟨inside named, foreign⟩

theorem lookup_value_agrees (meshed : scene.Meshed line roster write)
    (short : write.value.Short) (others : Others write.key roster scene.node.id all) :
    Lookup.Agree (fun contact => contact ∈ all)
      (Lookup.ValueSearch.Fine scene.node.id (fun contact => contact ∈ all)
        fun value => value = write.value)
      (fun first second : Scene Cluster => first = second ∧ Leads line roster write scene first)
      (fun scene probes => each (findValue (Cluster.carrier line) write.key) probes scene)
      (fun scene probes => each (findValue (Cluster.carrier line) write.key) probes scene) := by
  have asks : write.Asks (.findValue write.key.octets) := rfl
  refine ⟨?_, ?_, ?_⟩
  · rintro state _ probes ⟨rfl, _⟩ _
    rfl
  · rintro state _ probes ⟨rfl, leads⟩ known
    rw [find_value_each]
    exact ⟨rfl, (round_meshed meshed short others asks leads known).1⟩
  · rintro state _ probes ⟨rfl, leads⟩ known outcome among
    rw [find_value_each] at among
    obtain ⟨made, listed, rfl⟩ := List.mem_map.mp among
    have brings := (round_meshed meshed short others asks leads known).2
    refine ⟨known _ (mem_of_asked brings.asked listed), ?_⟩
    intro brought answered
    obtain ⟨copied, reply, replied, tells, _⟩ := brings.told made listed
    obtain ⟨finding, chosen, fine, _⟩ := finding_of_tells others tells
    simp only [replied, Option.bind_some, chosen] at answered
    exact Option.some.inj answered ▸ fine

/-- Whoever asks the closest holder of the value first finds the value. -/
theorem find_value_meshed (meshed : scene.Meshed line roster write) (short : write.value.Short)
    {nearest : Contact} {rest : List Contact}
    (others : Others write.key roster scene.node.id (nearest :: rest))
    (held : (scene.whole line).HeldBy write nearest) :
    (Lookup.findValue scene.node.id
      (fun scene probes => each (findValue (Cluster.carrier line) write.key) probes scene)
      write.key scene.node.width scene.node.parallelism
      ((nearest :: rest).take scene.node.width) scene).1.isSome = true := by
  have insider := meshed_insider meshed
  have asks : write.Asks (.findValue write.key.octets) := rfl
  have known : ∀ probe ∈ (Lookup.Frontier.start write.key scene.node.width scene.node.parallelism
      ((nearest :: rest).take scene.node.width)).probes, probe ∈ nearest :: rest :=
    Lookup.Frontier.probes_within (Lookup.Frontier.start_within write.key scene.node.width
      scene.node.parallelism fun seed near => List.mem_of_mem_take near)
  have probed := Lookup.Frontier.nearest_probed insider.wide insider.busy others.ascending
    (others_live meshed others)
  have brings := (round_meshed meshed short others asks (leads_refl meshed) known).2
  obtain ⟨outcome, listed, same⟩ := List.mem_map.mp (brings.asked.symm ▸ probed)
  obtain ⟨copied, reply, replied, tells, copy⟩ := brings.told outcome listed
  obtain ⟨finding, chosen, _, found⟩ := finding_of_tells others tells
  rw [same] at copy
  apply Lookup.ValueSearch.find_value_at_once probed
  rw [find_value_each, ← found (copy held)]
  refine List.mem_map.mpr ⟨outcome, listed, ?_⟩
  rw [same, replied, Option.bind_some, chosen]

/-- The search for the value finds it, and orders a repair by nobody but one of the others. -/
theorem lookup_value_meshed (meshed : scene.Meshed line roster write) (short : write.value.Short)
    {nearest : Contact} {rest : List Contact}
    (others : Others write.key roster scene.node.id (nearest :: rest))
    (held : (scene.whole line).HeldBy write nearest) :
    (scene.lookupValue (Cluster.carrier line) write.key
        ((nearest :: rest).take scene.node.width)).1 = some write.value ∧
      Leads line roster write scene (scene.lookupValue (Cluster.carrier line) write.key
        ((nearest :: rest).take scene.node.width)).2 := by
  have some := find_value_meshed meshed short others held
  obtain ⟨_, ⟨_, leads⟩, hit⟩ := Lookup.ValueSearch.find_value_agree
    (lookup_value_agrees meshed short others) write.key scene.node.width scene.node.parallelism
    (fun seed near => List.mem_of_mem_take near) scene scene ⟨rfl, leads_refl meshed⟩
  unfold lookupValue
  generalize Lookup.findValue scene.node.id _ write.key _ _ _ scene = result at some leads hit ⊢
  obtain ⟨_ | ⟨value, _ | peer⟩, last⟩ := result
  · cases some
  · exact ⟨congrArg Option.some (hit _ rfl).1, leads⟩
  · obtain ⟨same, repaired⟩ := hit _ rfl
    change value = write.value at same
    have insider := meshed_insider leads.meshed
    have due := (others.mem peer).mp (repaired peer rfl)
    rw [same]
    refine ⟨rfl, leads_trans leads ?_⟩
    refine leads_map leads.meshed (fun node =>
      { node with errands := node.errands ++ [⟨peer, write.key.octets, write.value⟩] }) rfl
      (Node.errands_insider insider ?_) fun copy => copy
    intro errand listed
    rcases List.mem_append.mp listed with old | new
    · exact insider.errands errand old
    · rw [List.mem_singleton.mp new, leads_id meshed leads]
      exact ⟨due.1, due.2, ⟨write.key.short_octets, short⟩, fun _ => rfl⟩

end Searches
end Scene
end XorOverlay
