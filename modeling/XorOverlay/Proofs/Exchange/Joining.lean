import Mathlib
import XorOverlay.Node.Operation
import XorOverlay.Proofs.Exchange.Gathering
import XorOverlay.Proofs.Exchange.MeshSearches
import XorOverlay.Proofs.Lookup.Introduction

/-!
A newcomer joins nodes that have all met each other. The one it pings answers with its name; whoever
it asks for the closest to its own name answers with all others, whomever it has asked before. Its
search is one that is introduced to everyone, so it finds them all and calls them all, and at the
end the newcomer has met everyone and everyone has met the newcomer.
-/

namespace XorOverlay

set_option autoImplicit false

/-- Everyone of them has met all others, and nobody else has met anyone. -/
def Company (mates : List Contact) (one other : Contact) : Prop :=
  one ∈ mates ∧ other ∈ mates ∧ one ≠ other

/-- A newcomer and those it has called have met as well. -/
def Greeting (mates : List Contact) (newcomer : Contact) (greeted : List Contact)
    (one other : Contact) : Prop :=
  Company mates one other ∨ (one = newcomer ∧ other ∈ greeted) ∨ (other = newcomer ∧ one ∈ greeted)

section Greeting

variable {mates greeted : List Contact} {newcomer peer : Contact}

theorem company_greets (one other : Contact) :
    Company mates one other ↔ Greeting mates newcomer [] one other := by
  simp [Greeting]

theorem greeting_hears (one other : Contact) :
    Hears (Hears (Greeting mates newcomer greeted) peer newcomer) newcomer peer one other ↔
      Greeting mates newcomer (greeted ++ [peer]) one other := by
  simp only [Hears, Greeting, List.mem_append, List.mem_singleton]
  tauto

/-- With everyone greeted the newcomer belongs to the company. -/
theorem company_of_greeting (new : newcomer ∉ mates) (inside : greeted ⊆ mates)
    (everyone : mates ⊆ greeted) (one other : Contact) :
    Greeting mates newcomer greeted one other ↔ Company (mates ++ [newcomer]) one other := by
  have same : ∀ contact, contact ∈ greeted ↔ contact ∈ mates :=
    fun contact => ⟨@inside contact, @everyone contact⟩
  simp only [Greeting, Company, same, List.mem_append, List.mem_singleton]
  constructor
  · rintro (⟨first, second, apart⟩ | ⟨rfl, member⟩ | ⟨rfl, member⟩)
    · exact ⟨Or.inl first, Or.inl second, apart⟩
    · exact ⟨Or.inr rfl, Or.inl member, fun equal => new (equal ▸ member)⟩
    · exact ⟨Or.inl member, Or.inr rfl, fun equal => new (equal ▸ member)⟩
  · rintro ⟨first | rfl, second | rfl, apart⟩
    · exact Or.inl ⟨first, second, apart⟩
    · exact Or.inr (Or.inr ⟨rfl, first⟩)
    · exact Or.inr (Or.inl ⟨rfl, second⟩)
    · exact (apart rfl).elim

/-- A mate names all others of the company to the newcomer, whomever that has greeted. -/
theorem introduced_by_mate {all contacts : List Contact} (distinct : (mates.map Contact.id).Nodup)
    (foreign : ∀ mate ∈ mates, mate.id ≠ newcomer.id) (perm : all.Perm mates)
    (sorted : Ascending newcomer.id all) (member : peer ∈ mates)
    (ascending : Ascending newcomer.id contacts)
    (named : ∀ contact, contact ∈ contacts ↔
      Greeting mates newcomer greeted peer contact ∧ contact.id ≠ newcomer.id) :
    contacts = all.filter fun contact => contact.id != peer.id := by
  have part : Ascending newcomer.id (all.filter fun contact => contact.id != peer.id) :=
    List.Pairwise.filter _ sorted
  apply Ascending.perm_eq ascending part
  apply (List.perm_ext_iff_of_nodup (List.Nodup.of_map _ ascending.ids_nodup)
    (List.Nodup.of_map _ part.ids_nodup)).mpr
  intro contact
  rw [named, List.mem_filter, perm.mem_iff, bne_iff_ne]
  constructor
  · rintro ⟨⟨_, known, apart⟩ | ⟨same, _⟩ | ⟨same, _⟩, stranger⟩
    · exact ⟨known, fun equal => apart (List.inj_on_of_nodup_map distinct known member equal).symm⟩
    · exact (foreign peer member (congrArg Contact.id same)).elim
    · exact (stranger (congrArg Contact.id same)).elim
  · rintro ⟨known, apart⟩
    exact ⟨Or.inl ⟨member, known, fun equal => apart (congrArg Contact.id equal).symm⟩,
      foreign contact known⟩

end Greeting

namespace Scene

/-- A newcomer among nodes that have all met each other. -/
structure Joins (line : Nat) (crew roster mates : List Contact) (newcomer : Contact)
    (greeted : List Contact) (scene : Scene Cluster) : Prop where
  gathers : scene.Gathers line crew roster (Greeting mates newcomer greeted)
  acting : scene.node.contact = newcomer
  greets : greeted ⊆ mates
  inside : mates ⊆ roster
  distinct : (mates.map Contact.id).Nodup
  foreign : ∀ mate ∈ mates, mate.id ≠ newcomer.id

variable {line : Nat} {crew roster mates greeted : List Contact} {newcomer : Contact}
  {scene : Scene Cluster}

/-- A mate answers as one of a company, and is greeted then. -/
theorem call_joins (joins : scene.Joins line crew roster mates newcomer greeted) (fit : Crew crew)
    {peer : Contact} (member : peer ∈ mates) {dest : Contact}
    (there : dest.endpoint = peer.endpoint) {query : Query} (named : query ≠ .ping → dest = peer)
    (asks : query.Joins newcomer.id) :
    ∃ reply later, scene.call (Cluster.carrier line) dest query = (.answered reply, later) ∧
      later.Joins line crew roster mates newcomer (greeted ++ [peer]) ∧
      reply.Introduces peer.id newcomer.id (Greeting mates newcomer greeted peer) query := by
  have acting := joins.acting
  subst acting
  obtain ⟨reply, later, called, same, gathers, introduces⟩ := call_gathers joins.gathers fit
    (joins.inside member) (joins.foreign peer member) there named asks
  refine ⟨reply, later, called, { joins with
    gathers := ⟨Cluster.gathers_congr gathers.whole greeting_hears, gathers.inside⟩
    acting := same
    greets := ?_ }, introduces⟩
  rw [List.append_subset, List.cons_subset]
  exact ⟨joins.greets, member, List.nil_subset _⟩

section Search

variable {all : List Contact} (fit : Crew crew) (perm : all.Perm mates)
  (sorted : Ascending newcomer.id all)
include fit perm sorted

/-- A round of the newcomer's search is one of introductions, and greets whom it asks. -/
theorem round_joins (joins : scene.Joins line crew roster mates newcomer greeted)
    {probes : List Contact} (known : probes ⊆ all) :
    Lookup.picked Reply.contacts? (asking line (.findNode newcomer.id) scene probes).1 =
        Lookup.introductions all probes ∧
      (asking line (.findNode newcomer.id) scene probes).2.Joins line crew roster mates newcomer
        (greeted ++ probes) := by
  unfold asking
  -- Every call greets one more, so whoever has been greeted before is left open in the induction.
  induction probes generalizing scene greeted with
  | nil =>
      rw [List.append_nil]
      exact ⟨rfl, joins⟩
  | cons probe probes ih =>
      rw [List.cons_subset] at known
      have member := perm.mem_iff.mp known.1
      obtain ⟨reply, later, called, after, contacts, rfl, ascending, named⟩ :=
        @call_joins _ _ _ _ _ _ _ joins fit probe member probe rfl (.findNode newcomer.id)
          (fun _ => rfl) rfl
      obtain ⟨brought, last⟩ := ih after known.2
      have told :=
        introduced_by_mate joins.distinct joins.foreign perm sorted member ascending named
      rw [List.append_assoc, List.singleton_append] at last
      rw [each, called]
      refine ⟨?_, last⟩
      rw [Lookup.introductions, List.map_cons, ← told]
      exact congrArg _ brought

theorem search_joins :
    Lookup.Agree (fun contact => contact ∈ all)
      (Lookup.NodeSearch.Fine newcomer.id fun contact => contact ∈ all)
      (fun (state : Scene Cluster) (asked : List Contact) =>
        state.Joins line crew roster mates newcomer asked)
      (Lookup.picking Reply.contacts? (asking line (.findNode newcomer.id)))
      (Lookup.introducing all) := by
  refine ⟨?_, ?_, ?_⟩
  · intro state asked probes joins known
    exact (round_joins fit perm sorted joins known).1
  · intro state asked probes joins known
    exact (round_joins fit perm sorted joins known).2
  · intro state asked probes joins known outcome among
    rw [Lookup.picking, (round_joins fit perm sorted joins known).1] at among
    obtain ⟨probe, chosen, rfl⟩ := List.mem_map.mp among
    refine ⟨known probe chosen, ?_⟩
    intro brought answered contact listed _
    rw [← Option.some.inj answered] at listed
    exact List.mem_of_mem_filter listed

theorem circle_joins (joins : scene.Joins line crew roster mates newcomer greeted) {seed : Contact}
    (seeded : seed ∈ mates) :
    Lookup.NodeSearch.Circle newcomer.id newcomer.id scene.node.width all seed := by
  have acting := joins.acting
  subst acting
  have attends := gathers_acting joins.gathers
  have listed : ∀ contact ∈ mates, contact ∈ crew :=
    fun contact member => Cluster.gathers_listed joins.gathers.whole (joins.inside member)
  refine ⟨sorted, ?_, ?_, ?_, perm.mem_iff.mpr seeded⟩
  · intro contact member
    obtain ⟨host, port, lives⟩ := fit.writable contact (listed contact (perm.mem_iff.mp member))
    rw [lives]
    rfl
  · exact fun contact member => joins.foreign contact (perm.mem_iff.mp member)
  · have new : scene.node.contact ∉ mates := fun member => joins.foreign _ member rfl
    have count := length_without (List.Nodup.of_map _ joins.distinct) listed attends.listed new
    have wide := attends.wide
    rw [← perm.length_eq] at count
    omega

end Search

/-- A newcomer that has met one of the company searches its own name, and finds all of them. -/
theorem lookup_joins {seed : Contact} (fit : Crew crew)
    (joins : scene.Joins line crew roster mates newcomer [seed]) :
    (scene.lookup (Cluster.carrier line) newcomer.id [seed]).1.Perm mates ∧
      Ascending newcomer.id (scene.lookup (Cluster.carrier line) newcomer.id [seed]).1 ∧
      (scene.lookup (Cluster.carrier line) newcomer.id [seed]).2.Gathers line crew roster
        (Company (mates ++ [newcomer])) := by
  have seeded : seed ∈ mates := joins.greets List.mem_cons_self
  have new : newcomer ∉ mates := fun member => joins.foreign newcomer member rfl
  have own : scene.node.id = newcomer.id := congrArg Contact.id joins.acting
  obtain ⟨all, _, perm, sorted⟩ := @Ranked.foldl_insert_ascending newcomer.id mates []
    (by rw [List.append_nil]; exact joins.distinct) List.Pairwise.nil
  rw [List.append_nil] at perm
  -- The search is held against one that hears the same and only notes down whom it asks.
  obtain ⟨same, last, _⟩ := Lookup.NodeSearch.find_nodes_agree (search_joins fit perm sorted)
    newcomer.id scene.node.width scene.node.parallelism
    (List.forall_mem_singleton.mpr (perm.mem_iff.mpr seeded)) scene [seed] joins
  obtain ⟨found, everyone⟩ := Lookup.NodeSearch.find_nodes_introduced
    (circle_joins fit perm sorted joins seeded) (gathers_acting joins.gathers).busy
  have whole : mates ⊆ _ := fun mate member => everyone (perm.mem_iff.mpr member)
  rw [lookup_eq, own]
  refine ⟨?_, ?_, Cluster.gathers_congr last.gathers.whole ?_, last.gathers.inside⟩
  · rw [← found, ← same] at perm
    exact perm
  · rw [← found, ← same] at sorted
    exact sorted
  · exact company_of_greeting new last.greets whole

/-- A newcomer joins a company through one of them. -/
theorem bootstrap_joins (fit : Crew crew) (joins : scene.Joins line crew roster mates newcomer [])
    {seed : Contact} (seeded : seed ∈ mates) {endpoint : Endpoint}
    (lives : seed.endpoint = some endpoint) :
    (scene.bootstrap (Cluster.carrier line) [endpoint]).1.Perm mates ∧
      Ascending newcomer.id (scene.bootstrap (Cluster.carrier line) [endpoint]).1 ∧
      (scene.bootstrap (Cluster.carrier line) [endpoint]).2.Gathers line crew roster
        (Company (mates ++ [newcomer])) := by
  obtain ⟨reply, greeted, called, after, rfl⟩ := @call_joins _ _ _ _ _ _ _ joins fit seed seeded
    ⟨Ident.zero, some endpoint⟩ lives.symm .ping (fun other => (other rfl).elim) trivial
  have pinged : each (ping (Cluster.carrier line)) [⟨Ident.zero, some endpoint⟩] scene =
      ([(⟨Ident.zero, some endpoint⟩, some seed.id)], greeted) := by
    unfold each ping
    rw [called]
    rfl
  have named : (⟨seed.id, some endpoint⟩ : Contact) = seed := by
    rw [← lives]
  unfold bootstrap
  simp only [List.map_cons, List.map_nil, pinged, List.filterMap_cons, Option.map_some,
    List.filterMap_nil, named]
  rw [show greeted.node.id = newcomer.id from congrArg Contact.id after.acting]
  exact lookup_joins fit after

end Scene
end XorOverlay
