import Mathlib
import XorOverlay.Proofs.Exchange.Company
import XorOverlay.Proofs.Exchange.MeshSearches

/-!
Searches of companions. A search changes no copies. One for a name finds all others, as it begins with
all of them and hears of nobody else; one for a value brings a value that somebody holds, and may order
it to be stored with one more of the others.
-/

namespace XorOverlay

set_option autoImplicit false

namespace Scene

variable {line : Nat} {roster : List Contact} {now : Nanoseconds} {copies : Copies}
  {due : List (List Errand)} {scene later : Scene Cluster} {target key : Ident}
  {all seeds : List Contact}

/-- What calls to others bring: an answer of everyone. -/
structure Told (roster : List Contact) (copies : Copies) (query : Query) (dests : List Contact)
    (outcomes : List (Contact × Option Reply)) : Prop where
  asked : outcomes.map Prod.fst = dests
  told : ∀ outcome ∈ outcomes, ∃ reply, outcome.2 = some reply ∧
    Query.Tells roster copies.Hold query reply

theorem asking_in_company (accompanied : scene.Accompanied line roster now copies due)
    {query : Query} (plain : query.Plain) {dests : List Contact}
    (others : ∀ dest ∈ dests, dest ∈ roster ∧ dest.id ≠ scene.node.id) :
    (asking line query scene dests).2.Accompanied line roster now
        (query.leaves roster dests copies) due ∧
      Told roster copies query dests (asking line query scene dests).1 := by
  unfold asking
  induction dests generalizing scene copies with
  | nil =>
      rw [Query.leaves_nil]
      exact ⟨accompanied, rfl, nofun⟩
  | cons dest dests ih =>
      rw [List.forall_mem_cons] at others
      obtain ⟨reply, later, called, after, tells⟩ :=
        call_in_company accompanied others.1.1 others.1.2 plain
      have same := same_id_acting accompanied after
      obtain ⟨last, told⟩ := ih after (same.symm ▸ others.2)
      rw [each, called, Query.leaves_cons]
      refine ⟨last, congrArg (List.cons dest) told.asked, ?_⟩
      intro outcome listed
      rcases List.mem_cons.mp listed with rfl | other
      · exact ⟨reply, rfl, tells⟩
      · obtain ⟨reply, answered, tells⟩ := told.told outcome other
        refine ⟨reply, answered, Query.tells_mono ?_ tells⟩
        rintro key value rfl held
        rw [Query.leaves_of_silent fun _ => rfl] at held
        exact held

/-- A round of a search, some time after it began. -/
theorem round_in_company (accompanied : scene.Accompanied line roster now copies due)
    (fellows : Node.Fellows target roster scene.node.id all) {query : Query} (plain : query.Plain)
    (silent : ∀ key, query.stores key = none)
    (after : later.Accompanied line roster now copies due) {probes : List Contact}
    (known : ∀ probe ∈ probes, probe ∈ all) :
    (asking line query later probes).2.Accompanied line roster now copies due ∧
      Told roster copies query probes (asking line query later probes).1 := by
  have same := same_id_acting accompanied after
  have searched := asking_in_company after plain fun probe chosen => by
    have member := (fellows.mem probe).mp (known probe chosen)
    exact ⟨member.1, same.symm ▸ member.2.1⟩
  rw [Query.leaves_of_silent silent] at searched
  exact searched

theorem fellows_live (accompanied : scene.Accompanied line roster now copies due)
    (fellows : Node.Fellows target roster scene.node.id all) :
    ∀ contact ∈ all, contact.endpoint.isSome = true := by
  intro contact member
  obtain ⟨place, peer, _, rfl⟩ := Cluster.found_in_company accompanied.company
    ((fellows.mem contact).mp member).1
  rfl

theorem contacts_of_told (fellows : Node.Fellows target roster scene.node.id all)
    {probes : List Contact} {outcomes : List (Contact × Option Reply)}
    (told : Told roster copies (.findNode target) probes outcomes) :
    Lookup.NodeSearch.Informs scene.node.id all (Lookup.picked Reply.contacts? outcomes) := by
  intro outcome among
  obtain ⟨made, listed, rfl⟩ := List.mem_map.mp among
  obtain ⟨reply, answered, tells⟩ := told.told made listed
  cases tells with
  | nodes inside =>
      refine ⟨_, by rw [answered]; rfl, ?_⟩
      intro contact named foreign
      have member := inside contact named
      exact (fellows.mem contact).mpr ⟨member.1, foreign, member.2⟩

/-- A search among the others leaves everything as it is, and finds all if it began with all. -/
theorem lookup_in_company (accompanied : scene.Accompanied line roster now copies due)
    (fellows : Node.Fellows target roster scene.node.id all) (near : ∀ seed ∈ seeds, seed ∈ all) :
    (scene.lookup (Cluster.carrier line) target seeds).2.Accompanied line roster now copies due ∧
      (all.length ≤ scene.node.width → seeds = all →
        (scene.lookup (Cluster.carrier line) target seeds).1 = all) := by
  have round : ∀ (state : Scene Cluster) (probes : List Contact),
      state.Accompanied line roster now copies due → (∀ probe ∈ probes, probe ∈ all) →
      (asking line (.findNode target) state probes).2.Accompanied line roster now copies due ∧
        (∀ outcome ∈ (asking line (.findNode target) state probes).1, outcome.1 ∈ all) ∧
        Lookup.NodeSearch.Informs scene.node.id all
          (Lookup.picked Reply.contacts? (asking line (.findNode target) state probes).1) := by
    intro state probes after known
    obtain ⟨last, told⟩ := round_in_company accompanied fellows
      (show (Query.findNode target).Plain from trivial) (fun _ => rfl) after known
    exact ⟨last, fun outcome among => known _ (mem_of_asked told.asked among),
      contacts_of_told fellows told⟩
  obtain ⟨after, found⟩ := Lookup.NodeSearch.find_nodes_among scene.node.width
    scene.node.parallelism fellows.ascending (fellows_live accompanied fellows) round accompanied
    near
  rw [lookup_eq]
  refine ⟨after, ?_⟩
  rintro few rfl
  exact found (List.take_of_length_le few).symm

theorem refresh_toward_in_company (accompanied : scene.Accompanied line roster now copies due)
    (target : Ident) :
    (scene.refreshToward (Cluster.carrier line) target).Accompanied line roster now copies due := by
  obtain ⟨all, fellows, _, _, near⟩ :=
    Node.neighbours_companion (companion_acting accompanied) target
  unfold refreshToward
  dsimp only
  split_ifs
  · exact accompanied
  · exact (lookup_in_company accompanied fellows fun seed listed => near _ listed).1

/-- A reply to a request for a value is a value that somebody holds, or names others. -/
theorem finding_of_told (fellows : Node.Fellows key roster scene.node.id all) {reply : Reply}
    (tells : Query.Tells roster copies.Hold (.findValue key.octets) reply) :
    ∃ finding, reply.finding? = some finding ∧
      Lookup.ValueSearch.Fine scene.node.id (fun contact => contact ∈ all)
        (fun value => copies.Hold key value ∧ value.Short) finding := by
  generalize asked : Query.findValue key.octets = query at tells
  cases tells with
  | stored named value => cases asked
  | nodes inside => cases asked
  | @found named value held short =>
      obtain rfl : key = named := Ident.octets_injective (Query.findValue.inj asked)
      exact ⟨_, rfl, held, short⟩
  | @closest named contacts inside =>
      obtain rfl : key = named := Ident.octets_injective (Query.findValue.inj asked)
      refine ⟨_, rfl, ?_⟩
      intro contact listed foreign
      have member := inside contact listed
      exact (fellows.mem contact).mpr ⟨member.1, foreign, member.2⟩

/-- The errands that a read of a key leads to: none, or one to store a value that somebody holds with
one of the others. -/
inductive Repairs (roster : List Contact) (own : Ident) (copies : Copies) (key : Ident) :
    List Errand → Prop where
  | none : Repairs roster own copies key []
  | one {dest : Contact} {value : Octets} : dest ∈ roster → dest.id ≠ own →
      copies.Hold key value → value.Short → Repairs roster own copies key [⟨dest, key.octets, value⟩]

theorem owed_still (accompanied : scene.Accompanied line roster now copies due) :
    due.set line (scene.node.errands ++ []) = due := by
  rw [List.append_nil]
  exact Cluster.due_still accompanied.company (whole_acting accompanied.inside)

theorem lookup_value_in_company (accompanied : scene.Accompanied line roster now copies due)
    (fellows : Node.Fellows key roster scene.node.id all) (near : ∀ seed ∈ seeds, seed ∈ all) :
    ∃ extra, Repairs roster scene.node.id copies key extra ∧
      (scene.lookupValue (Cluster.carrier line) key seeds).2.Accompanied line roster now copies
        (due.set line (scene.node.errands ++ extra)) := by
  have plain : (Query.findValue key.octets).Plain := ⟨key, rfl⟩
  have agree : Lookup.Agree (fun contact => contact ∈ all)
      (Lookup.ValueSearch.Fine scene.node.id (fun contact => contact ∈ all)
        fun value => copies.Hold key value ∧ value.Short)
      (fun first second : Scene Cluster =>
        first = second ∧ first.Accompanied line roster now copies due)
      (fun scene probes => each (findValue (Cluster.carrier line) key) probes scene)
      (fun scene probes => each (findValue (Cluster.carrier line) key) probes scene) := by
    refine ⟨?_, ?_, ?_⟩
    · rintro state _ probes ⟨rfl, _⟩ _
      rfl
    · rintro state _ probes ⟨rfl, after⟩ known
      rw [find_value_each]
      exact ⟨rfl, (round_in_company accompanied fellows plain (fun _ => rfl) after known).1⟩
    · rintro state _ probes ⟨rfl, after⟩ known outcome among
      rw [find_value_each] at among
      obtain ⟨made, listed, rfl⟩ := List.mem_map.mp among
      have told := (round_in_company accompanied fellows plain (fun _ => rfl) after known).2
      refine ⟨known _ (mem_of_asked told.asked listed), ?_⟩
      intro brought answered
      obtain ⟨reply, replied, tells⟩ := told.told made listed
      obtain ⟨finding, chosen, fine⟩ := finding_of_told fellows tells
      simp only [replied, Option.bind_some, chosen] at answered
      exact Option.some.inj answered ▸ fine
  obtain ⟨_, ⟨_, after⟩, hit⟩ := Lookup.ValueSearch.find_value_agree agree key scene.node.width
    scene.node.parallelism near scene scene ⟨rfl, accompanied⟩
  have still := owed_still accompanied
  unfold lookupValue
  generalize Lookup.findValue scene.node.id _ key _ _ seeds scene = result at after hit ⊢
  obtain ⟨_ | ⟨value, _ | peer⟩, last⟩ := result
  · exact ⟨[], .none, still.symm ▸ after⟩
  · exact ⟨[], .none, still.symm ▸ after⟩
  · obtain ⟨⟨held, short⟩, repaired⟩ := hit _ rfl
    have other := (fellows.mem peer).mp (repaired peer rfl)
    refine ⟨_, .one other.1 other.2.1 held short, ?_⟩
    have owed : last.node.errands = scene.node.errands := Option.some.inj
      ((Cluster.errands_at after.company (whole_acting after.inside)).symm.trans
        (Cluster.errands_at accompanied.company (whole_acting accompanied.inside)))
    rw [← owed]
    exact accompanied_map after (fun node =>
      { node with errands := node.errands ++ [⟨peer, key.octets, value⟩] }) rfl
      { companion_acting after with } (fun key => (copy_acting after key).symm) fun _ _ _ => rfl

end Scene
end XorOverlay
