import Mathlib
import XorOverlay.Proofs.Lookup.Respondents
import XorOverlay.Proofs.Node.Callers

/-!
The calls of an operation, noted down. A caller can note what it calls, and what comes of it, beside
the surroundings it acts on. An operation goes the same way by it, and what is noted of a search are
the probes of its rounds.
-/

namespace XorOverlay

set_option autoImplicit false

/-- A call that was made, and what became of it. -/
structure Call where
  dest : Contact
  query : Query
  called : Called Reply

namespace Scene

variable {ε : Type}

/-- The scene without what is noted beside it. -/
def erased {γ : Type} (scene : Scene (ε × γ)) : Scene ε :=
  ⟨scene.node, scene.clock, scene.outside.1⟩

/-- The scene with no calls noted yet. -/
def unnoted (scene : Scene ε) : Scene (ε × List Call) :=
  ⟨scene.node, scene.clock, (scene.outside, [])⟩

/-- Calls, and notes the call. -/
def noting (caller : Caller ε) : Caller (ε × List Call) :=
  fun dest query scene =>
    let result := caller dest query scene.erased
    (result.1, ⟨result.2.node, result.2.clock,
      (result.2.outside, scene.outside.2 ++ [⟨dest, query, result.1⟩])⟩)

/-- A scene beside which calls are noted: these went to known contacts, or are pings of seeds. -/
structure Noted (inv : Scene ε → Prop) (known seed : Contact → Prop) (scene : Scene ε)
    (twin : Scene (ε × List Call)) : Prop where
  erased : twin.erased = scene
  kept : inv scene
  calls : ∀ call ∈ twin.outside.2, known call.dest ∨ seed call.dest ∧ call.query = .ping

theorem unnoted_noted {inv : Scene ε → Prop} (known seed : Contact → Prop) {scene : Scene ε}
    (kept : inv scene) : Noted inv known seed scene scene.unnoted :=
  ⟨rfl, kept, fun _ none => (List.not_mem_nil none).elim⟩

/-- What a caller keeps as it goes, it keeps when it notes its calls. -/
theorem Conduct.noted {caller : Caller ε} {inv : Scene ε → Prop} {own : Option Ident}
    {known seed : Contact → Prop} {fit : Octets → Prop}
    (conduct : Conduct caller caller (fun scene twin => scene = twin ∧ inv scene) own known seed fit) :
    Conduct caller (noting caller) (Noted inv known seed) own known seed fit where
  node := by
    rintro _ twin ⟨rfl, _⟩
    rfl
  clock := by
    rintro _ twin ⟨rfl, _⟩
    rfl
  named := by
    rintro _ twin ⟨rfl, good, _⟩
    exact conduct.named _ _ ⟨rfl, good⟩
  call := by
    rintro _ twin dest query ⟨rfl, good, noted⟩ met fits
    obtain ⟨_, ⟨_, after⟩, told⟩ := conduct.call _ _ dest query ⟨rfl, good⟩ met fits
    refine ⟨rfl, ⟨rfl, after, ?_⟩, told⟩
    exact List.forall_mem_append.mpr ⟨noted, List.forall_mem_singleton.mpr met⟩
  near := by
    rintro _ twin target count ⟨rfl, good, _⟩
    exact conduct.near _ _ target count ⟨rfl, good⟩
  read := by
    rintro _ twin key ⟨rfl, good, noted⟩
    exact ⟨rfl, (conduct.read _ _ key ⟨rfl, good⟩).2, noted⟩
  keep := by
    rintro _ twin now key value ⟨rfl, good, noted⟩ fitKey fitValue
    exact ⟨rfl, (conduct.keep _ _ now key value ⟨rfl, good⟩ fitKey fitValue).2, noted⟩
  report := by
    rintro _ twin now latency success ⟨rfl, good, noted⟩
    exact ⟨rfl, (conduct.report _ _ now latency success ⟨rfl, good⟩).2, noted⟩
  cull := by
    rintro _ twin now ⟨rfl, good, noted⟩
    exact ⟨rfl, (conduct.cull _ _ now ⟨rfl, good⟩).2, noted⟩
  repair := by
    rintro _ twin orders ⟨rfl, good, noted⟩ ordered
    exact ⟨rfl, (conduct.repair _ _ orders ⟨rfl, good⟩ ordered).2, noted⟩
  errand := by
    rintro _ twin errand rest ⟨rfl, good, noted⟩ due
    obtain ⟨met, fitKey, fitValue, _, left⟩ := conduct.errand _ _ errand rest ⟨rfl, good⟩ due
    exact ⟨met, fitKey, fitValue, rfl, left, noted⟩
  listed := by
    rintro _ twin now ⟨rfl, good, _⟩
    exact conduct.listed _ _ now ⟨rfl, good⟩
  names := conduct.names

/-- Calls are those of some rounds of a search: all put the same query, to the probes of the rounds in
order, and what they are reported to have brought are the outcomes. -/
structure Recounts (query : Query) (rounds : List (Lookup.Round Reply)) (made : List Call) : Prop where
  queries : ∀ call ∈ made, call.query = query
  dests : made.map Call.dest = rounds.flatMap Lookup.Round.probes
  brought : rounds.flatMap Lookup.Round.outcomes =
    made.flatMap fun call => outcomes call.dest call.called

theorem Recounts.append {query : Query} {first second : List (Lookup.Round Reply)}
    {made more : List Call} (before : Recounts query first made)
    (after : Recounts query second more) : Recounts query (first ++ second) (made ++ more) where
  queries := List.forall_mem_append.mpr ⟨before.queries, after.queries⟩
  dests := by rw [List.map_append, List.flatMap_append, before.dests, after.dests]
  brought := by rw [List.flatMap_append, List.flatMap_append, before.brought, after.brought]

/-- To pick from what a call is reported to have brought is to report what is picked from it. -/
theorem picked_outcomes {β : Type} (choose : Reply → Option β) (dest : Contact)
    (called : Called Reply) :
    Lookup.picked choose (outcomes dest called) = outcomes dest (called.pick choose) := by
  cases called with
  | answered reply =>
      cases chosen : choose reply with
      | none => simp [Lookup.picked, outcomes, Called.pick, chosen]
      | some part => simp [Lookup.picked, outcomes, Called.pick, chosen]
  | failed => rfl
  | lost => rfl

section Recounted

variable {query : Query} {rounds : List (Lookup.Round Reply)} {made : List Call}
  (recounts : Recounts query rounds made)
include recounts

/-- Those who were asked are those who were called. -/
theorem Recounts.asked {contact : Contact} :
    Lookup.Asked rounds contact ↔ ∃ call ∈ made, call.dest = contact := by
  rw [← List.mem_map, recounts.dests, List.mem_flatMap]
  rfl

theorem Recounts.heard {β : Type} (choose : Reply → Option β) :
    Lookup.heard choose rounds =
      made.flatMap fun call => outcomes call.dest (call.called.pick choose) := by
  rw [Lookup.heard, recounts.brought, Lookup.picked, List.map_flatMap]
  exact congrArg (List.flatMap · made)
    (funext fun call => picked_outcomes choose call.dest call.called)

/-- Those who failed are those whose calls did not bring what was asked for. -/
theorem Recounts.failed (choose : Reply → Option (List Contact)) (id : Ident) :
    id ∈ Lookup.failures (Lookup.heard choose rounds) ↔
      ∃ call ∈ made, call.dest.id = id ∧ call.called.pick choose = .failed := by
  have failures : ∀ call : Call, id ∈ Lookup.failures
      (outcomes call.dest (call.called.pick choose)) ↔
        call.dest.id = id ∧ call.called.pick choose = .failed := by
    intro call
    cases call.called.pick choose with
    | answered part => simp [Lookup.failures, outcomes]
    | failed => simp [Lookup.failures, outcomes, eq_comm]
    | lost => simp [Lookup.failures, outcomes]
  rw [recounts.heard, Lookup.failures, List.filter_flatMap, List.map_flatMap, List.mem_flatMap]
  exact exists_congr fun call => and_congr_right fun _ => failures call

/-- Introduced by a round are those that a pong named, where it came from. -/
theorem Recounts.introduced (contact : Contact) :
    contact ∈ introduced (rounds.flatMap Lookup.Round.outcomes) ↔ ∃ call ∈ made,
      call.called = .answered (.pong contact.id) ∧ call.dest.endpoint = contact.endpoint := by
  let name : Contact × Option Ident → Option Contact := fun outcome =>
    outcome.2.map fun id => ⟨id, outcome.1.endpoint⟩
  have opened : Scene.introduced (rounds.flatMap Lookup.Round.outcomes) =
      (made.flatMap fun call => outcomes call.dest (call.called.pick Reply.pong?)).filterMap name := by
    rw [← recounts.heard, Lookup.heard, Lookup.picked, List.filterMap_map]
    rfl
  rw [opened, List.mem_filterMap]
  constructor
  · rintro ⟨outcome, among, named⟩
    obtain ⟨call, listed, brought⟩ := List.mem_flatMap.mp among
    refine ⟨call, listed, ?_⟩
    cases picked : call.called.pick Reply.pong? with
    | answered id =>
        rw [picked] at brought
        obtain rfl := List.mem_singleton.mp brought
        obtain rfl := Option.some.inj named
        obtain ⟨reply, answered, chosen⟩ := picked_answered picked
        rw [answered, Reply.eq_of_pong chosen]
        exact ⟨rfl, rfl⟩
    | failed =>
        rw [picked] at brought
        obtain rfl := List.mem_singleton.mp brought
        cases named
    | lost =>
        rw [picked] at brought
        cases brought
  · rintro ⟨call, listed, answered, endpoint⟩
    refine ⟨(call.dest, some contact.id), List.mem_flatMap.mpr ⟨call, listed, ?_⟩, ?_⟩
    · rw [answered]
      exact List.mem_singleton_self _
    · rw [show name (call.dest, some contact.id) = some ⟨contact.id, call.dest.endpoint⟩ from rfl,
        endpoint]

end Recounted

section Pinged

variable {seeds : List Endpoint} {answers : List (Contact × Option Reply)} {pings : List Call}
  (recounts : Recounts .ping [⟨placeholders seeds, answers⟩] pings)
include recounts

theorem Recounts.introduced_named (id : Ident) :
    (∃ contact ∈ Scene.introduced answers, contact.id = id) ↔
      ∃ call ∈ pings, call.called = .answered (.pong id) := by
  have introduces := recounts.introduced
  rw [List.flatMap_singleton] at introduces
  constructor
  · rintro ⟨contact, listed, rfl⟩
    obtain ⟨call, made, answered, _⟩ := (introduces contact).mp listed
    exact ⟨call, made, answered⟩
  · rintro ⟨call, made, answered⟩
    exact ⟨⟨id, call.dest.endpoint⟩, (introduces _).mpr ⟨call, made, answered, rfl⟩, rfl⟩

/-- Seeds are pinged at their endpoints, so whoever answered can be sent to. -/
theorem Recounts.introduced_linked :
    ∀ contact ∈ Scene.introduced answers, contact.endpoint.isSome = true := by
  have introduces := recounts.introduced
  have pinged : pings.map Call.dest = placeholders seeds :=
    recounts.dests.trans (List.flatMap_singleton _ _)
  rw [List.flatMap_singleton] at introduces
  intro contact listed
  obtain ⟨call, made, _, endpoint⟩ := (introduces contact).mp listed
  have placed : call.dest ∈ placeholders seeds := pinged ▸ List.mem_map_of_mem made
  obtain ⟨seed, _, same⟩ := List.mem_map.mp placed
  rw [← endpoint, ← same]
  rfl

end Pinged

variable (caller : Caller ε)

/-- What is noted of a list of calls is one round of them. -/
theorem call_all_noted (query : Query) (scene : Scene (ε × List Call)) (dests : List Contact) :
    let asked := callAll (noting caller) query scene dests
    ∃ made : List Call, asked.2.outside.2 = scene.outside.2 ++ made ∧
      Recounts query [⟨dests, asked.1⟩] made := by
  induction dests generalizing scene with
  | nil => exact ⟨[], (List.append_nil _).symm, nofun, rfl, rfl⟩
  | cons dest rest ih =>
      obtain ⟨made, noted, queries, dests, brought⟩ := ih (noting caller dest query scene).2
      rw [List.flatMap_singleton] at dests brought
      rw [call_all_cons]
      refine ⟨⟨dest, query, (caller dest query scene.erased).1⟩ :: made, ?_,
        List.forall_mem_cons.mpr ⟨rfl, queries⟩, ?_, ?_⟩
      · exact noted.trans (List.append_assoc _ _ _)
      · rw [List.map_cons, dests, List.flatMap_singleton]
      · rw [List.flatMap_singleton, List.flatMap_cons, ← brought]
        rfl

/-- A search with its calls noted and one with its rounds noted see the same, and the calls are those of
the rounds. -/
theorem noting_agree {β : Type} (choose : Reply → Option β) (query : Query)
    (scene : Scene (ε × List Call)) {fine : β → Prop} (free : ∀ part, fine part) :
    Lookup.Agree (fun _ => True) fine
      (fun state (rounds : Scene (ε × List Call) × List (Lookup.Round Reply)) => rounds.1 = state ∧
        ∃ made : List Call, state.outside.2 = scene.outside.2 ++ made ∧
          Recounts query rounds.2 made)
      (Lookup.picking choose (callAll (noting caller) query))
      (Lookup.logged choose (callAll (noting caller) query)) := by
  refine ⟨?_, ?_, fun _ _ _ _ _ _ _ => ⟨trivial, fun part _ => free part⟩⟩
  · rintro _ ⟨state, rounds⟩ probes ⟨rfl, _⟩ _
    rfl
  · rintro _ ⟨state, rounds⟩ probes ⟨rfl, made, noted, recounts⟩ _
    obtain ⟨more, later, round⟩ := call_all_noted caller query state probes
    refine ⟨rfl, made ++ more, ?_, recounts.append round⟩
    exact later.trans (by rw [noted, List.append_assoc])

theorem unnoted_recounts (query : Query) (scene : Scene (ε × List Call)) :
    ∃ made : List Call, scene.outside.2 = scene.outside.2 ++ made ∧ Recounts query [] made :=
  ⟨[], (List.append_nil _).symm, nofun, rfl, rfl⟩

/-- What is noted of a search are its rounds. -/
theorem lookup_noted (scene : Scene (ε × List Call)) (target : Ident) (seeds : List Contact) :
    let looked := scene.lookupBy (noting caller) target seeds
    let ended := Lookup.NodeSearch.search scene.node.id
      (Lookup.logged Reply.contacts? (callAll (noting caller) (.findNode target))) target
      scene.node.width scene.node.parallelism seeds (scene, [])
    looked.1 = ended.1.candidates.closest ∧
      ∃ made : List Call, looked.2.outside.2 = scene.outside.2 ++ made ∧
        Recounts (.findNode target) ended.2.2 made := by
  intro looked ended
  obtain ⟨same, ⟨_, log⟩, _⟩ := Lookup.NodeSearch.find_nodes_agree
    (noting_agree caller Reply.contacts? (.findNode target) scene fun _ _ _ _ => trivial) target
    scene.node.width scene.node.parallelism (fun _ _ => trivial) scene (scene, [])
    ⟨rfl, unnoted_recounts (.findNode target) scene⟩
  exact ⟨same, log⟩

theorem lookup_value_noted (scene : Scene (ε × List Call)) (key : Ident) (seeds : List Contact) :
    let searched := scene.lookupValueBy (noting caller) key seeds
    let ended := Lookup.ValueSearch.run scene.node.id
      (Lookup.logged Reply.finding? (callAll (noting caller) (.findValue key.octets)))
      Lookup.maxRounds (Lookup.ValueSearch.State.start key scene.node.width scene.node.parallelism
        seeds) (scene, [])
    ∃ made : List Call, searched.2.outside.2 = scene.outside.2 ++ made ∧
      Recounts (.findValue key.octets) ended.2.2 made := by
  intro searched ended
  have free : ∀ finding, Lookup.ValueSearch.Fine scene.node.id (fun _ => True) (fun _ => True)
      finding := by
    intro finding
    cases finding with
    | found value => trivial
    | closest contacts => exact fun _ _ _ => trivial
  obtain ⟨_, ⟨_, log⟩, _⟩ := Lookup.ValueSearch.find_value_agree
    (noting_agree caller Reply.finding? (.findValue key.octets) scene free) key scene.node.width
    scene.node.parallelism (fun _ _ => trivial) scene (scene, [])
    ⟨rfl, unnoted_recounts (.findValue key.octets) scene⟩
  exact log

end Scene
end XorOverlay
