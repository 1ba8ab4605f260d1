import Mathlib
import XorOverlay.Proofs.Lookup.Agreement
import XorOverlay.Proofs.Node.Probing
import XorOverlay.Proofs.Node.Welcome
import XorOverlay.Proofs.Store.Instant

/-!
The operations of a node with their calls left open. Whatever an operation does to its peers it does
by calls, so it can be run by any caller in the place of a carrier; the one that goes by a carrier
gives the operation itself. Two callers that answer alike, and leave alike what they leave, take every
operation through the same course, as long as only known contacts are called and only fit octets are
sent; and whatever contacts are found are known.
-/

namespace XorOverlay

set_option autoImplicit false

/-- The octets that a query sends are fit. -/
def Query.Fits (fit : Octets → Prop) : Query → Prop
  | .store key value => fit key ∧ fit value
  | .findValue key => fit key
  | _ => True

namespace Scene

variable {ε δ : Type}

section Operations

variable (caller : Caller ε) (scene : Scene ε)

def lookupBy (target : Ident) (seeds : List Contact) : List Contact × Scene ε :=
  Lookup.findNodes scene.node.id
    (Lookup.picking Reply.contacts? (callAll caller (.findNode target))) target scene.node.width
    scene.node.parallelism seeds scene

def lookupValueBy (key : Ident) (seeds : List Contact) : Option Octets × Scene ε :=
  scene.searchValue (callAll caller (.findValue key.octets)) key seeds

def bootstrapBy (seeds : List Endpoint) : List Contact × Scene ε :=
  let pinged := callAll caller .ping scene (placeholders seeds)
  if (introduced pinged.1).isEmpty then ([], pinged.2)
  else pinged.2.lookupBy caller pinged.2.node.id (introduced pinged.1)

def getBy (key : String) : Option Octets × Scene ε :=
  let digest := Ident.digest key
  let (own, scene) := scene.readOwn digest
  match own with
  | some value => (if value.isEmpty then none else some value, scene)
  | none =>
    let nearest := scene.node.neighbours digest scene.node.width
    if nearest.isEmpty then (none, scene)
    else
      let begun := scene.clock
      let (found, scene) := scene.lookupValueBy caller digest nearest
      let value := found.filter fun value => !value.isEmpty
      (value, scene.mapNode fun node =>
        node.report scene.clock (scene.clock - begun) value.isSome)

def publishBy (key : Ident) (value : Octets) : Bool × Scene ε :=
  let nearest := scene.node.neighbours key scene.node.width
  if nearest.isEmpty then (false, scene)
  else
    let (replicas, scene) := scene.lookupBy caller key nearest
    let scene :=
      if isReplica scene.node.id key replicas then
        scene.mapNode fun node => node.keep scene.clock key.octets value
      else scene
    let (answers, scene) := callAll caller (.store key.octets value) scene replicas
    ((Lookup.picked Reply.stored? answers).any fun answer => answer.2 == some true, scene)

def setBy (key : String) (value : Octets) : Bool × Scene ε :=
  let begun := scene.clock
  let (success, written) := scene.publishBy caller (Ident.digest key) value
  (success,
    if scene.node.canGather scene.node.width then
      written.mapNode fun node => node.report written.clock (written.clock - begun) success
    else written)

def refreshTowardBy (target : Ident) : Scene ε :=
  let peers := scene.node.neighbours target scene.node.parallelism
  if peers.isEmpty then scene else (scene.lookupBy caller target peers).2

def republishBy : List Listed → Scene ε → Scene ε
  | [], scene => scene
  | item :: rest, scene =>
    match item.read scene.clock with
    | .error _ => scene
    | .ok (key, value) =>
      match Ident.ofOctets key with
      | .ok digest => republishBy rest (scene.publishBy caller digest value).2
      | .error _ => republishBy rest scene

def refreshBy (draw : Nat → Nat) : Scene ε :=
  if !scene.node.active then scene
  else
    let scene := scene.mapNode fun node => { node with store := node.store.cull scene.clock }
    let scene := (scene.refreshTargets draw).foldl (refreshTowardBy caller) scene
    scene.republishBy caller (scene.node.store.listing scene.clock)

def runErrandBy : Scene ε :=
  match scene.node.errands with
  | [] => scene
  | errand :: rest =>
    (caller errand.dest (.store errand.key errand.value)
      (scene.mapNode fun node => { node with errands := rest })).2

end Operations

section Carried

variable (carrier : Carrier ε) (scene : Scene ε)

theorem lookup_by_call (target : Ident) (seeds : List Contact) :
    scene.lookup carrier target seeds = scene.lookupBy (call carrier) target seeds :=
  lookup_eq carrier target seeds scene

theorem bootstrap_by_call (seeds : List Endpoint) :
    scene.bootstrap carrier seeds = scene.bootstrapBy (call carrier) seeds := by
  rw [bootstrap_eq, bootstrapBy]
  simp only [lookup_by_call]

theorem get_by_call (key : String) :
    scene.get carrier key = scene.getBy (call carrier) key := by
  rw [get_eq]
  simp only [lookup_value_eq]
  rfl

theorem store_all_by_call (key value : Octets) (dests : List Contact) :
    each (fun dest scene => scene.storeAt carrier dest key value) dests scene =
      (Lookup.picked Reply.stored? (callAll (call carrier) (.store key value) scene dests).1,
        (callAll (call carrier) (.store key value) scene dests).2) :=
  each_picked (fun dest scene => scene.call carrier dest (.store key value)) Reply.stored? dests
    scene

theorem publish_by_call (key : Ident) (value : Octets) :
    scene.publish carrier key value = scene.publishBy (call carrier) key value := by
  rw [publish_eq, publishBy]
  simp only [lookup_by_call, store_all_by_call]

theorem set_by_call (key : String) (value : Octets) :
    scene.set carrier key value = scene.setBy (call carrier) key value := by
  rw [set_eq, setBy, publish_by_call]

theorem refresh_toward_by_call (target : Ident) :
    scene.refreshToward carrier target = scene.refreshTowardBy (call carrier) target := by
  rw [refreshToward, refreshTowardBy, lookup_by_call]

theorem republish_by_call (items : List Listed) :
    scene.republish carrier items = scene.republishBy (call carrier) items := by
  induction items generalizing scene with
  | nil => rfl
  | cons item rest ih =>
      rw [republish]
      simp only [publish_by_call, ih]
      rfl

theorem refresh_by_call (draw : Nat → Nat) :
    scene.refresh carrier draw = scene.refreshBy (call carrier) draw := by
  have toward : refreshToward carrier = refreshTowardBy (call carrier) := by
    funext scene target
    exact refresh_toward_by_call carrier scene target
  rw [refresh, refreshBy]
  simp only [toward, republish_by_call]

theorem run_errand_by_call : scene.runErrand carrier = scene.runErrandBy (call carrier) := by
  unfold runErrand runErrandBy
  cases scene.node.errands with
  | nil => rfl
  | cons errand rest => rfl

end Carried

/-- Whom an answer of a contact names is known, but for a contact of one's own name, if such a name is
given: a pong names who sent it, and other answers whom they list. A value it brings is fit. -/
structure Credible (own : Option Ident) (known : Contact → Prop) (fit : Octets → Prop) (dest : Contact)
    (reply : Reply) : Prop where
  named : ∀ contact ∈ named reply, some contact.id ≠ own → known contact
  found : ∀ value, reply = .found value → fit value
  pong : ∀ id, reply = .pong id → some id ≠ own → known ⟨id, dest.endpoint⟩

/-- Two callers that answer alike, and leave alike what they leave, as far as known contacts are called
and seeds are pinged. -/
structure Parallel (first : Caller ε) (second : Caller δ) (linked : Scene ε → Scene δ → Prop)
    (own : Option Ident) (known seed : Contact → Prop) (fit : Octets → Prop) : Prop where
  node : ∀ scene twin, linked scene twin → twin.node = scene.node
  clock : ∀ scene twin, linked scene twin → twin.clock = scene.clock
  named : ∀ scene twin, linked scene twin → ∀ id ∈ own, scene.node.id = id
  call : ∀ scene twin dest query, linked scene twin → (known dest ∨ seed dest ∧ query = .ping) →
    query.Fits fit → (second dest query twin).1 = (first dest query scene).1 ∧
      linked (first dest query scene).2 (second dest query twin).2 ∧
      ∀ reply, (first dest query scene).1 = .answered reply → Credible own known fit dest reply

namespace Parallel

variable {first : Caller ε} {second : Caller δ} {linked : Scene ε → Scene δ → Prop}
  {own : Option Ident} {known seed : Contact → Prop} {fit : Octets → Prop}
  (parallel : Parallel first second linked own known seed fit)
  {scene : Scene ε} {twin : Scene δ}
include parallel

/-- Lists of calls are taken alike, and what holds of each answer holds of each outcome. -/
theorem callAll (query : Query) (fits : query.Fits fit) {dests : List Contact}
    (met : ∀ dest ∈ dests, known dest ∨ seed dest ∧ query = .ping) (start : linked scene twin) :
    (callAll second query twin dests).1 = (callAll first query scene dests).1 ∧
      linked (callAll first query scene dests).2 (callAll second query twin dests).2 ∧
      ∀ outcome ∈ (callAll first query scene dests).1, outcome.1 ∈ dests ∧
        ∀ reply, outcome.2 = some reply → Credible own known fit outcome.1 reply := by
  induction dests generalizing scene twin with
  | nil => exact ⟨rfl, start, nofun⟩
  | cons dest rest ih =>
      rw [List.forall_mem_cons] at met
      obtain ⟨alike, after, told⟩ := parallel.call scene twin dest query start met.1 fits
      obtain ⟨same, ended, others⟩ := ih met.2 after
      rw [call_all_cons, call_all_cons]
      refine ⟨?_, ended, ?_⟩
      · dsimp only
        rw [same, alike]
      · intro outcome among
        rcases List.mem_append.mp among with now | later
        · generalize (first dest query scene).1 = called at now told
          cases called with
          | answered reply =>
              obtain rfl := List.mem_singleton.mp now
              refine ⟨List.mem_cons_self, ?_⟩
              rintro _ ⟨⟩
              exact told reply rfl
          | failed =>
              obtain rfl := List.mem_singleton.mp now
              exact ⟨List.mem_cons_self, nofun⟩
          | lost => cases now
        · exact ⟨List.mem_cons_of_mem _ (others outcome later).1, (others outcome later).2⟩

/-- Searches that go by either caller see the same. -/
theorem agree {β : Type} (choose : Reply → Option β) (query : Query) (fits : query.Fits fit)
    {fine : β → Prop}
    (chosen : ∀ dest reply part, choose reply = some part → Credible own known fit dest reply →
      fine part) :
    Lookup.Agree known fine linked (Lookup.picking choose (Scene.callAll first query))
      (Lookup.picking choose (Scene.callAll second query)) := by
  refine ⟨?_, ?_, ?_⟩
  · intro state twin probes start all
    obtain ⟨same, _⟩ := parallel.callAll query fits (fun dest among => Or.inl (all dest among)) start
    exact congrArg (Lookup.picked choose) same.symm
  · intro state twin probes start all
    exact (parallel.callAll query fits (fun dest among => Or.inl (all dest among)) start).2.1
  · intro state twin probes start all outcome among
    obtain ⟨_, _, told⟩ := parallel.callAll query fits (fun dest among => Or.inl (all dest among)) start
    obtain ⟨made, brought, rfl⟩ := List.mem_map.mp among
    obtain ⟨asked, replied⟩ := told made brought
    refine ⟨all _ asked, ?_⟩
    intro part picked
    obtain ⟨reply, answered, chose⟩ := Option.bind_eq_some_iff.mp picked
    exact chosen made.1 reply part chose (replied reply answered)

/-- Who is told of, and is not the searching node itself, is known. -/
theorem fine_of_told (start : linked scene twin) {contacts : List Contact}
    (told : ∀ contact ∈ contacts, some contact.id ≠ own → known contact) :
    Lookup.NodeSearch.Fine scene.node.id known contacts := by
  intro contact listed apart
  apply told contact listed
  intro same
  exact apart (parallel.named scene twin start contact.id same.symm).symm

theorem lookup (start : linked scene twin) (target : Ident) {seeds : List Contact}
    (met : ∀ contact ∈ seeds, known contact) :
    (twin.lookupBy second target seeds).1 = (scene.lookupBy first target seeds).1 ∧
      linked (scene.lookupBy first target seeds).2 (twin.lookupBy second target seeds).2 ∧
      ∀ contact ∈ (scene.lookupBy first target seeds).1, known contact := by
  have fine : ∀ dest reply contacts, Reply.contacts? reply = some contacts →
      Credible own known fit dest reply → Lookup.NodeSearch.Fine scene.node.id known contacts := by
    intro dest reply contacts chose told
    obtain rfl := Reply.eq_of_contacts chose
    exact parallel.fine_of_told start told.named
  obtain ⟨same, after, found⟩ := Lookup.NodeSearch.find_nodes_agree
    (parallel.agree Reply.contacts? (.findNode target) trivial fine) target scene.node.width
    scene.node.parallelism met scene twin start
  unfold lookupBy
  rw [parallel.node scene twin start]
  exact ⟨same.symm, after, found⟩

/-- Joining goes alike as long as no seed answers under one's own name. -/
theorem bootstrap (start : linked scene twin) {seeds : List Endpoint}
    (sown : ∀ endpoint ∈ seeds, seed ⟨Ident.zero, some endpoint⟩)
    (foreign : ∀ contact ∈ introduced (Scene.callAll first .ping scene (placeholders seeds)).1,
      some contact.id ≠ own) :
    (twin.bootstrapBy second seeds).1 = (scene.bootstrapBy first seeds).1 ∧
      linked (scene.bootstrapBy first seeds).2 (twin.bootstrapBy second seeds).2 ∧
      ∀ contact ∈ (scene.bootstrapBy first seeds).1, known contact := by
  have pinged : ∀ dest ∈ placeholders seeds, known dest ∨ seed dest ∧ Query.ping = .ping := by
    intro dest among
    obtain ⟨endpoint, given, rfl⟩ := List.mem_map.mp among
    exact Or.inr ⟨sown endpoint given, rfl⟩
  obtain ⟨same, after, told⟩ := parallel.callAll .ping trivial pinged start
  have met : ∀ contact ∈ introduced (Scene.callAll first .ping scene (placeholders seeds)).1,
      known contact := by
    intro contact listed
    obtain ⟨outcome, made, named⟩ := List.mem_filterMap.mp listed
    obtain ⟨id, picked, rfl⟩ := Option.map_eq_some_iff.mp named
    obtain ⟨reply, replied, chosen⟩ := Option.bind_eq_some_iff.mp picked
    exact ((told outcome made).2 reply replied).pong id (Reply.eq_of_pong chosen)
      (foreign _ listed)
  unfold bootstrapBy
  dsimp only
  rw [same, parallel.node _ _ after]
  split_ifs
  · exact ⟨rfl, after, nofun⟩
  · exact parallel.lookup after _ met

end Parallel

/-- Two callers by which whole operations take the same course: linked scenes stay so through the
changes that an operation makes to the node itself. -/
structure Conduct (first : Caller ε) (second : Caller δ) (linked : Scene ε → Scene δ → Prop)
    (own : Option Ident) (known seed : Contact → Prop) (fit : Octets → Prop) : Prop
    extends Parallel first second linked own known seed fit where
  near : ∀ scene twin target count, linked scene twin →
    ∀ contact ∈ scene.node.neighbours target count, known contact
  read : ∀ scene twin key, linked scene twin →
    linked (scene.readOwn key).2 (twin.readOwn key).2
  keep : ∀ scene twin now key value, linked scene twin → fit key → fit value →
    linked (scene.mapNode fun node => node.keep now key value)
      (twin.mapNode fun node => node.keep now key value)
  report : ∀ scene twin now latency success, linked scene twin →
    linked (scene.mapNode fun node => node.report now latency success)
      (twin.mapNode fun node => node.report now latency success)
  cull : ∀ scene twin now, linked scene twin →
    linked (scene.mapNode fun node => { node with store := node.store.cull now })
      (twin.mapNode fun node => { node with store := node.store.cull now })
  repair : ∀ scene twin (orders : Option Errand), linked scene twin →
    (∀ errand ∈ orders, known errand.dest ∧ fit errand.key ∧ fit errand.value) →
    linked (scene.mapNode fun node => { node with errands := node.errands ++ orders.toList })
      (twin.mapNode fun node => { node with errands := node.errands ++ orders.toList })
  errand : ∀ scene twin errand rest, linked scene twin → scene.node.errands = errand :: rest →
    known errand.dest ∧ fit errand.key ∧ fit errand.value ∧
      linked (scene.mapNode fun node => { node with errands := rest })
        (twin.mapNode fun node => { node with errands := rest })
  listed : ∀ scene twin now, linked scene twin →
    ∀ item ∈ scene.node.store.listing now, fit item.value
  names : ∀ key : Ident, fit key.octets

namespace Conduct

variable {first : Caller ε} {second : Caller δ} {linked : Scene ε → Scene δ → Prop}
  {own : Option Ident} {known seed : Contact → Prop} {fit : Octets → Prop}
  (conduct : Conduct first second linked own known seed fit)
  {scene : Scene ε} {twin : Scene δ}
include conduct

/-- A search for a value; the repair it may order goes to a known contact. -/
theorem lookupValue (start : linked scene twin) (key : Ident) {seeds : List Contact}
    (met : ∀ contact ∈ seeds, known contact) :
    (twin.lookupValueBy second key seeds).1 = (scene.lookupValueBy first key seeds).1 ∧
      linked (scene.lookupValueBy first key seeds).2 (twin.lookupValueBy second key seeds).2 := by
  have fine : ∀ dest reply finding, Reply.finding? reply = some finding →
      Credible own known fit dest reply →
        Lookup.ValueSearch.Fine scene.node.id known fit finding := by
    intro dest reply finding chose told
    obtain ⟨value, rfl, rfl⟩ | ⟨contacts, rfl, rfl⟩ := Reply.eq_of_finding chose
    · exact told.found value rfl
    · exact conduct.fine_of_told start told.named
  obtain ⟨same, after, found⟩ := Lookup.ValueSearch.find_value_agree
    (conduct.agree Reply.finding? (.findValue key.octets) (conduct.names key) fine) key
    scene.node.width scene.node.parallelism met scene twin start
  unfold lookupValueBy searchValue
  rw [conduct.node scene twin start]
  dsimp only
  rw [← same]
  generalize Lookup.findValue scene.node.id _ key _ _ seeds scene = searched at after found ⊢
  refine ⟨rfl, conduct.repair _ _ _ after ?_⟩
  intro errand ordered
  obtain ⟨hit, won, repaired⟩ := Option.bind_eq_some_iff.mp ordered
  obtain ⟨peer, chosen, rfl⟩ := Option.map_eq_some_iff.mp repaired
  obtain ⟨fitValue, repair⟩ := found hit won
  exact ⟨repair peer chosen, conduct.names key, fitValue⟩

theorem get (start : linked scene twin) (key : String) :
    linked (scene.getBy first key).2 (twin.getBy second key).2 := by
  have read := conduct.read scene twin (Ident.digest key) start
  have same : (twin.readOwn (Ident.digest key)).1 = (scene.readOwn (Ident.digest key)).1 := by
    unfold readOwn
    rw [conduct.node scene twin start, conduct.clock scene twin start]
  unfold getBy
  dsimp only
  rw [same, conduct.node _ _ read, conduct.clock _ _ read]
  split
  · exact read
  · split_ifs
    · exact read
    · obtain ⟨found, after⟩ := conduct.lookupValue read (Ident.digest key)
        (conduct.near _ _ _ (scene.readOwn (Ident.digest key)).2.node.width read)
      rw [found, conduct.clock _ _ after]
      exact conduct.report _ _ _ _ _ after

theorem storeAll {dests : List Contact} (start : linked scene twin)
    (met : ∀ dest ∈ dests, known dest) {key value : Octets} (fitKey : fit key)
    (fitValue : fit value) :
    (callAll second (.store key value) twin dests).1 =
        (callAll first (.store key value) scene dests).1 ∧
      linked (callAll first (.store key value) scene dests).2
        (callAll second (.store key value) twin dests).2 := by
  obtain ⟨same, after, _⟩ := conduct.callAll (.store key value) ⟨fitKey, fitValue⟩
    (fun dest among => Or.inl (met dest among)) start
  exact ⟨same, after⟩

theorem publish (start : linked scene twin) (key : Ident) {value : Octets} (fitValue : fit value) :
    (twin.publishBy second key value).1 = (scene.publishBy first key value).1 ∧
      linked (scene.publishBy first key value).2 (twin.publishBy second key value).2 := by
  obtain ⟨same, after, found⟩ := conduct.lookup start key
    (conduct.near scene twin key scene.node.width start)
  unfold publishBy
  dsimp only
  rw [conduct.node scene twin start, same, conduct.node _ _ after, conduct.clock _ _ after]
  split_ifs
  · exact ⟨rfl, start⟩
  · obtain ⟨answers, ended⟩ := conduct.storeAll
      (conduct.keep _ _ _ _ _ after (conduct.names key) fitValue) found (conduct.names key) fitValue
    exact ⟨by rw [answers], ended⟩
  · obtain ⟨answers, ended⟩ := conduct.storeAll after found (conduct.names key) fitValue
    exact ⟨by rw [answers], ended⟩

theorem set (start : linked scene twin) (key : String) {value : Octets} (fitValue : fit value) :
    linked (scene.setBy first key value).2 (twin.setBy second key value).2 := by
  obtain ⟨same, after⟩ := conduct.publish start (Ident.digest key) fitValue
  unfold setBy
  dsimp only
  rw [same, conduct.node _ _ start, conduct.clock _ _ after, conduct.clock _ _ start]
  split_ifs
  · exact conduct.report _ _ _ _ _ after
  · exact after

theorem refreshToward (start : linked scene twin) (target : Ident) :
    linked (scene.refreshTowardBy first target) (twin.refreshTowardBy second target) := by
  unfold refreshTowardBy
  dsimp only
  rw [conduct.node scene twin start]
  split_ifs
  · exact start
  · exact (conduct.lookup start target
      (conduct.near scene twin _ scene.node.parallelism start)).2.1

theorem republish {items : List Listed} (start : linked scene twin)
    (fits : ∀ item ∈ items, fit item.value) :
    linked (scene.republishBy first items) (twin.republishBy second items) := by
  induction items generalizing scene twin with
  | nil => exact start
  | cons item items ih =>
      rw [List.forall_mem_cons] at fits
      rw [republishBy, republishBy, conduct.clock scene twin start]
      cases read : item.read scene.clock with
      | error failure => exact start
      | ok entry =>
          have value : entry.2 = item.value := congrArg Prod.snd (Listed.eq_of_read read)
          dsimp only
          split
          · exact ih (conduct.publish start _ (value ▸ fits.1)).2 fits.2
          · exact ih start fits.2

theorem refreshTargets (start : linked scene twin) (draw : Nat → Nat) :
    twin.refreshTargets draw = scene.refreshTargets draw := by
  unfold Scene.refreshTargets
  rw [conduct.node _ _ start, conduct.clock _ _ start]

theorem refresh (start : linked scene twin) (draw : Nat → Nat) :
    linked (scene.refreshBy first draw) (twin.refreshBy second draw) := by
  have looked : ∀ (targets : List Ident) (scene : Scene ε) (twin : Scene δ), linked scene twin →
      linked (targets.foldl (refreshTowardBy first) scene)
        (targets.foldl (refreshTowardBy second) twin) := by
    intro targets
    induction targets with
    | nil => exact fun _ _ start => start
    | cons target targets ih => exact fun _ _ start => ih _ _ (conduct.refreshToward start target)
  unfold refreshBy
  rw [conduct.node scene twin start, conduct.clock scene twin start]
  split_ifs
  · exact start
  · have culled := conduct.cull scene twin scene.clock start
    dsimp only
    rw [conduct.refreshTargets culled]
    have after (targets : List Ident) := looked targets _ _ culled
    rw [conduct.node _ _ (after _), conduct.clock _ _ (after _)]
    exact conduct.republish (after _) (conduct.listed _ _ _ (after _))

theorem runErrand (start : linked scene twin) :
    linked (scene.runErrandBy first) (twin.runErrandBy second) := by
  unfold runErrandBy
  rw [conduct.node scene twin start]
  split
  · exact start
  · next errand rest due =>
      obtain ⟨met, fitKey, fitValue, left⟩ := conduct.errand scene twin errand rest start due
      exact (conduct.call _ _ errand.dest (.store errand.key errand.value) left (Or.inl met)
        ⟨fitKey, fitValue⟩).2.1

end Conduct
end Scene
end XorOverlay
