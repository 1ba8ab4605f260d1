import Mathlib
import XorOverlay.Proofs.Exchange.Routes
import XorOverlay.Proofs.Lookup.Homing
import XorOverlay.Proofs.Node.Ledger

/-!
What a node calls under its own name. Its table and its errands never hold that name, and no search
picks it up from a report, so no read, write, refresh or errand calls it. Joining is the exception: the
seeds that answered are searched from as they are named, so a node that reaches itself among its seeds
asks itself for contacts, and finds itself unless that failed.
-/

namespace XorOverlay

set_option autoImplicit false

namespace Node

/-- A node of this name that holds its own name nowhere. -/
structure Apart (settings : Settings) (own : Ident) (node : Node) : Prop
    extends node.Linked settings where
  named : node.id = own
  owner : node.table.owner = own
  errands : ∀ errand ∈ node.errands, errand.dest.id ≠ own

variable {settings : Settings} {own : Ident} {node : Node}

theorem start_apart (settings : Settings) (id : Ident) (endpoint : Endpoint) (store : Store)
    (now : Nanoseconds) : (start settings id endpoint store now).Apart settings id where
  toLinked := start_linked settings id endpoint store now
  named := rfl
  owner := rfl
  errands := nofun

theorem welcome_apart (apart : node.Apart settings own) {now : Nanoseconds} {peer : Contact}
    {welcomed : Node} (taken : node.welcome? now peer = some welcomed) :
    welcomed.Apart settings own := by
  have linked := welcome_linked apart.toLinked taken
  by_cases same : peer.id = node.id
  · rw [welcome?, same, beq_self_eq_true, Bool.or_true, if_pos rfl] at taken
    rw [← Option.some.inj taken]
    exact apart
  · rcases welcome_cases taken with rfl | ⟨pushed, _, rfl⟩
    · exact apart
    · refine ⟨linked, apart.named, (Table.add_owner now peer node.table).1.trans apart.owner, ?_⟩
      intro errand due
      rcases List.mem_append.mp due with old | new
      · exact apart.errands errand old
      · obtain ⟨entry, _, rfl⟩ := List.mem_map.mp new
        exact apart.named ▸ same

theorem forget_apart (apart : node.Apart settings own) (id : Ident) :
    (node.forget id).Apart settings own :=
  { apart with toLinked := forget_linked apart.toLinked id }

theorem handle_apart (apart : node.Apart settings own) (now : Nanoseconds) (source : Endpoint)
    (request : Request) : (node.handle now source request).2.Apart settings own := by
  unfold handle
  cases taken : node.welcome? now ⟨request.sender.id, some source⟩ with
  | none => exact apart
  | some welcomed =>
      have after := welcome_apart apart taken
      obtain ⟨store, left⟩ := reply_store now request.sender.id request.query welcomed
      show (welcomed.reply now request.sender.id request.query).2.Apart settings own
      rw [left]
      exact { after with }

theorem neighbours_apart (apart : node.Apart settings own) (target : Ident) (count : Nat) :
    ∀ contact ∈ node.neighbours target count, contact.id ≠ own := by
  intro contact near
  rw [neighbours_eq] at near
  split_ifs at near
  · obtain ⟨bucket, among, held⟩ := Table.holds_of_live (Table.mem_closest near).1
    rw [← apart.owner]
    exact (apart.table.sound bucket among).foreign contact held
  · cases near

end Node

namespace Operation

variable {ε δ : Type}

/-- An operation, with its calls left open. -/
def runBy (caller : Scene.Caller ε) (scene : Scene ε) : Operation → Scene ε
  | .bootstrap seeds => (scene.bootstrapBy caller seeds).2
  | .get key => (scene.getBy caller key).2
  | .set key value => (scene.setBy caller key value).2
  | .delete key => (scene.setBy caller key []).2
  | .refresh draw => scene.refreshBy caller draw
  | .errand => scene.runErrandBy caller

theorem run_by_call (carrier : Carrier ε) (scene : Scene ε) (operation : Operation) :
    operation.run carrier scene = operation.runBy (Scene.call carrier) scene := by
  cases operation with
  | bootstrap seeds => exact congrArg Prod.snd (Scene.bootstrap_by_call carrier scene seeds)
  | get key => exact congrArg Prod.snd (Scene.get_by_call carrier scene key)
  | set key value => exact congrArg Prod.snd (Scene.set_by_call carrier scene key value)
  | delete key => exact congrArg Prod.snd (Scene.set_by_call carrier scene key [])
  | refresh draw => exact Scene.refresh_by_call carrier scene draw
  | errand => exact Scene.run_errand_by_call carrier scene

/-- The calls of an operation, in order. -/
def calls (carrier : Carrier ε) (scene : Scene ε) (operation : Operation) : List Call :=
  (operation.runBy (Scene.noting (Scene.call carrier)) scene.unnoted).outside.2

/-- Callers that take every operation through the same course, as long as no seed answers a node that
joins under its own name. -/
theorem runs_alike {first : Scene.Caller ε} {second : Scene.Caller δ}
    {linked : Scene ε → Scene δ → Prop} {own : Option Ident} {known seed : Contact → Prop}
    (conduct : Scene.Conduct first second linked own known seed fun _ => True)
    {scene : Scene ε} {twin : Scene δ} (start : linked scene twin) (operation : Operation)
    (joins : ∀ seeds, operation = .bootstrap seeds →
      (∀ endpoint ∈ seeds, seed ⟨Ident.zero, some endpoint⟩) ∧
        ∀ contact ∈ Scene.introduced
          (Scene.callAll first .ping scene (Scene.placeholders seeds)).1, some contact.id ≠ own) :
    linked (operation.runBy first scene) (operation.runBy second twin) := by
  cases operation with
  | bootstrap seeds =>
      obtain ⟨sown, foreign⟩ := joins seeds rfl
      exact (conduct.bootstrap start sown foreign).2.1
  | get key => exact conduct.get start key
  | set key value => exact conduct.set start key trivial
  | delete key => exact conduct.set start key trivial
  | refresh draw => exact conduct.refresh start draw
  | errand => exact conduct.runErrand start

end Operation

namespace Scene

variable {ε : Type} {settings : Settings} {own : Ident} {fit : ε → Prop} {carrier : Carrier ε}

/-- A node that holds its own name nowhere, in fit surroundings. -/
def Apart (settings : Settings) (own : Ident) (fit : ε → Prop) (scene : Scene ε) : Prop :=
  scene.node.Apart settings own ∧ fit scene.outside

section Carried

variable (carries : ∀ scene dest request, Apart settings own fit scene →
  Apart settings own fit (carrier scene dest request).2)
include carries

theorem Apart.call {scene : Scene ε} (apart : scene.Apart settings own fit) (dest : Contact)
    (query : Query) : (scene.call carrier dest query).2.Apart settings own fit :=
  call_retains carries (fun _ _ apart => ⟨{ apart.1 with }, apart.2⟩)
    (fun _ _ _ apart taken => ⟨Node.welcome_apart apart.1 taken, apart.2⟩)
    (fun _ id apart => ⟨Node.forget_apart apart.1 id, apart.2⟩) apart dest query

/-- Whoever may be called, a call leaves the node without its own name. -/
theorem apart_parallel : Parallel (Scene.call carrier) (Scene.call carrier)
    (fun scene twin => scene = twin ∧ Apart settings own fit scene) none (fun _ => True)
    (fun _ => True) fun _ => True where
  node := by
    rintro scene _ ⟨rfl, _⟩
    rfl
  clock := by
    rintro scene _ ⟨rfl, _⟩
    rfl
  named := fun _ _ _ id none => (Option.not_mem_none id none).elim
  call := by
    rintro scene _ dest query ⟨rfl, apart⟩ _ _
    exact ⟨rfl, ⟨rfl, apart.call carries dest query⟩, fun _ _ =>
      ⟨fun _ _ _ => trivial, fun _ _ => trivial, fun _ _ _ => trivial⟩⟩

/-- Contacts of other names are all an operation has to do with, as long as it does not join. -/
theorem apart_conduct : Conduct (Scene.call carrier) (Scene.call carrier)
    (fun scene twin => scene = twin ∧ Apart settings own fit scene) (some own)
    (fun contact => contact.id ≠ own) (fun _ => False) fun _ => True where
  node := (apart_parallel carries).node
  clock := (apart_parallel carries).clock
  named := by
    rintro scene _ ⟨rfl, apart⟩ id same
    rw [apart.1.named]
    exact Option.mem_some.mp same
  call := by
    rintro scene _ dest query ⟨rfl, apart⟩ _ _
    exact ⟨rfl, ⟨rfl, apart.call carries dest query⟩, fun _ _ =>
      ⟨fun _ _ foreign same => foreign (congrArg some same), fun _ _ => trivial,
        fun _ _ foreign same => foreign (congrArg some same)⟩⟩
  near := by
    rintro scene _ target count ⟨rfl, apart⟩
    exact Node.neighbours_apart apart.1 target count
  read := by
    rintro scene _ key ⟨rfl, apart⟩
    exact ⟨rfl, { apart.1 with }, apart.2⟩
  keep := by
    rintro scene _ now key value ⟨rfl, apart⟩ _ _
    exact ⟨rfl, { apart.1 with }, apart.2⟩
  report := by
    rintro scene _ now latency success ⟨rfl, apart⟩
    exact ⟨rfl, { apart.1 with }, apart.2⟩
  cull := by
    rintro scene _ now ⟨rfl, apart⟩
    exact ⟨rfl, { apart.1 with }, apart.2⟩
  repair := by
    rintro scene _ orders ⟨rfl, apart⟩ ordered
    refine ⟨rfl, ⟨{ apart.1.toLinked with }, apart.1.named, apart.1.owner, ?_⟩, apart.2⟩
    exact List.forall_mem_append.mpr ⟨apart.1.errands, fun errand new =>
      (ordered errand (Option.mem_toList.mp new)).1⟩
  errand := by
    rintro scene _ errand rest ⟨rfl, apart⟩ due
    have foreign := apart.1.errands
    rw [due, List.forall_mem_cons] at foreign
    exact ⟨foreign.1, trivial, trivial, rfl,
      ⟨{ apart.1.toLinked with }, apart.1.named, apart.1.owner, foreign.2⟩, apart.2⟩
  listed := fun _ _ _ _ _ _ => trivial
  names := fun _ => trivial

theorem apart_operation (operation : Operation) {scene : Scene ε}
    (apart : scene.Apart settings own fit) :
    (operation.run carrier scene).Apart settings own fit := by
  rw [Operation.run_by_call]
  by_cases joining : ∃ seeds, operation = .bootstrap seeds
  · obtain ⟨seeds, rfl⟩ := joining
    exact ((apart_parallel carries).bootstrap ⟨rfl, apart⟩ (fun _ _ => trivial)
      fun _ _ => Option.some_ne_none _).2.1.2
  · exact (Operation.runs_alike (apart_conduct carries) ⟨rfl, apart⟩ operation
      fun seeds same => (joining ⟨seeds, same⟩).elim).2

/-- An operation that does not join calls nobody under the node's own name. -/
theorem calls_foreign {operation : Operation} (staying : ∀ seeds, operation ≠ .bootstrap seeds)
    {scene : Scene ε} (apart : scene.Apart settings own fit) :
    ∀ call ∈ operation.calls carrier scene, call.dest.id ≠ own := by
  intro call made
  have kept := Operation.runs_alike (apart_conduct carries).noted (unnoted_noted _ _ apart) operation
    fun seeds same => (staying seeds same).elim
  exact (kept.calls call made).resolve_right And.left

end Carried

/-- The calls of an operation are made in the very run of it. -/
theorem calls_erased (carrier : Carrier ε) (scene : Scene ε) (operation : Operation) :
    (operation.runBy (noting (call carrier)) scene.unnoted).erased =
      operation.run carrier scene := by
  rw [Operation.run_by_call]
  exact (Operation.runs_alike (free_upkeep carrier).conduct.noted (unnoted_noted _ _ trivial)
    operation fun _ _ => ⟨fun _ _ => trivial, fun _ _ => Option.some_ne_none _⟩).erased

theorem bootstrap_noted (carrier : Carrier ε) (scene : Scene ε) (seeds : List Endpoint) :
    (scene.unnoted.bootstrapBy (noting (call carrier)) seeds).1 =
      (scene.bootstrap carrier seeds).1 := by
  rw [bootstrap_by_call]
  exact ((free_upkeep carrier).conduct.noted.bootstrap (unnoted_noted _ _ trivial)
    (fun _ _ => trivial) fun _ _ => Option.some_ne_none _).1

/-- Pings leave a node without its own name, whoever answers them. -/
theorem call_all_apart (carries : ∀ scene dest request, Apart settings own fit scene →
      Apart settings own fit (carrier scene dest request).2) (query : Query)
    {scene : Scene (ε × List Call)} (apart : scene.erased.Apart settings own fit)
    (dests : List Contact) :
    (callAll (noting (call carrier)) query scene dests).2.erased.Apart settings own fit := by
  unfold callAll
  refine (each_keeps (fun scene => scene.erased.Apart settings own fit) (fun _ => True)
    (fun _ _ => True) ?_ (fun _ _ => trivial) apart).1
  exact fun dest _ apart _ => ⟨apart.call carries dest query, fun _ _ => trivial⟩

/-- What is noted of a search of a node for its own name: it calls itself exactly if it is among those
it begins with and may ask anyone, and finds itself exactly if that call does not fail besides. -/
theorem homing_noted (caller : Caller ε) {scene : Scene (ε × List Call)}
    (named : scene.node.id = own) {seeds : List Contact}
    (lives : ∀ seed ∈ seeds, seed.endpoint.isSome = true) :
    let looked := scene.lookupBy (noting caller) own seeds
    ∃ searches : List Call, looked.2.outside.2 = scene.outside.2 ++ searches ∧
      (∀ call ∈ searches, call.query = .findNode own) ∧
      ((∃ call ∈ searches, call.dest.id = own ∧ call.dest.endpoint.isSome = true) ↔
        (∃ seed ∈ seeds, seed.id = own) ∧ 0 < scene.node.width ∧ 0 < scene.node.parallelism) ∧
      ((∃ contact ∈ looked.1, contact.id = own) ↔
        (∃ seed ∈ seeds, seed.id = own) ∧ 0 < scene.node.width ∧
          ∀ call ∈ searches, call.dest.id = own →
            call.called.pick Reply.contacts? ≠ .failed) := by
  intro looked
  obtain ⟨found, searches, noted, rounds⟩ := lookup_noted caller scene own seeds
  rw [named] at found rounds
  let ask := callAll (noting caller) (.findNode own)
  have asked := Lookup.own_asked_iff own scene.node.width scene.node.parallelism lives
    Reply.contacts? ask scene
  have finds := Lookup.own_found_iff own scene.node.width scene.node.parallelism lives
    Reply.contacts? ask scene
  dsimp only at asked finds
  refine ⟨searches, noted, rounds.queries, ?_, ?_⟩
  · rw [← asked]
    constructor
    · rintro ⟨call, made, same⟩
      exact ⟨call.dest, rounds.asked.mpr ⟨call, made, rfl⟩, same⟩
    · rintro ⟨contact, sent, same⟩
      obtain ⟨call, made, rfl⟩ := rounds.asked.mp sent
      exact ⟨call, made, same⟩
  · rw [show looked.1 = _ from found, finds, rounds.failed]
    simp only [not_exists, not_and, ne_eq]

/-- A node that joins pings its seeds, and then asks for contacts of its own name. Among those it asks
is itself exactly if a pong named it and it may ask anyone; and it finds itself exactly if a pong named
it, it may find anyone, and its question to itself did not fail. -/
theorem bootstrap_calls (carries : ∀ scene dest request, Apart settings own fit scene →
      Apart settings own fit (carrier scene dest request).2)
    {scene : Scene ε} (apart : scene.Apart settings own fit) (seeds : List Endpoint) :
    ∃ pings searches : List Call,
      (Operation.bootstrap seeds).calls carrier scene = pings ++ searches ∧
      (∀ call ∈ pings, call.query = .ping) ∧ (∀ call ∈ searches, call.query = .findNode own) ∧
      ((∃ call ∈ searches, call.dest.id = own ∧ call.dest.endpoint.isSome = true) ↔
        (∃ call ∈ pings, call.called = .answered (.pong own)) ∧ 0 < settings.width ∧
          0 < settings.parallelism) ∧
      ((∃ contact ∈ (scene.bootstrap carrier seeds).1, contact.id = own) ↔
        (∃ call ∈ pings, call.called = .answered (.pong own)) ∧ 0 < settings.width ∧
          ∀ call ∈ searches, call.dest.id = own →
            call.called.pick Reply.contacts? ≠ .failed) := by
  obtain ⟨pings, noted, recounts⟩ :=
    call_all_noted (call carrier) .ping scene.unnoted (placeholders seeds)
  have begun : scene.unnoted.erased.Apart settings own fit := apart
  have after := call_all_apart carries .ping begun (placeholders seeds)
  rw [← bootstrap_noted]
  simp only [Operation.calls, Operation.runBy, bootstrapBy]
  generalize callAll (noting (call carrier)) .ping scene.unnoted (placeholders seeds) = pinged
    at noted recounts after ⊢
  obtain ⟨answers, pinged⟩ := pinged
  have owned : pinged.node.id = own := after.1.named
  have width : pinged.node.width = settings.width := after.1.width
  have parallelism : pinged.node.parallelism = settings.parallelism := after.1.parallelism
  have named : (∃ contact ∈ introduced answers, contact.id = own) ↔
      ∃ call ∈ pings, call.called = .answered (.pong own) := recounts.introduced_named own
  dsimp only
  rw [owned]
  split_ifs with nobody
  · have absent : ¬∃ call ∈ pings, call.called = .answered (.pong own) := by
      rw [← named, List.isEmpty_iff.mp nobody]
      simp
    refine ⟨pings, [], ?_, recounts.queries, List.forall_mem_nil _, ?_, ?_⟩
    · exact noted.trans (List.append_nil _).symm
    · exact iff_of_false (by simp) fun all => absent all.1
    · exact iff_of_false (by simp) fun all => absent all.1
  · obtain ⟨searches, later, queries, called, finds⟩ :=
      homing_noted (call carrier) owned recounts.introduced_linked
    rw [named, width, parallelism] at called
    rw [named, width] at finds
    exact ⟨pings, searches, later.trans (congrArg (· ++ searches) noted), recounts.queries, queries,
      called, finds⟩

/-- Through all that a node undergoes, it holds its own name nowhere. -/
theorem undergoes_apart {first second : Scene ε} (undergoes : Undergoes first second)
    (apart : first.node.Apart settings own) : second.node.Apart settings own := by
  refine undergoes_keeps ?_ ?_ ?_ undergoes apart
  · exact fun _ now source request apart => Node.handle_apart apart now source request
  · exact fun _ apart => { apart with }
  · exact fun fit carrier carries operation scene apart => apart_operation carries operation apart

/-- Whatever a node has been through, it calls nobody under its own name, unless it joins. When it joins
it pings its seeds and asks for contacts of its own name; it asks itself for them exactly if a pong
named it, and it finds itself exactly if besides its question to itself did not fail. -/
theorem own_name_called_iff_named (settings : Settings) (id : Ident) (endpoint : Endpoint)
    (store : Store) (now clock : Nanoseconds) (outside : ε) {scene : Scene ε}
    (undergoes : Undergoes ⟨Node.start settings id endpoint store now, clock, outside⟩ scene)
    (carrier : Carrier ε)
    (carries : ∀ scene dest request, Undergoes scene (carrier scene dest request).2) :
    (∀ operation : Operation, (∀ seeds, operation ≠ .bootstrap seeds) →
        ∀ call ∈ operation.calls carrier scene, call.dest.id ≠ id) ∧
      ∀ seeds : List Endpoint,
        let calls := (Operation.bootstrap seeds).calls carrier scene
        let found := (scene.bootstrap carrier seeds).1
        let named := ∃ call ∈ calls, call.query = .ping ∧ call.called = .answered (.pong id)
        (∀ call ∈ calls, call.query = .ping ∨ call.query = .findNode id) ∧
          ((∃ call ∈ calls, call.query = .findNode id ∧ call.dest.id = id ∧
              call.dest.endpoint.isSome = true) ↔
            named ∧ 0 < settings.width ∧ 0 < settings.parallelism) ∧
          ((∃ contact ∈ found, contact.id = id) ↔
            named ∧ 0 < settings.width ∧ ∀ call ∈ calls, call.query = .findNode id →
              call.dest.id = id → call.called.pick Reply.contacts? ≠ .failed) := by
  have apart : scene.Apart settings id fun _ => True :=
    ⟨undergoes_apart undergoes (Node.start_apart settings id endpoint store now), trivial⟩
  have carried : ∀ scene dest request, Apart settings id (fun _ => True) scene →
      Apart settings id (fun _ => True) (carrier scene dest request).2 :=
    fun scene dest request apart => ⟨undergoes_apart (carries scene dest request) apart.1, trivial⟩
  refine ⟨fun operation staying => calls_foreign carried staying apart, ?_⟩
  intro seeds calls found named
  obtain ⟨pings, searches, split, asked, searched, called, finds⟩ :=
    bootstrap_calls carried apart seeds
  have parts : ∀ call, call ∈ calls ↔ call ∈ pings ∨ call ∈ searches := by
    intro call
    rw [show calls = pings ++ searches from split, List.mem_append]
  have pinged : ∀ call, call ∈ calls ∧ call.query = .ping ↔ call ∈ pings := by
    intro call
    rw [parts]
    refine ⟨?_, fun ping => ⟨Or.inl ping, asked call ping⟩⟩
    rintro ⟨ping | search, query⟩
    · exact ping
    · cases (searched call search).symm.trans query
  have sent : ∀ call, call ∈ calls ∧ call.query = .findNode id ↔ call ∈ searches := by
    intro call
    rw [parts]
    refine ⟨?_, fun search => ⟨Or.inr search, searched call search⟩⟩
    rintro ⟨ping | search, query⟩
    · cases (asked call ping).symm.trans query
    · exact search
  have all : named ↔ ∃ call ∈ pings, call.called = .answered (.pong id) := by
    refine exists_congr fun call => ?_
    rw [← and_assoc, pinged]
  refine ⟨?_, ?_, ?_⟩
  · intro call made
    exact ((parts call).mp made).imp (asked call) (searched call)
  · rw [all, ← called]
    refine exists_congr fun call => ?_
    rw [← and_assoc, sent]
  · rw [all, finds]
    refine and_congr_right fun _ => and_congr_right fun _ => forall_congr' fun call => ?_
    rw [← sent, and_imp]

/-- What is sent to the node itself it answers, and nothing else is answered. -/
def loopback : Carrier Unit :=
  fun scene dest request =>
    if dest = scene.node.endpoint then
      match scene.receive dest request with
      | (.answered response, after) => (.ok response, after)
      | (_, after) => (.error .timedOut, after)
    else (.error .timedOut, scene)

theorem loopback_undergoes (scene : Scene Unit) (dest : Endpoint) (request : Request) :
    Undergoes scene (loopback scene dest request).2 := by
  have heard : Undergoes scene (scene.receive dest request).2 := .asked dest request (.still scene)
  unfold loopback
  split_ifs
  · split
    · next received =>
        rw [received] at heard
        exact heard
    · next received =>
        rw [received] at heard
        exact heard
  · exact .still scene

/-- A node that reads asks its one contact, and never itself; a node that joins through itself does. -/
theorem itself_asked_when_joining :
    let scene := pinged Settings.default (Ident.ofNat 6)
    let own := Ident.ofNat 5
    let joining := (Operation.bootstrap [scene.node.endpoint]).calls loopback scene
    Undergoes (fresh Settings.default) scene ∧
      (∀ scene dest request, Undergoes scene (loopback scene dest request).2) ∧
      ((Operation.get "k").calls loopback scene).map Call.dest =
        [⟨Ident.ofNat 6, some (.v4 0x7F000001 6)⟩] ∧
      (∀ call ∈ (Operation.get "k").calls loopback scene, call.dest.id ≠ own) ∧
      (∃ call ∈ joining, call.query = .ping ∧ call.called = .answered (.pong own)) ∧
      ∃ call ∈ joining, call.query = .findNode own ∧ call.dest.id = own ∧
        call.dest.endpoint.isSome = true := by
  intro scene own joining
  have undergoes : Undergoes (fresh Settings.default) scene := .asked _ _ (.still _)
  obtain ⟨staying, joins⟩ := own_name_called_iff_named Settings.default (Ident.ofNat 5)
    (.v4 0x7F000001 5) (.expiring (Expiring.empty 10)) 0 0 () undergoes loopback loopback_undergoes
  have asked : ((Operation.get "k").calls loopback scene).map Call.dest =
      [⟨Ident.ofNat 6, some (.v4 0x7F000001 6)⟩] := by
    decide +kernel
  have named : ∃ call ∈ joining, call.query = .ping ∧ call.called = .answered (.pong own) := by
    decide +kernel
  refine ⟨undergoes, loopback_undergoes, asked, staying (.get "k") nofun, named, ?_⟩
  exact (joins [scene.node.endpoint]).2.1.mpr ⟨named, by decide, by decide⟩

/-- A fresh node whose own endpoint is among the seeds asks itself for contacts, and is found. -/
theorem own_seed_finds_itself :
    let scene := fresh Settings.default
    let own := Ident.ofNat 5
    (∀ scene dest request, Undergoes scene (loopback scene dest request).2) ∧
      (∃ call ∈ (Operation.bootstrap [scene.node.endpoint]).calls loopback scene,
        call.query = .findNode own ∧ call.dest = scene.node.contact) ∧
      (scene.bootstrap loopback [scene.node.endpoint]).1 = [scene.node.contact] ∧
      scene.node.contact.id = own := by
  refine ⟨loopback_undergoes, ?_⟩
  decide +kernel

end Scene
end XorOverlay
