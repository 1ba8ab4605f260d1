import Mathlib
import XorOverlay.Proofs.Exchange.Replies
import XorOverlay.Proofs.Lookup.Informed

/-!
When a node gives up for want of a route. Through whatever a node goes, it only ever takes in contacts
it can send to, so an operation that has a contact to begin with sends at least one request: a search
probes it at once, and where no probes are allowed a write still goes to it. The contacts to begin
with are all live ones but the one named like the key, which no search for the key is to find.
-/

namespace XorOverlay

set_option autoImplicit false

namespace Node

/-- A node with these settings that can send to everyone it holds. -/
structure Linked (settings : Settings) (node : Node) : Prop where
  table : node.table.Sound
  linked : ∀ contact, node.table.Holds contact → contact.endpoint.isSome = true
  width : node.width = settings.width
  parallelism : node.parallelism = settings.parallelism
  room : node.room = settings.room

variable {settings : Settings} {node : Node}

theorem start_linked (settings : Settings) (id : Ident) (endpoint : Endpoint) (store : Store)
    (now : Nanoseconds) : (start settings id endpoint store now).Linked settings where
  table := Table.empty_sound id settings.width now
  linked := fun contact held => (Table.not_holds_empty id settings.width now contact held).elim
  width := rfl
  parallelism := rfl
  room := rfl

theorem welcome_linked (linked : node.Linked settings) {now : Nanoseconds} {peer : Contact}
    {welcomed : Node} (taken : node.welcome? now peer = some welcomed) :
    welcomed.Linked settings := by
  cases lives : peer.endpoint with
  | none =>
      have ignored : peer.endpoint.isNone = true := Option.isNone_iff_eq_none.mpr lives
      rw [welcome?, ignored, Bool.true_or, if_pos rfl] at taken
      rw [← Option.some.inj taken]
      exact linked
  | some endpoint =>
      have known : ∀ contact, (node.table.add now peer).1.Holds contact →
          contact.endpoint.isSome = true := by
        intro contact held
        rcases Table.holds_add linked.table now held with old | rfl
        · exact linked.linked contact old
        · rw [lives]
          rfl
      rcases welcome_cases taken with rfl | ⟨pushed, _, rfl⟩
      · exact linked
      · exact ⟨Table.add_sound linked.table now peer, known, linked.width, linked.parallelism,
          linked.room⟩

theorem forget_linked (linked : node.Linked settings) (id : Ident) :
    (node.forget id).Linked settings where
  table := Table.remove_sound linked.table id
  linked := fun contact held => linked.linked contact (Table.holds_remove linked.table id held)
  width := linked.width
  parallelism := linked.parallelism
  room := linked.room

theorem handle_linked (linked : node.Linked settings) (now : Nanoseconds) (source : Endpoint)
    (request : Request) : (node.handle now source request).2.Linked settings := by
  unfold handle
  cases taken : node.welcome? now ⟨request.sender.id, some source⟩ with
  | none => exact linked
  | some welcomed =>
      have after := welcome_linked linked taken
      obtain ⟨store, left⟩ := reply_store now request.sender.id request.query welcomed
      show (welcomed.reply now request.sender.id request.query).2.Linked settings
      rw [left]
      exact { after with }

/-- A node that has room for its lists has nowhere to begin a search if it knows nobody but a contact
named like the target. -/
theorem neighbours_nil_iff (linked : node.Linked settings) (wide : 0 < settings.width)
    (room : node.canGather node.width = true) (target : Ident) :
    node.neighbours target node.width = [] ↔
      ∀ contact ∈ node.table.live, contact.id = target := by
  obtain ⟨all, perm, _, closest⟩ := Table.closest_ascending linked.table target node.width none
  have nobody : all.take node.width = [] ↔ all = [] := by
    rw [linked.width]
    exact List.take_eq_nil_iff.trans (or_iff_right wide.ne')
  rw [neighbours_eq, if_pos room, closest, nobody, ← List.length_eq_zero_iff, perm.length_eq,
    List.length_eq_zero_iff, Table.eligible, List.filter_eq_nil_iff]
  simp

/-- Neighbours to begin a search with can be sent to, and they are what the search has found before
its first round; that round has probes if any are allowed. -/
theorem neighbours_begin (linked : node.Linked settings) (target : Ident)
    (some : node.neighbours target node.width ≠ []) :
    let frontier := Lookup.Frontier.start target node.width node.parallelism
      (node.neighbours target node.width)
    (∀ contact ∈ node.neighbours target node.width, contact.endpoint.isSome = true) ∧
      frontier.candidates.closest = node.neighbours target node.width ∧
      (frontier.probes = [] ↔ node.parallelism = 0) := by
  intro frontier
  obtain ⟨all, perm, ascending, closest⟩ :=
    Table.closest_ascending linked.table target node.width none
  have near : node.neighbours target node.width = all.take node.width := by
    rw [neighbours_eq] at some ⊢
    split_ifs at some ⊢
    · exact closest
    · exact absurd rfl some
  have lives : ∀ contact ∈ all, contact.endpoint.isSome = true := by
    intro contact member
    have held := List.mem_of_mem_filter (perm.mem_iff.mp member)
    exact linked.linked contact (Table.holds_of_live held)
  have begun : frontier.candidates.closest = node.neighbours target node.width := by
    simp only [frontier, near]
    exact Lookup.Frontier.start_closest node.parallelism ascending lives
  refine ⟨?_, begun, ?_, ?_⟩
  · rw [near]
    exact fun contact member => lives contact (List.mem_of_mem_take member)
  · intro idle
    by_contra busy
    rw [near] at some
    cases all with
    | nil => exact some List.take_nil
    | cons nearest rest =>
        have wide : 0 < node.width := by
          by_contra narrow
          rw [Nat.eq_zero_of_not_pos narrow] at some
          exact some rfl
        have probed := Lookup.Frontier.nearest_probed wide (Nat.pos_of_ne_zero busy) ascending lives
        rw [← near] at probed
        exact List.ne_nil_of_mem probed idle
  · intro none
    have changed : frontier.candidates.closestIds ≠ frontier.lastIds := by
      rw [Candidates.closestIds, begun]
      exact fun same => some (List.map_eq_nil_iff.mp same)
    rw [Lookup.Frontier.probes, Lookup.Frontier.probeCount, if_neg changed]
    show _ = []
    rw [show frontier.parallelism = node.parallelism from rfl, none, List.take_zero]

end Node

namespace Scene

variable {ε : Type}

/-- Whatever may happen to a node: requests come from any endpoint, time passes, and operations run, or
run until one of their requests is sent; while a request is under way anything of this may happen, and
any response may come back. -/
inductive Undergoes : Scene ε → Scene ε → Prop where
  | still (scene : Scene ε) : Undergoes scene scene
  | asked {first second : Scene ε} (source : Endpoint) (request : Request) :
      Undergoes first second → Undergoes first (second.receive source request).2
  | elapse {first second : Scene ε} (clock : Nanoseconds) (outside : ε) :
      Undergoes first second → Undergoes first ⟨second.node, clock, outside⟩
  | operate {first second stage : Scene ε} (operation : Operation) (carrier : Carrier ε) :
      (∀ scene dest request, Undergoes scene (carrier scene dest request).2) →
      operation.Stage carrier second stage →
      Undergoes first second → Undergoes first stage
  | kill {first second : Scene ε} : Undergoes first second →
      Undergoes first (second.mapNode Node.kill)

/-- A linked node in fit surroundings. -/
structure Linked (settings : Settings) (fit : ε → Prop) (scene : Scene ε) : Prop where
  node : scene.node.Linked settings
  outside : fit scene.outside

variable {settings : Settings} {fit : ε → Prop} {carrier : Carrier ε} {first second scene : Scene ε}

theorem Linked.call (linked : scene.Linked settings fit)
    (carries : ∀ scene dest request, Linked settings fit scene →
      Linked settings fit (carrier scene dest request).2)
    (dest : Contact) (query : Query) :
    (scene.call carrier dest query).2.Linked settings fit :=
  call_retains carries (fun _ _ linked => ⟨{ linked.node with }, linked.outside⟩)
    (fun _ _ _ linked taken => ⟨Node.welcome_linked linked.node taken, linked.outside⟩)
    (fun _ id linked => ⟨Node.forget_linked linked.node id, linked.outside⟩) linked dest query

theorem linked_upkeep (carries : ∀ scene dest request, Linked settings fit scene →
      Linked settings fit (carrier scene dest request).2) :
    Upkeep carrier (Linked settings fit) (fun _ => True) (fun _ => True) (fun _ => True) where
  call := fun _ dest query linked _ _ => ⟨linked.call carries dest query, fun _ _ =>
    ⟨fun _ _ => trivial, fun _ _ => trivial, fun _ _ => trivial⟩⟩
  near := fun _ _ _ _ _ _ => trivial
  read := fun _ _ linked => ⟨{ linked.node with }, linked.outside⟩
  keep := fun _ _ _ _ linked _ _ => ⟨{ linked.node with }, linked.outside⟩
  report := fun _ _ _ _ linked => ⟨{ linked.node with }, linked.outside⟩
  cull := fun _ _ linked => ⟨{ linked.node with }, linked.outside⟩
  repair := fun _ _ _ _ linked _ _ _ => ⟨{ linked.node with }, linked.outside⟩
  errand := fun _ _ _ linked _ => ⟨trivial, trivial, trivial, { linked.node with }, linked.outside⟩
  listed := fun _ _ _ _ _ => trivial
  names := fun _ => trivial

/-- What is kept whatever contacts and octets are at hand, an operation keeps. -/
theorem Upkeep.operation {inv : Scene ε → Prop}
    (upkeep : Upkeep carrier inv (fun _ => True) (fun _ => True) (fun _ => True))
    (good : inv scene) (operation : Operation) : inv (operation.run carrier scene) := by
  cases operation with
  | bootstrap seeds => exact upkeep.bootstrap good fun _ _ => trivial
  | get key => exact upkeep.get good key
  | set key value => exact upkeep.set good key trivial
  | delete key => exact upkeep.set good key trivial
  | refresh draw => exact upkeep.refresh good draw
  | errand => exact upkeep.runErrand good

/-- Whatever requests, a kill and operations keep of a node, it keeps through all it undergoes. The
scenes in which an operation sends its requests are a part of the surroundings once they are taken
down, so what an operation keeps it keeps of them too. -/
theorem undergoes_keeps {good : Node → Prop}
    (handles : ∀ node now source request, good node → good (node.handle now source request).2)
    (kills : ∀ node, good node → good node.kill)
    (operates : ∀ {δ : Type} (fit : δ → Prop) (carrier : Carrier δ),
      (∀ scene dest request, good scene.node ∧ fit scene.outside →
        good (carrier scene dest request).2.node ∧ fit (carrier scene dest request).2.outside) →
      ∀ (operation : Operation) (scene : Scene δ), good scene.node ∧ fit scene.outside →
        good (operation.run carrier scene).node ∧ fit (operation.run carrier scene).outside)
    (undergoes : Undergoes first second) (start : good first.node) : good second.node := by
  induction undergoes with
  | still scene => exact start
  | @asked _ second source request _ ih =>
      unfold receive
      split_ifs
      · exact handles second.node second.clock source request (ih start)
      · exact ih start
  | elapse clock outside _ ih => exact ih start
  | @operate first second stage operation carrier _ reached _ carried ih =>
      rcases reached with rfl | sent
      · exact (operates (fun _ => True) carrier
          (fun scene dest request held => ⟨carried scene dest request held.1, trivial⟩) operation
          second ⟨ih start, trivial⟩).1
      · let taken : ε × List (Scene ε) → Prop := fun outside =>
          ∀ sending ∈ outside.2, good sending.node
        have traced : ∀ scene dest request, good scene.node ∧ taken scene.outside →
            good (carrier.traced scene dest request).2.node ∧
              taken (carrier.traced scene dest request).2.outside := by
          rintro scene dest request ⟨held, before⟩
          exact ⟨carried _ dest request held, List.forall_mem_cons.mpr ⟨held, before⟩⟩
        exact (operates taken carrier.traced traced operation
          ⟨second.node, second.clock, (second.outside, [])⟩ ⟨ih start, nofun⟩).2 stage sent
  | kill _ ih => exact kills _ (ih start)

theorem undergoes_linked (undergoes : Undergoes first second)
    (linked : first.Linked settings fun _ => True) : second.Linked settings fun _ => True := by
  refine ⟨undergoes_keeps ?_ ?_ ?_ undergoes linked.node, trivial⟩
  · exact fun _ now source request held => Node.handle_linked held now source request
  · exact fun _ held => { held with }
  · intro δ fit carrier carries operation scene held
    have kept : (operation.run carrier scene).Linked settings fit :=
      (linked_upkeep fun scene dest request (linked : scene.Linked settings fit) =>
        have carried := carries scene dest request ⟨linked.node, linked.outside⟩
        ⟨carried.1, carried.2⟩).operation ⟨held.1, held.2⟩ operation
    exact ⟨kept.node, kept.outside⟩

end Scene

namespace Scene

variable {ε : Type} {carrier : Carrier ε}

/-- A request was sent. -/
def Sent (scene : Scene (ε × List (Scene ε))) : Prop :=
  scene.outside.2 ≠ []

variable {scene : Scene (ε × List (Scene ε))}

theorem call_sent {dest : Contact} (query : Query)
    (sent : dest.endpoint.isSome = true ∨ scene.Sent) :
    (scene.call carrier.traced dest query).2.Sent := by
  unfold call
  split
  · next nowhere =>
      rw [nowhere] at sent
      exact sent.resolve_left Bool.false_ne_true
  · -- The request just taken down stays at the head of the list, whatever the answer.
    dsimp only [Carrier.traced]
    split
    · split
      · exact List.cons_ne_nil _ _
      · exact List.cons_ne_nil _ _
    · exact List.cons_ne_nil _ _

theorem sent_upkeep : Upkeep carrier.traced Sent (fun _ => True) (fun _ => True) (fun _ => True) where
  call := fun _ _ query sent _ _ => ⟨call_sent query (Or.inr sent), fun _ _ =>
    ⟨fun _ _ => trivial, fun _ _ => trivial, fun _ _ => trivial⟩⟩
  near := fun _ _ _ _ _ _ => trivial
  read := fun _ _ sent => sent
  keep := fun _ _ _ _ sent _ _ => sent
  report := fun _ _ _ _ sent => sent
  cull := fun _ _ sent => sent
  repair := fun _ _ _ _ sent _ _ _ => sent
  errand := fun _ _ _ sent _ => ⟨trivial, trivial, trivial, sent⟩
  listed := fun _ _ _ _ _ => trivial
  names := fun _ => trivial

/-- Calls to contacts that can be sent to send something, if there are any. -/
theorem each_sent {α : Type}
    {call : Contact → Scene (ε × List (Scene ε)) → Called α × Scene (ε × List (Scene ε))}
    (sends : ∀ (dest : Contact) (scene : Scene (ε × List (Scene ε))),
      dest.endpoint.isSome = true ∨ scene.Sent → (call dest scene).2.Sent)
    {dests : List Contact} (some : dests ≠ [])
    (linked : ∀ dest ∈ dests, dest.endpoint.isSome = true) : (each call dests scene).2.Sent := by
  cases dests with
  | nil => exact absurd rfl some
  | cons dest dests =>
      have first := sends dest scene (Or.inl (linked dest List.mem_cons_self))
      rw [each_cons]
      exact (each_keeps Sent (fun _ => True) (fun _ _ => True)
        (fun dest scene sent _ => ⟨sends dest scene (Or.inr sent), fun _ _ => trivial⟩)
        (fun _ _ => trivial) first).1

/-- A search that has anyone to probe sends something; one that has not finds its seeds. -/
theorem lookup_sent (target : Ident) {seeds : List Contact}
    (linked : ∀ seed ∈ seeds, seed.endpoint.isSome = true) :
    (scene.lookup carrier.traced target seeds).2.Sent ∨
      (scene.lookup carrier.traced target seeds).1 =
        (Lookup.Frontier.start target scene.node.width scene.node.parallelism
          seeds).candidates.closest := by
  have probed := Lookup.Frontier.probes_within
    (Lookup.Frontier.start_within target scene.node.width scene.node.parallelism linked)
  have sends : ∀ (dest : Contact) (scene : Scene (ε × List (Scene ε))),
      dest.endpoint.isSome = true ∨ scene.Sent →
        (scene.findNode carrier.traced target dest).2.Sent :=
    fun _ _ sent => call_sent (.findNode target) sent
  unfold lookup Lookup.findNodes Lookup.NodeSearch.search
  rw [show Lookup.maxRounds = 49 + 1 from rfl, Lookup.NodeSearch.run]
  generalize Lookup.Frontier.start target scene.node.width scene.node.parallelism seeds = frontier
    at probed ⊢
  dsimp only
  split_ifs with idle
  · right
    dsimp only
    rw [Lookup.Frontier.launch, Candidates.mark_all]
    rfl
  · exact Or.inl (each_sent sends (by simpa using idle) probed)
  · have sent : (each (findNode carrier.traced target) frontier.probes scene).2.Sent :=
      each_sent sends (by simpa using idle) probed
    have agree := @agree_of_keeps _ _ (findNode carrier.traced target) Sent (fun _ => True)
      (Lookup.NodeSearch.Fine scene.node.id fun _ => True) fun dest scene sent _ =>
        ⟨sends dest scene (Or.inr sent), fun _ _ _ _ _ => trivial⟩
    exact Or.inl (Lookup.NodeSearch.run_agrees agree 49 ⟨rfl, sent⟩ fun _ _ => trivial).2.1.2

/-- A search for a value that has anyone to probe sends something. -/
theorem lookup_value_sent (key : Ident) {seeds : List Contact}
    (linked : ∀ seed ∈ seeds, seed.endpoint.isSome = true)
    (busy : (Lookup.Frontier.start key scene.node.width scene.node.parallelism seeds).probes ≠ []) :
    (scene.lookupValue carrier.traced key seeds).2.Sent := by
  have sends : ∀ (dest : Contact) (scene : Scene (ε × List (Scene ε))),
      dest.endpoint.isSome = true ∨ scene.Sent →
        (scene.findValue carrier.traced key dest).2.Sent :=
    fun _ _ sent => call_sent (.findValue key.octets) sent
  have fine : ∀ finding, Lookup.ValueSearch.Fine scene.node.id (fun _ => True) (fun _ => True)
      finding := by
    intro finding
    cases finding with
    | found value => trivial
    | closest contacts => exact fun _ _ _ => trivial
  have agree := @agree_of_keeps _ _ (findValue carrier.traced key) Sent (fun _ => True)
    (Lookup.ValueSearch.Fine scene.node.id (fun _ => True) fun _ => True) fun dest scene sent _ =>
      ⟨sends dest scene (Or.inr sent), fun finding _ => fine finding⟩
  have sent : (each (findValue carrier.traced key) (Lookup.Frontier.start key scene.node.width
      scene.node.parallelism seeds).probes scene).2.Sent :=
    each_sent sends busy (Lookup.Frontier.probes_within
      (Lookup.Frontier.start_within key scene.node.width scene.node.parallelism linked))
  have searched : (Lookup.findValue scene.node.id
      (fun scene probes => each (findValue carrier.traced key) probes scene) key scene.node.width
      scene.node.parallelism seeds scene).2.Sent := by
    unfold Lookup.findValue
    rw [show Lookup.maxRounds = 49 + 1 from rfl, Lookup.ValueSearch.run]
    change (Lookup.ValueSearch.State.start key scene.node.width scene.node.parallelism
      seeds).frontier.probes ≠ [] at busy
    change (each _ (Lookup.ValueSearch.State.start key scene.node.width scene.node.parallelism
      seeds).frontier.probes scene).2.Sent at sent
    generalize Lookup.ValueSearch.State.start key scene.node.width scene.node.parallelism seeds =
      search at busy sent ⊢
    dsimp only
    split_ifs with idle
    · exact absurd (List.isEmpty_iff.mp idle) busy
    · exact sent
    · exact (Lookup.ValueSearch.run_agrees agree 49 ⟨rfl, sent⟩
        ⟨fun _ _ => trivial, fun _ _ => trivial, fun _ _ => trivial⟩).2.1.2
  unfold lookupValue
  generalize Lookup.findValue scene.node.id _ key _ _ seeds scene = result at searched ⊢
  obtain ⟨_ | ⟨value, _ | peer⟩, last⟩ := result
  · exact searched
  · exact searched
  · exact searched

/-- A search for a value that has nobody to probe ends where it began. -/
theorem lookup_value_idle (carrier : Carrier ε) {scene : Scene ε} (key : Ident)
    {seeds : List Contact}
    (idle : (Lookup.Frontier.start key scene.node.width scene.node.parallelism seeds).probes = []) :
    scene.lookupValue carrier key seeds = (none, scene) := by
  have nothing : Lookup.findValue scene.node.id
      (fun scene probes => each (findValue carrier key) probes scene) key scene.node.width
      scene.node.parallelism seeds scene = (none, scene) := by
    unfold Lookup.findValue
    rw [show Lookup.maxRounds = 49 + 1 from rfl, Lookup.ValueSearch.run]
    have empty : (Lookup.ValueSearch.State.start key scene.node.width scene.node.parallelism
      seeds).frontier.probes.isEmpty = true := List.isEmpty_iff.mpr idle
    simp only [empty]
    rfl
  rw [lookupValue, nothing]

/-- A write that knows where to begin sends something: its search does, or it finds the contacts it
began with, and the value goes to them. -/
theorem publish_sent {key : Ident} (value : Octets)
    (near : scene.node.neighbours key scene.node.width ≠ [])
    (closest : (Lookup.Frontier.start key scene.node.width scene.node.parallelism
      (scene.node.neighbours key scene.node.width)).candidates.closest =
        scene.node.neighbours key scene.node.width)
    (linked : ∀ contact ∈ scene.node.neighbours key scene.node.width,
      contact.endpoint.isSome = true) :
    (scene.publish carrier.traced key value).2.Sent := by
  have found := @lookup_sent _ carrier scene key _ linked
  rw [closest] at found
  rw [publish_eq]
  simp only
  rw [if_neg (by simpa using near)]
  rcases found with sent | same
  · have kept : ∀ (mine : Bool), Sent (if mine = true then
        (scene.lookup carrier.traced key (scene.node.neighbours key scene.node.width)).2.mapNode
          fun node => node.keep (scene.lookup carrier.traced key
            (scene.node.neighbours key scene.node.width)).2.clock key.octets value
        else (scene.lookup carrier.traced key (scene.node.neighbours key scene.node.width)).2) := by
      intro mine
      split_ifs
      · exact sent
      · exact sent
    exact sent_upkeep.storeAll (kept _) (fun _ _ => trivial) trivial trivial
  · have sends : ∀ (dest : Contact) (scene : Scene (ε × List (Scene ε))),
        dest.endpoint.isSome = true ∨ scene.Sent →
          (scene.storeAt carrier.traced dest key.octets value).2.Sent :=
      fun _ _ sent => call_sent (.store key.octets value) sent
    rw [same]
    exact each_sent sends near linked

theorem publish_stays {ε : Type} (carrier : Carrier ε) {scene : Scene ε} {key : Ident}
    (value : Octets) (nowhere : scene.node.neighbours key scene.node.width = []) :
    scene.publish carrier key value = (false, scene) := by
  rw [publish_eq]
  simp only
  rw [if_pos (List.isEmpty_iff.mpr nowhere)]

/-- A write makes no request exactly if there is nowhere to begin, and then it fails. -/
theorem set_gives_up_iff {settings : Settings} {scene : Scene ε}
    (linked : scene.node.Linked settings) (key : String) (value : Octets) :
    ((Operation.set key value).sendings carrier scene = [] ↔
        scene.node.neighbours (Ident.digest key) scene.node.width = []) ∧
      (scene.node.neighbours (Ident.digest key) scene.node.width = [] →
        (scene.set carrier key value).1 = false) := by
  let traced : Scene (ε × List (Scene ε)) := ⟨scene.node, scene.clock, (scene.outside, [])⟩
  refine ⟨⟨?_, ?_⟩, ?_⟩
  · intro quiet
    by_contra some
    obtain ⟨lives, begun, _⟩ := Node.neighbours_begin linked (Ident.digest key) some
    have sent := @publish_sent _ carrier traced _ value some begun lives
    replace quiet : (traced.set carrier.traced key value).2.outside.2 = [] := quiet
    rw [set_eq] at quiet
    dsimp only at quiet
    split_ifs at quiet
    · exact sent quiet
    · exact sent quiet
  · intro nowhere
    show (traced.set carrier.traced key value).2.outside.2 = []
    rw [set_eq, @publish_stays _ carrier.traced traced _ value nowhere]
    dsimp only
    split_ifs
    · rfl
    · rfl
  · intro nowhere
    rw [set_eq, publish_stays carrier value nowhere]

/-- A read of a key that the node does not keep comes to a search, if there is somewhere to begin. -/
theorem get_searches {ε : Type} (carrier : Carrier ε) {scene : Scene ε} {key : String}
    (lacking : (scene.readOwn (Ident.digest key)).1 = none) :
    scene.get carrier key =
      let read := (scene.readOwn (Ident.digest key)).2
      let nearest := scene.node.neighbours (Ident.digest key) scene.node.width
      if nearest = [] then (none, read)
      else
        let found := read.lookupValue carrier (Ident.digest key) nearest
        let value := found.1.filter fun value => !value.isEmpty
        (value, found.2.mapNode fun node =>
          node.report found.2.clock (found.2.clock - read.clock) value.isSome) := by
  rw [get_eq]
  simp only [lacking, List.isEmpty_iff]
  rfl

/-- A read of a key the node does not keep makes no request exactly if there is nowhere to begin or
no probe is allowed, and then it finds nothing. -/
theorem get_gives_up_iff {settings : Settings} {scene : Scene ε}
    (linked : scene.node.Linked settings) (key : String)
    (lacking : (scene.node.store.get scene.clock (Ident.digest key).octets).1 = none) :
    ((Operation.get key).sendings carrier scene = [] ↔
        scene.node.neighbours (Ident.digest key) scene.node.width = [] ∨
          settings.parallelism = 0) ∧
      (scene.node.neighbours (Ident.digest key) scene.node.width = [] ∨
          settings.parallelism = 0 →
        (scene.get carrier key).1 = none) := by
  let traced : Scene (ε × List (Scene ε)) := ⟨scene.node, scene.clock, (scene.outside, [])⟩
  show ((traced.get carrier.traced key).2.outside.2 = [] ↔ _) ∧ _
  rw [@get_searches _ carrier scene _ lacking, @get_searches _ carrier.traced traced _ lacking]
  dsimp only
  rw [show traced.node = scene.node from rfl]
  by_cases nowhere : scene.node.neighbours (Ident.digest key) scene.node.width = []
  · rw [if_pos nowhere, if_pos nowhere]
    exact ⟨iff_of_true rfl (Or.inl nowhere), fun _ => rfl⟩
  · obtain ⟨lives, _, idle⟩ := Node.neighbours_begin linked (Ident.digest key) nowhere
    rw [linked.parallelism] at idle
    rw [if_neg nowhere, if_neg nowhere, or_iff_right nowhere]
    by_cases none : settings.parallelism = 0
    · have idle := idle.mpr none
      rw [← linked.parallelism] at idle
      rw [@lookup_value_idle _ carrier (scene.readOwn (Ident.digest key)).2 _ _ idle,
        @lookup_value_idle _ carrier.traced (traced.readOwn (Ident.digest key)).2 _ _ idle]
      exact ⟨iff_of_true rfl none, fun _ => rfl⟩
    · have busy := mt idle.mp none
      rw [← linked.parallelism] at busy
      have sent := @lookup_value_sent _ carrier (traced.readOwn (Ident.digest key)).2
        (Ident.digest key) _ lives busy
      exact ⟨iff_of_false sent none, fun absurdly => absurd absurdly none⟩

/-- Through whatever a node has been, if it has room for its lists of contacts and these may have any,
a write makes no request, and fails, exactly if all contacts of the node are named like the key, so at
most one is. A read of a key the node does not keep makes no request, and finds nothing, in the same
case, and otherwise only if the settings allow no probes. -/
theorem no_route_iff (settings : Settings) (wide : 0 < settings.width) (id : Ident)
    (endpoint : Endpoint) (store : Store) (now clock : Nanoseconds) (outside : ε)
    (room : (Node.start settings id endpoint store now).canGather settings.width = true)
    {scene : Scene ε}
    (undergoes : Undergoes ⟨Node.start settings id endpoint store now, clock, outside⟩ scene)
    (carrier : Carrier ε) (key : String) (value : Octets) :
    let alone := ∀ contact ∈ scene.node.table.live, contact.id = Ident.digest key
    (((Operation.set key value).sendings carrier scene = [] ↔ alone) ∧
        (alone → (scene.set carrier key value).1 = false)) ∧
      (((Operation.delete key).sendings carrier scene = [] ↔ alone) ∧
        (alone → (scene.delete carrier key).1 = false)) ∧
      ((scene.node.store.get scene.clock (Ident.digest key).octets).1 = none →
        ((Operation.get key).sendings carrier scene = [] ↔ alone ∨ settings.parallelism = 0) ∧
          (alone ∨ settings.parallelism = 0 → (scene.get carrier key).1 = none)) := by
  intro alone
  have linked : scene.node.Linked settings := (undergoes_linked undergoes
    ⟨Node.start_linked settings id endpoint store now, trivial⟩).node
  have gathers : scene.node.canGather scene.node.width = true := by
    rw [Node.canGather, linked.room, linked.width]
    exact room
  have nowhere : scene.node.neighbours (Ident.digest key) scene.node.width = [] ↔ alone :=
    Node.neighbours_nil_iff linked wide gathers (Ident.digest key)
  rw [← nowhere]
  exact ⟨set_gives_up_iff linked key value, set_gives_up_iff linked key [],
    get_gives_up_iff linked key⟩

/-- A fresh node that nothing has happened to. -/
def fresh (settings : Settings) : Scene Unit :=
  ⟨Node.start settings (Ident.ofNat 5) (.v4 0x7F000001 5) (.expiring (Expiring.empty 10)) 0, 0, ()⟩

/-- The node has been pinged by another. -/
def pinged (settings : Settings) (id : Ident) : Scene Unit :=
  ((fresh settings).receive (.v4 0x7F000001 6) ⟨1, ⟨id, none⟩, .ping⟩).2

/-- Nothing is ever answered. -/
def mute : Carrier Unit :=
  fun scene _ _ => (.error (.transport "no answer"), scene)

/-- Beside a contact named otherwise than the key, writes and reads make requests. -/
theorem neighbour_is_asked :
    let scene := pinged Settings.default (Ident.digest "j")
    0 < Settings.default.width ∧
      (fresh Settings.default).node.canGather Settings.default.width = true ∧
      Undergoes (fresh Settings.default) scene ∧
      (Operation.set "k" [7]).sendings mute scene ≠ [] ∧
      (Operation.delete "k").sendings mute scene ≠ [] ∧
      (Operation.get "k").sendings mute scene ≠ [] := by
  intro scene
  have undergoes : Undergoes (fresh Settings.default) scene := .asked _ _ (.still _)
  have wide : 0 < Settings.default.width := by decide
  have room : (fresh Settings.default).node.canGather Settings.default.width = true := rfl
  obtain ⟨⟨writes, _⟩, ⟨deletes, _⟩, reads⟩ := no_route_iff Settings.default wide (Ident.ofNat 5)
    (.v4 0x7F000001 5) (.expiring (Expiring.empty 10)) 0 0 () room undergoes mute "k" [7]
  have known : ¬∀ contact ∈ scene.node.table.live, contact.id = Ident.digest "k" := by
    decide +kernel
  have probes : Settings.default.parallelism ≠ 0 := by decide
  exact ⟨wide, room, undergoes, mt writes.mp known, mt deletes.mp known,
    mt (reads (by decide +kernel)).1.mp (not_or.mpr ⟨known, probes⟩)⟩

/-- A node whose only contact is named like the key gives up at once, and so does a node that is
allowed no probes when it reads. -/
theorem namesake_is_not_asked :
    let namesake := pinged Settings.default (Ident.digest "k")
    let curbed := { Settings.default with parallelism := 0 }
    let scene := pinged curbed (Ident.digest "j")
    (0 < Settings.default.width ∧ Undergoes (fresh Settings.default) namesake ∧
        namesake.node.table.live ≠ [] ∧
        (namesake.node.store.get namesake.clock (Ident.digest "k").octets).1 = none ∧
        (Operation.set "k" [7]).sendings mute namesake = [] ∧
        (Operation.delete "k").sendings mute namesake = [] ∧
        (Operation.get "k").sendings mute namesake = []) ∧
      0 < curbed.width ∧ Undergoes (fresh curbed) scene ∧ scene.node.table.live ≠ [] ∧
        (scene.node.store.get scene.clock (Ident.digest "k").octets).1 = none ∧
        (Operation.get "k").sendings mute scene = [] := by
  intro namesake curbed scene
  have alone : namesake.node.table.live ≠ [] ∧
      (namesake.node.store.get namesake.clock (Ident.digest "k").octets).1 = none ∧
      ((Operation.set "k" [7]).sendings mute namesake).isEmpty = true ∧
      ((Operation.delete "k").sendings mute namesake).isEmpty = true ∧
      ((Operation.get "k").sendings mute namesake).isEmpty = true := by
    decide +kernel
  have idle : scene.node.table.live ≠ [] ∧
      (scene.node.store.get scene.clock (Ident.digest "k").octets).1 = none ∧
      ((Operation.get "k").sendings mute scene).isEmpty = true := by
    decide +kernel
  simp only [List.isEmpty_iff] at alone idle
  exact ⟨⟨by decide, .asked _ _ (.still _), alone⟩, by decide, .asked _ _ (.still _), idle⟩

end Scene
end XorOverlay
