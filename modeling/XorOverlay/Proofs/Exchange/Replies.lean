import Mathlib
import XorOverlay.Exchange.Live
import XorOverlay.Proofs.Node.Presentable
import XorOverlay.Proofs.Node.Upkeep
import XorOverlay.Proofs.Wire.Carried

/-!
Replies over the wire, whatever a node has been through. What happens to a node is told as a relation
between scenes: packets come from IPv4 endpoints, time passes, and operations run, or run until one of
their requests is sent; and while a request is under way anything of this may happen again, other
operations included. A node that starts out with no contacts stays presentable through all of it, so
each packet that is a request is answered by exactly one packet of the matching type, unless contacts
have to be gathered for it and there is no room for them; and any other packet is passed over.
-/

namespace XorOverlay

set_option autoImplicit false

/-- Goes by a carrier, and takes down the scenes in which requests are sent. -/
def Carrier.traced {ε : Type} (carrier : Carrier ε) : Carrier (ε × List (Scene ε)) :=
    fun scene dest request =>
  let sending : Scene ε := ⟨scene.node, scene.clock, scene.outside.1⟩
  let (answer, later) := carrier sending dest request
  (answer, ⟨later.node, later.clock, (later.outside, sending :: scene.outside.2)⟩)

/-- What a node does for its user, or of its own accord. -/
inductive Operation where
  | bootstrap (seeds : List Endpoint)
  | get (key : String)
  | set (key : String) (value : Octets)
  | delete (key : String)
  | refresh (draw : Nat → Nat)
  | errand

namespace Operation

variable {ε : Type}

def run (carrier : Carrier ε) (scene : Scene ε) : Operation → Scene ε
  | .bootstrap seeds => (scene.bootstrap carrier seeds).2
  | .get key => (scene.get carrier key).2
  | .set key value => (scene.set carrier key value).2
  | .delete key => (scene.delete carrier key).2
  | .refresh draw => scene.refresh carrier draw
  | .errand => scene.runErrand carrier

/-- All seeds are IPv4 endpoints. -/
def Plain : Operation → Prop
  | .bootstrap seeds => ∀ endpoint ∈ seeds, ∃ host port, endpoint = .v4 host port
  | _ => True

/-- The scenes in which an operation sends its requests. -/
def sendings (carrier : Carrier ε) (scene : Scene ε) (operation : Operation) : List (Scene ε) :=
  (operation.run carrier.traced ⟨scene.node, scene.clock, (scene.outside, [])⟩).outside.2

/-- A scene that an operation comes to: one in which it sends a request, or the last. -/
def Stage (carrier : Carrier ε) (scene stage : Scene ε) (operation : Operation) : Prop :=
  stage = operation.run carrier scene ∨ stage ∈ operation.sendings carrier scene

end Operation

namespace Datagram

/-- A datagram does no more to a scene than a request does to the node. -/
theorem answer_moves {ε : Type} (source : Endpoint) (packet : Octets) (scene : Scene ε) :
    (answer source packet scene).2 = scene ∨ ∃ request, (answer source packet scene).2 =
      { scene with node := (scene.node.handle scene.clock source request).2 } := by
  unfold answer
  split
  · next request _ =>
      refine Or.imp_right (fun handled => ⟨request, handled⟩) ?_
      unfold Scene.receive
      split_ifs
      · right
        dsimp only
        split
        · next received => exact (congrArg Prod.snd received).symm
        · next received => exact (congrArg Prod.snd received).symm
      · exact Or.inl rfl
  · exact Or.inl rfl

end Datagram

namespace Scene

variable {ε : Type}

/-- Every response a carrier comes back with was read from a packet. -/
def Decodes (carrier : Carrier ε) : Prop :=
  ∀ scene dest request response, (carrier scene dest request).1 = .ok response →
    ∃ packet, Wire.decode packet = .ok (.response response)

/-- What a node may go through, in surroundings of which something is taken for granted. -/
inductive Lives (fit : ε → Prop) : Scene ε → Scene ε → Prop where
  | still (scene : Scene ε) : Lives fit scene scene
  /-- A packet comes from an IPv4 endpoint. -/
  | packet {first second : Scene ε} (host : UInt32) (port : UInt16) (packet : Octets) :
      Lives fit first second →
      Lives fit first (Datagram.answer (.v4 host port) packet second).2
  /-- Time passes, and the surroundings change. -/
  | elapse {first second : Scene ε} (clock : Nanoseconds) (outside : ε) : fit outside →
      Lives fit first second → Lives fit first ⟨second.node, clock, outside⟩
  /-- An operation runs, to its end or until it sends a request; what happens while its requests are
  under way is of the same kind. -/
  | operate {first second stage : Scene ε} (operation : Operation) (carrier : Carrier ε) :
      operation.Plain → Decodes carrier →
      (∀ scene dest request, fit scene.outside →
        Lives fit scene (carrier scene dest request).2) →
      operation.Stage carrier second stage →
      Lives fit first second → Lives fit first stage
  | kill {first second : Scene ε} : Lives fit first second →
      Lives fit first (second.mapNode Node.kill)

variable {fit : ε → Prop} {roomy : Bool} {carrier : Carrier ε} {first second scene : Scene ε}

/-- A presentable node in fit surroundings, with room for its contacts or without. -/
structure Keeps (fit : ε → Prop) (roomy : Bool) (scene : Scene ε) : Prop where
  node : scene.node.Presentable
  room : scene.node.canGather scene.node.width = roomy
  outside : fit scene.outside

theorem Keeps.welcome (keeps : scene.Keeps fit roomy) {now : Nanoseconds} {peer : Contact}
    (writable : peer.Writable) {welcomed : Node}
    (taken : scene.node.welcome? now peer = some welcomed) :
    Keeps fit roomy { scene with node := welcomed } where
  node := Node.welcome_presentable keeps.node writable taken
  room := (Node.welcome_spares taken).2.trans keeps.room
  outside := keeps.outside

theorem Keeps.answer (keeps : scene.Keeps fit roomy) (host : UInt32) (port : UInt16)
    (packet : Octets) : (Datagram.answer (.v4 host port) packet scene).2.Keeps fit roomy := by
  rcases Datagram.answer_moves (.v4 host port) packet scene with still | ⟨request, moved⟩
  · rw [still]
    exact keeps
  · rw [moved]
    exact ⟨Node.handle_presentable keeps.node scene.clock host port request,
      (Node.handle_room scene.clock (.v4 host port) request).trans keeps.room, keeps.outside⟩

/-- A call to a contact that can be written only brings contacts that can be. -/
theorem Keeps.call (keeps : scene.Keeps fit roomy) (decodes : Decodes carrier)
    (carries : ∀ scene dest request, Keeps fit roomy scene →
      Keeps fit roomy (carrier scene dest request).2)
    {dest : Contact} (writable : dest.Writable) (query : Query) :
    (scene.call carrier dest query).2.Keeps fit roomy ∧
      ∀ reply, (scene.call carrier dest query).1 = .answered reply →
        ∀ contact ∈ named reply, contact.Writable := by
  obtain ⟨host, port, found⟩ := writable
  let tag := scene.node.lastTag + 1
  let sending := scene.mapNode fun node => { node with lastTag := tag }
  have sent : sending.Keeps fit roomy := ⟨{ keeps.node with }, keeps.room, keeps.outside⟩
  have carried := carries sending (.v4 host port) ⟨tag, scene.node.contact, query⟩ sent
  have decoded := decodes sending (.v4 host port) ⟨tag, scene.node.contact, query⟩
  unfold Scene.call
  rw [found]
  dsimp only
  generalize carrier sending (.v4 host port) ⟨tag, scene.node.contact, query⟩ = result
    at carried decoded ⊢
  obtain ⟨failure | response, later⟩ := result
  · refine ⟨⟨Node.forget_presentable carried.node dest.id, carried.room, carried.outside⟩, ?_⟩
    intro reply answered
    cases answered
  · obtain ⟨packet, read⟩ := decoded response rfl
    have told := Wire.decode_writable read
    dsimp only
    split
    · next node taken =>
        refine ⟨carried.welcome ?_ taken, ?_⟩
        -- A pong is taken for an answer of the endpoint asked, any other for one of the contact.
        · split
          · exact ⟨host, port, rfl⟩
          · exact ⟨host, port, found⟩
        · intro reply answered
          obtain rfl := Called.answered.inj answered
          exact told
    · refine ⟨carried, ?_⟩
      intro reply answered
      cases answered

theorem keeps_upkeep (decodes : Decodes carrier)
    (carries : ∀ scene dest request, Keeps fit roomy scene →
      Keeps fit roomy (carrier scene dest request).2) :
    Upkeep carrier (Keeps fit roomy) Contact.Writable Contact.Writable (fun _ => True) where
  call := by
    intro scene dest query keeps met _
    have writable : dest.Writable := met.elim id And.left
    obtain ⟨after, told⟩ := keeps.call decodes carries writable query
    refine ⟨after, fun reply answered => ⟨told reply answered, fun _ _ => trivial, ?_⟩⟩
    intro id _
    exact writable
  near := fun _ target count keeps => Node.near_writable keeps.node target count
  read := fun _ _ keeps => ⟨{ keeps.node with }, keeps.room, keeps.outside⟩
  keep := fun _ _ _ _ keeps _ _ => ⟨{ keeps.node with }, keeps.room, keeps.outside⟩
  report := fun _ _ _ _ keeps => ⟨{ keeps.node with }, keeps.room, keeps.outside⟩
  cull := fun _ _ keeps => ⟨{ keeps.node with }, keeps.room, keeps.outside⟩
  repair := by
    intro scene peer key value keeps writable _ _
    refine ⟨⟨keeps.node.table, keeps.node.known, ?_⟩, keeps.room, keeps.outside⟩
    intro errand due
    rcases List.mem_append.mp due with old | new
    · exact keeps.node.errands errand old
    · rw [List.mem_singleton.mp new]
      exact writable
  errand := by
    intro scene errand rest keeps due
    have writable := keeps.node.errands
    rw [due, List.forall_mem_cons] at writable
    exact ⟨writable.1, trivial, trivial,
      ⟨keeps.node.table, keeps.node.known, writable.2⟩, keeps.room, keeps.outside⟩
  listed := fun _ _ _ _ _ => trivial
  names := fun _ => trivial

theorem Keeps.operate (keeps : scene.Keeps fit roomy) {operation : Operation}
    (plain : operation.Plain) (decodes : Decodes carrier)
    (carries : ∀ scene dest request, Keeps fit roomy scene →
      Keeps fit roomy (carrier scene dest request).2) :
    (operation.run carrier scene).Keeps fit roomy := by
  have upkeep := keeps_upkeep decodes carries
  cases operation with
  | bootstrap seeds =>
      refine upkeep.bootstrap keeps ?_
      intro endpoint given
      obtain ⟨host, port, rfl⟩ := plain endpoint given
      exact ⟨host, port, rfl⟩
  | get key => exact upkeep.get keeps key
  | set key value => exact upkeep.set keeps key trivial
  | delete key => exact upkeep.set keeps key trivial
  | refresh draw => exact upkeep.refresh keeps draw
  | errand => exact upkeep.runErrand keeps

/-- The scenes taken down are a part of the surroundings, and what an operation keeps it keeps of
them too. -/
theorem Keeps.sendings (keeps : scene.Keeps fit roomy) {operation : Operation}
    (plain : operation.Plain) (decodes : Decodes carrier)
    (carries : ∀ scene dest request, Keeps fit roomy scene →
      Keeps fit roomy (carrier scene dest request).2) :
    ∀ sending ∈ operation.sendings carrier scene, sending.Keeps fit roomy := by
  let fitTrace : ε × List (Scene ε) → Prop := fun outside =>
    fit outside.1 ∧ ∀ sending ∈ outside.2, sending.Keeps fit roomy
  have decodesTraced : Decodes (carrier.traced) :=
    fun scene => decodes ⟨scene.node, scene.clock, scene.outside.1⟩
  have carriesTraced : ∀ scene dest request, Keeps fitTrace roomy scene →
      Keeps fitTrace roomy (carrier.traced scene dest request).2 := by
    intro scene dest request keeps
    have sent : Keeps fit roomy ⟨scene.node, scene.clock, scene.outside.1⟩ :=
      ⟨keeps.node, keeps.room, keeps.outside.1⟩
    obtain ⟨node, room, outside⟩ := carries _ dest request sent
    exact ⟨node, room, outside, List.forall_mem_cons.mpr ⟨sent, keeps.outside.2⟩⟩
  have start : Keeps fitTrace roomy ⟨scene.node, scene.clock, (scene.outside, [])⟩ :=
    ⟨keeps.node, keeps.room, keeps.outside, fun _ none => (List.not_mem_nil none).elim⟩
  exact (start.operate plain decodesTraced carriesTraced).outside.2

/-- Whatever a node goes through, it stays presentable. The induction is on what it goes through,
and within an operation on what happens while its requests are under way. -/
theorem lives_keeps (lives : Lives fit first second) (keeps : first.Keeps fit roomy) :
    second.Keeps fit roomy := by
  induction lives with
  | still scene => exact keeps
  | packet host port packet _ ih => exact (ih keeps).answer host port packet
  | elapse clock outside fits _ ih => exact ⟨(ih keeps).node, (ih keeps).room, fits⟩
  | operate operation carrier plain decodes _ stage _ carried ih =>
      have carries := fun scene dest request (keeps : Keeps fit roomy scene) =>
        carried scene dest request keeps.outside keeps
      rcases stage with rfl | sent
      · exact (ih keeps).operate plain decodes carries
      · exact (ih keeps).sendings plain decodes carries _ sent
  | kill _ ih =>
      obtain ⟨node, room, outside⟩ := ih keeps
      exact ⟨{ node with }, room, outside⟩

/-- Every request is answered as long as there is room to gather contacts, or none have to be
gathered for it, and nothing else is. -/
theorem requests_answered (settings : Settings) (id : Ident) (endpoint : Endpoint) (store : Store)
    (now clock : Nanoseconds) (outside : ε) (fits : fit outside)
    (lives : Lives fit ⟨Node.start settings id endpoint store now, clock, outside⟩ scene)
    (active : scene.node.active = true) (host : UInt32) (port : UInt16) (packet : Octets) :
    (∀ request, Wire.decode packet = .ok (.request request) →
      ((Node.start settings id endpoint store now).canGather settings.width = true ∨
          ¬scene.node.Gathers scene.clock request →
        ∃ reply written after,
          scene.receive (.v4 host port) request = (.answered ⟨request.tag, reply⟩, after) ∧
          Datagram.answer (.v4 host port) packet scene = (some written, after) ∧
          Wire.decode written = .ok (.response ⟨request.tag, reply.carried⟩) ∧
          written.head? = packet.head?.map (· + 0x10)) ∧
      ((Node.start settings id endpoint store now).canGather settings.width = false →
        scene.node.Gathers scene.clock request →
          (Datagram.answer (.v4 host port) packet scene).1 = none)) ∧
    ((∀ request, Wire.decode packet ≠ .ok (.request request)) →
      Datagram.answer (.v4 host port) packet scene = (none, scene)) := by
  have keeps := lives_keeps lives
    ⟨Node.start_presentable settings id endpoint store now, rfl, fits⟩
  have room : scene.node.canGather scene.node.width =
      (Node.start settings id endpoint store now).canGather settings.width := keeps.room
  refine ⟨?_, ?_⟩
  · intro request asked
    have handles := Node.handle_is_some_iff scene.node scene.clock (.v4 host port) request
    rw [room] at handles
    constructor
    · intro possible
      obtain ⟨⟨tag, reply⟩, handled⟩ := Option.isSome_iff_exists.mp (handles.mpr possible)
      obtain ⟨rfl, writable, kinds⟩ := Node.handle_writable keeps.node handled
      obtain ⟨written, encoded, read⟩ := Wire.response_arrives ⟨request.tag, reply⟩ writable
      have received : scene.receive (.v4 host port) request = (.answered ⟨request.tag, reply⟩,
          { scene with node := (scene.node.handle scene.clock (.v4 host port) request).2 }) := by
        unfold receive
        rw [if_pos active]
        simp only [handled, encoded]
      refine ⟨reply, written, _, received, ?_, read, ?_⟩
      · simp only [Datagram.answer, asked, received, encoded]
        rfl
      · rw [Wire.encode_kind encoded, Wire.decode_kind asked, Option.map_some]
        exact congrArg some kinds
    · intro cramped gathers
      have dropped : (scene.node.handle scene.clock (.v4 host port) request).1 = none := by
        rw [← Option.isSome_eq_false_iff.trans Option.isNone_iff_eq_none]
        apply Bool.eq_false_of_not_eq_true
        rw [handles, cramped]
        exact not_or.mpr ⟨Bool.false_ne_true, not_not_intro gathers⟩
      simp only [Datagram.answer, asked, receive, if_pos active, dropped]
  · intro other
    unfold Datagram.answer
    split
    · next request asked => exact (other request asked).elim
    · rfl

/-- A node whose lists of contacts are to be longer than memory can be leaves a request for contacts
unanswered, although it knows nobody it could name. -/
theorem oversized_lists_unanswered :
    let settings := { Settings.default with
      width := 2 ^ 61
      room := some Settings.addressableRoom }
    let start : Scene Unit :=
      ⟨Node.start settings ⟨5⟩ (.v4 0x7F000001 5) (.expiring (Expiring.empty 10)) 0, 0, ()⟩
    let packet := Wire.framed 0x03 4
      (Ident.octets ⟨9⟩ ++ [0, 0, 0, 0, 0, 9] ++ Ident.octets ⟨4⟩)
    start.node.active = true ∧
      Wire.decode packet = .ok (.request ⟨4, ⟨⟨9⟩, some (.v4 0 9)⟩, .findNode ⟨4⟩⟩) ∧
      (Datagram.answer (.v4 0x7F000001 9) packet start).1 = none := by
  decide +kernel

end Scene

namespace Live

/-- All that arrives comes from IPv4 endpoints. -/
def Passage.Plain : Passage → Prop
  | .refused _ => True
  | .waited arrivals _ => ∀ arrival ∈ arrivals, ∃ host port, arrival.source = .v4 host port

def Course.Plain (course : Course) : Prop :=
  ∀ passage ∈ course.ahead, passage.Plain

theorem carrier_decodes : Scene.Decodes carrier := by
  intro scene dest request response came
  unfold carrier at came
  split at came
  · cases came
  · cases came
  · cases came
  · cases came
  · next arrivals duration ahead _ _ _ =>
      dsimp only at came
      split at came
      · next found =>
          obtain rfl := Except.ok.inj came
          obtain ⟨arrival, _, brought⟩ := List.exists_of_findSome?_eq_some found
          unfold responseTo? at brought
          split at brought
          · next read =>
              split_ifs at brought
              exact ⟨arrival.packet, Option.some.inj brought ▸ read⟩
          · cases brought
      · cases came

/-- What arrives during a passage is so many packets, and time passing between them. -/
theorem take_in_lives (begun : Nanoseconds) {arrivals : List Arrival}
    {first scene : Scene Course}
    (plain : ∀ arrival ∈ arrivals, ∃ host port, arrival.source = .v4 host port)
    (fits : scene.outside.Plain) (lives : Scene.Lives Course.Plain first scene) :
    Scene.Lives Course.Plain first (takeIn begun arrivals scene) ∧
      (takeIn begun arrivals scene).outside.Plain := by
  induction arrivals generalizing scene with
  | nil => exact ⟨lives, fits⟩
  | cons arrival arrivals ih =>
      rw [List.forall_mem_cons] at plain
      obtain ⟨host, port, source⟩ := plain.1
      have waited := lives.elapse (begun + arrival.after) scene.outside fits
      have heard := waited.packet host port arrival.packet
      rw [takeIn, List.foldl_cons, source]
      refine ih plain.2 ?_ heard
      rcases Datagram.answer_moves (.v4 host port) arrival.packet
        ⟨scene.node, begun + arrival.after, scene.outside⟩ with still | ⟨request, moved⟩
      · rw [still]
        exact fits
      · rw [moved]
        exact fits

/-- A passage is a stretch of a node's life: the node of a running program lives among its peers. -/
theorem carrier_lives (scene : Scene Course) (dest : Endpoint) (request : Request)
    (fits : scene.outside.Plain) :
    Scene.Lives Course.Plain scene (carrier scene dest request).2 := by
  have left : ∀ {passage ahead}, scene.outside.ahead = passage :: ahead →
      (⟨ahead, none⟩ : Course).Plain := by
    intro passage ahead listed later rest
    exact fits later (by rw [listed]; exact List.mem_cons_of_mem _ rest)
  have still : Scene.Lives Course.Plain scene scene := .still scene
  unfold carrier
  split
  · exact still
  · exact still
  · exact still.elapse scene.clock _ fun _ none => (List.not_mem_nil none).elim
  · next listed => exact still.elapse scene.clock _ (left listed)
  · next arrivals duration ahead _ _ listed =>
      have plain := fits (.waited arrivals duration) (by rw [listed]; exact List.mem_cons_self)
      obtain ⟨heard, after⟩ := take_in_lives scene.clock plain (left listed)
        (still.elapse scene.clock ⟨ahead, none⟩ (left listed))
      exact heard.elapse (scene.clock + duration) _ after

/-- A node joins through one peer, is pinged meanwhile by another, and names both when it is asked. -/
theorem joined_node_answers :
    let socket (port : UInt16) : Endpoint := .v4 0x7F000001 port
    let passages : List Passage :=
      [.waited [⟨1, socket 6, Wire.framed 0x11 1 (Ident.octets ⟨6⟩)⟩] 2,
        .waited [⟨1, socket 7, Wire.framed 0x01 1 (Ident.octets ⟨7⟩ ++ [0, 0, 0, 0, 0, 7])⟩,
          ⟨2, socket 6, Wire.framed 0x13 2
            ([0, 0, 0, 1] ++ Ident.octets ⟨8⟩ ++ [127, 0, 0, 1, 0, 8])⟩] 3,
        .refused "Network is unreachable"]
    let start : Scene Course :=
      ⟨Node.start Settings.default ⟨5⟩ (socket 5) (.expiring (Expiring.empty 10)) 0, 0,
        ⟨passages, none⟩⟩
    let joined := (Operation.bootstrap [socket 6]).run carrier start
    let packet := Wire.framed 0x03 4
      (Ident.octets ⟨9⟩ ++ [0, 0, 0, 0, 0, 9] ++ Ident.octets ⟨4⟩)
    start.outside.Plain ∧ Scene.Lives Course.Plain start joined ∧ joined.node.active = true ∧
      start.node.canGather Settings.default.width = true ∧
      ∃ written after, Datagram.answer (socket 9) packet joined = (some written, after) ∧
        Wire.decode written =
          .ok (.response ⟨4, .nodes [⟨⟨6⟩, some (socket 6)⟩, ⟨⟨7⟩, some (socket 7)⟩]⟩) ∧
        written.head? = some 0x13 := by
  intro socket passages start joined packet
  have plain : start.outside.Plain := by
    simp [start, passages, Course.Plain, Passage.Plain, socket]
  have lives : Scene.Lives Course.Plain start joined :=
    (Scene.Lives.still start).operate (.bootstrap [socket 6]) carrier
      (fun endpoint given => ⟨_, _, List.mem_singleton.mp given⟩) carrier_decodes
      (fun scene dest request fits => carrier_lives scene dest request fits) (Or.inl rfl)
  have active : joined.node.active = true := by decide +kernel
  have asks : Wire.decode packet = .ok (.request ⟨4, ⟨⟨9⟩, some (.v4 0 9)⟩, .findNode ⟨4⟩⟩) := by
    decide +kernel
  obtain ⟨answers, _⟩ := Scene.requests_answered Settings.default ⟨5⟩ (socket 5)
    (.expiring (Expiring.empty 10)) 0 0 ⟨passages, none⟩ plain lives active 0x7F000001 9 packet
  obtain ⟨reply, written, after, received, answered, read, kinds⟩ := (answers _ asks).1 (.inl rfl)
  have computed : (joined.receive (socket 9) ⟨4, ⟨⟨9⟩, some (.v4 0 9)⟩, .findNode ⟨4⟩⟩).1 =
      .answered ⟨4, .nodes [⟨⟨6⟩, some (socket 6)⟩, ⟨⟨7⟩, some (socket 7)⟩]⟩ := by
    decide +kernel
  rw [received] at computed
  obtain rfl := congrArg Response.reply (Reception.answered.inj computed)
  exact ⟨plain, lives, active, rfl, written, after, answered, read, kinds⟩

end Live
end XorOverlay
