import Mathlib
import XorOverlay.Proofs.Exchange.Running

/-!
Which line a packet to an endpoint finds. It is the one that was bound there last, if that has not been
closed or dropped since and the endpoint has not been disconnected since, whatever else has happened;
closing or dropping any other line, one bound there before it included, makes no difference. A packet
that has found its line arrives there and nowhere else, and a call whose request found none ends
without being waited for.
-/

namespace XorOverlay

set_option autoImplicit false

namespace Hub

variable {H : Type}

/-- Packets to the endpoint cannot find the line any more, or another one instead. -/
def Event.severs (endpoint : Endpoint) (line : Nat) : Event H → Prop
  | .bind _ other => other = endpoint
  | .close other => other = line
  | .drop other => other = line
  | .disconnect other => other = endpoint
  | _ => False

/-- The line was bound to the endpoint, and nothing has come between them since. -/
def Reaches (history : List (Event H)) (endpoint : Endpoint) (line : Nat) : Prop :=
  ∃ earlier later, history = earlier ++ .bind line endpoint :: later ∧
    ∀ event ∈ later, ¬ event.severs endpoint line

/-- What a step does to the bindings, whoever takes it. -/
def Event.rebind : Event H → Network → Network
  | .bind _ endpoint, network => (network.bind endpoint).2
  | .close line, network => network.release line
  | .drop line, network => network.release line
  | .disconnect endpoint, network => network.disconnect endpoint
  | _, network => network

theorem reaches_concat (history : List (Event H)) (event : Event H) (endpoint : Endpoint)
    (line : Nat) :
    Reaches (history ++ [event]) endpoint line ↔
      event = .bind line endpoint ∨
        Reaches history endpoint line ∧ ¬ event.severs endpoint line := by
  constructor
  · rintro ⟨earlier, later, split, quiet⟩
    rcases List.eq_nil_or_concat later with rfl | ⟨between, last, rfl⟩
    · exact Or.inl (List.singleton_inj.mp (List.append_inj' split rfl).2)
    · rw [List.concat_eq_append] at split quiet
      rw [← List.cons_append, ← List.append_assoc] at split
      obtain ⟨rfl, same⟩ := List.append_inj' split rfl
      obtain rfl := List.singleton_inj.mp same
      exact Or.inr ⟨⟨earlier, between, rfl,
        fun event between => quiet event (List.mem_append_left _ between)⟩,
        quiet _ (List.mem_append_right _ (List.mem_singleton_self _))⟩
  · rintro (rfl | ⟨⟨earlier, later, rfl, quiet⟩, spared⟩)
    · exact ⟨history, [], rfl, nofun⟩
    · refine ⟨earlier, later ++ [event], by simp, ?_⟩
      intro other between
      rcases List.mem_append.mp between with before | last
      · exact quiet other before
      · exact List.mem_singleton.mp last ▸ spared

variable {hub next : Hub H} {event : Event H} {history : List (Event H)}

theorem frame_of_post {origin : Nat} {source dest : Endpoint} {message : Message}
    {posted : Hub H} (sent : hub.post origin source message dest = .ok posted) :
    posted.network = hub.network ∧ hub.flights ⊆ posted.flights := by
  obtain ⟨packet, line, _, _, rfl⟩ := post_ok_iff.mp sent
  exact ⟨rfl, List.subset_cons_self _ _⟩

theorem frame_of_dispatch (line : Nat) (source : Endpoint) (caller : Caller) (call : Call)
    (hub : Hub H) :
    (hub.dispatch line source caller call).network = hub.network ∧
      hub.flights ⊆ (hub.dispatch line source caller call).flights := by
  rw [dispatch]
  cases sent : hub.post line source (.request call.request) call.dest with
  | error failure => exact ⟨rfl, List.Subset.refl _⟩
  | ok posted =>
      show posted.network = hub.network ∧ hub.flights ⊆ posted.flights
      exact frame_of_post sent

theorem frame_of_receive (flight : Flight) (hub : Hub H) :
    (hub.receive flight).network.bindings = hub.network.bindings ∧
      (hub.receive flight).flights = hub.flights := by
  rw [receive]
  cases Wire.decode flight.packet with
  | error reason => exact ⟨rfl, rfl⟩
  | ok message =>
      cases message with
      | request request => exact ⟨rfl, rfl⟩
      | response response => exact ⟨rfl, rfl⟩

/-- A step changes the bindings as it says, and what has found its line stays on its way until it
arrives. -/
theorem frame_step (stepped : hub.step event = some next) :
    next.network.bindings = (event.rebind hub.network).bindings ∧
      ∀ flight ∈ hub.flights, event ≠ .arrive flight → flight ∈ next.flights := by
  cases event with
  | bind line endpoint =>
      rw [step] at stepped
      split_ifs at stepped
      obtain rfl := Option.some.inj stepped
      exact ⟨rfl, fun _ aloft _ => aloft⟩
  | close line =>
      obtain ⟨held, _, rfl⟩ := Option.map_eq_some_iff.mp stepped
      exact ⟨rfl, fun _ aloft _ => aloft⟩
  | drop line =>
      obtain ⟨held, _, left⟩ := Option.bind_eq_some_iff.mp stepped
      split_ifs at left
      obtain rfl := Option.some.inj left
      exact ⟨rfl, fun _ aloft _ => aloft⟩
  | disconnect endpoint =>
      obtain rfl := Option.some.inj stepped
      exact ⟨rfl, fun _ aloft _ => aloft⟩
  | handle line handler =>
      obtain ⟨held, _, rfl⟩ := Option.map_eq_some_iff.mp stepped
      exact ⟨rfl, fun _ aloft _ => aloft⟩
  | call line caller request dest =>
      obtain ⟨held, stands, called⟩ := Option.bind_eq_some_iff.mp stepped
      split_ifs at called
      obtain rfl := Option.some.inj called
      refine ⟨?_, fun _ aloft _ => aloft⟩
      rw [Network.register, (live_iff.mp stands).2]
      rfl
  | dispatch line caller =>
      obtain ⟨held, _, asked⟩ := Option.bind_eq_some_iff.mp stepped
      obtain ⟨call, _, sent⟩ := Option.bind_eq_some_iff.mp asked
      split at sent
      · obtain rfl := Option.some.inj sent
        obtain ⟨network, flights⟩ := frame_of_dispatch line held.endpoint caller call hub
        exact ⟨congrArg Network.bindings network, fun _ aloft _ => flights aloft⟩
      · cases sent
  | conclude line caller =>
      obtain ⟨held, _, asked⟩ := Option.bind_eq_some_iff.mp stepped
      obtain ⟨call, _, ended⟩ := Option.bind_eq_some_iff.mp asked
      split at ended
      · obtain rfl := Option.some.inj ended
        exact ⟨rfl, fun _ aloft _ => aloft⟩
      · obtain rfl := Option.some.inj ended
        exact ⟨rfl, fun _ aloft _ => aloft⟩
      · cases ended
  | respond line response dest =>
      obtain ⟨held, _, rfl⟩ := Option.map_eq_some_iff.mp stepped
      cases sent : hub.post line held.endpoint (.response response) dest with
      | error failure => exact ⟨rfl, fun _ aloft _ => aloft⟩
      | ok posted =>
          obtain ⟨network, flights⟩ := frame_of_post sent
          exact ⟨congrArg Network.bindings network, fun _ aloft _ => flights aloft⟩
  | arrive flight =>
      rw [step] at stepped
      split_ifs at stepped
      obtain rfl := Option.some.inj stepped
      obtain ⟨bindings, flights⟩ :=
        frame_of_receive flight { hub with flights := hub.flights.erase flight }
      refine ⟨bindings, fun other aloft before => ?_⟩
      rw [flights]
      exact (List.mem_erase_of_ne fun same => before (congrArg Event.arrive same.symm)).mpr aloft

theorem route_release {network : Network} (distinct : (network.bindings.map Prod.fst).Nodup)
    (closed : Nat) (endpoint : Endpoint) (line : Nat) :
    (network.release closed).route endpoint = some line ↔
      network.route endpoint = some line ∧ closed ≠ line := by
  have fewer : ((network.release closed).bindings.map Prod.fst).Nodup :=
    distinct.sublist (List.filter_sublist.map Prod.fst)
  rw [Network.route, Network.route, lookup_iff_mem fewer, lookup_iff_mem distinct,
    Network.release, List.mem_filter, bne_iff_ne, ne_comm]

/-- Closing a line takes its endpoint off the network, unless another line has taken it over. -/
theorem release_eq (sound : hub.Sound) {line : Nat} {endpoint : Endpoint}
    (home : hub.home? line = some endpoint) :
    hub.network.release line =
      if hub.network.route endpoint = some line then hub.network.disconnect endpoint
      else hub.network := by
  have own : ∀ binding ∈ hub.network.bindings, binding.2 = line → binding.1 = endpoint := by
    rintro ⟨other, _⟩ listed rfl
    exact Option.some.inj ((sound.bound other _ listed).symm.trans home)
  split_ifs with leads
  · refine congrArg (Network.mk hub.network.lines) (List.filter_congr fun binding listed => ?_)
    have alone : binding.2 = line ↔ binding.1 = endpoint := by
      refine ⟨own binding listed, ?_⟩
      rintro rfl
      have routed := (lookup_iff_mem sound.distinct binding.1 binding.2).mpr listed
      exact Option.some.inj (routed.symm.trans leads)
    rw [bne, bne, Bool.not_inj_iff, Bool.eq_iff_iff, beq_iff_eq, beq_iff_eq, alone]
  · refine congrArg (Network.mk hub.network.lines) (List.filter_eq_self.mpr fun binding listed => ?_)
    refine bne_iff_ne.mpr fun same => leads ?_
    obtain rfl := own binding listed same
    exact same ▸ (lookup_iff_mem sound.distinct binding.1 binding.2).mpr listed

theorem route_disconnect (network : Network) (other endpoint : Endpoint) :
    (network.disconnect other).route endpoint =
      if endpoint = other then none else network.route endpoint :=
  lookup_without other endpoint network.bindings

/-- An endpoint leads to a line after a step if the line has just been bound there, or if it led there
before and nothing has come between them. -/
theorem route_step (sound : hub.Sound) (stepped : hub.step event = some next)
    (endpoint : Endpoint) (line : Nat) :
    next.network.route endpoint = some line ↔
      event = .bind line endpoint ∨
        hub.network.route endpoint = some line ∧ ¬ event.severs endpoint line := by
  have bindings := (frame_step stepped).1
  rw [Network.route, bindings, ← Network.route]
  cases event with
  | bind new other =>
      rw [step] at stepped
      split_ifs at stepped with last
      rw [Event.rebind, Network.route_bind, ← last]
      by_cases here : endpoint = other
      · simp [here, Event.severs]
      · simp [here, Ne.symm here, Event.severs]
  | close closed => simp [Event.rebind, Event.severs, route_release sound.distinct]
  | drop dropped => simp [Event.rebind, Event.severs, route_release sound.distinct]
  | disconnect other =>
      rw [Event.rebind, route_disconnect]
      by_cases here : endpoint = other
      · simp [here, Event.severs]
      · simp [here, Ne.symm here, Event.severs]
  | _ => simp [Event.rebind, Event.severs]

/-- An endpoint leads to the line that was bound there last, as long as nothing has come between
them. -/
theorem route_iff_reaches (ran : empty.after history = some hub) (endpoint : Endpoint)
    (line : Nat) : hub.network.route endpoint = some line ↔ Reaches history endpoint line := by
  revert line
  refine run_induction ran ?_ ?_
  · refine fun line => iff_of_false nofun ?_
    rintro ⟨earlier, later, split, _⟩
    simp at split
  · intro history before event next past stepped ih line
    rw [route_step (after_sound empty_sound past) stepped, ih, reaches_concat]

theorem deliver_congr {first second : Network} {dest : Endpoint}
    (same : first.route dest = second.route dest) (message : Message) :
    first.deliver message dest = second.deliver message dest := by
  rw [Network.deliver, Network.deliver, same]

/-- What arrives at a line changes no other. -/
theorem receive_elsewhere (flight : Flight) (hub : Hub H) {other : Nat}
    (apart : other ≠ flight.line) :
    (hub.receive flight).network.lines[other]? = hub.network.lines[other]? ∧
      (hub.receive flight).parties other = hub.parties other := by
  rw [receive]
  cases Wire.decode flight.packet with
  | error reason => exact ⟨rfl, rfl⟩
  | ok message =>
      cases message with
      | request request => exact ⟨rfl, Function.update_of_ne apart ..⟩
      | response response =>
          refine ⟨?_, rfl⟩
          show (hub.network.lines.modify flight.line _)[other]? = _
          exact List.getElem?_modify_ne _ _ (Ne.symm apart)

/-- A message can be written, and its destination leads to a line. -/
def Deliverable (history : List (Event H)) (message : Message) (dest : Endpoint) : Prop :=
  (∃ packet, Wire.encode message = .ok packet) ∧ ∃ line, Reaches history dest line

/-- What becomes of messages after a history. -/
structure Reachability (history : List (Event H)) (hub : Hub H) : Prop where
  /-- A message is delivered if it can be written and its destination leads to a line, and only then;
  it is on its way to that line, and nothing else has changed. -/
  delivers : ∀ origin source message dest posted,
    hub.post origin source message dest = .ok posted ↔
      ∃ packet line, Wire.encode message = .ok packet ∧ Reaches history dest line ∧
        posted = { hub with flights := ⟨origin, source, line, packet⟩ :: hub.flights }
  /-- So is the request of a call, which is refused otherwise. -/
  sends : ∀ line caller call next, (hub.parties line).calls caller = some call →
    call.stage = .registered → hub.step (.dispatch line caller) = some next →
      (∃ source packet receiver, hub.home? line = some source ∧
        Wire.encode (.request call.request) = .ok packet ∧ Reaches history call.dest receiver ∧
        next.flights = ⟨line, source, receiver, packet⟩ :: hub.flights ∧
        (next.parties line).calls caller = some { call with stage := .sent }) ∨
      ¬ Deliverable history (.request call.request) call.dest ∧ next.flights = hub.flights ∧
        ∃ failure, (next.parties line).calls caller = some { call with stage := .refused failure }
  /-- So is a response, which is lost otherwise. -/
  responds : ∀ line response dest next, hub.step (.respond line response dest) = some next →
    (∃ source packet receiver, hub.home? line = some source ∧
      Wire.encode (.response response) = .ok packet ∧ Reaches history dest receiver ∧
      next = { hub with flights := ⟨line, source, receiver, packet⟩ :: hub.flights }) ∨
    ¬ Deliverable history (.response response) dest ∧ next = hub
  /-- What is on its way stays so until it arrives, -/
  stays : ∀ event next flight, hub.step event = some next → flight ∈ hub.flights →
    event ≠ .arrive flight → flight ∈ next.flights
  /-- and can arrive at any time, at the line it has found and at no other: a response at the caller
  that waits for it there, a request at the handler. -/
  lands : ∀ flight ∈ hub.flights, ∃ held next, hub.live? flight.line = some held ∧
    hub.step (.arrive flight) = some next ∧
    next.network.bindings = hub.network.bindings ∧
    (∀ other, other ≠ flight.line →
      next.network.lines[other]? = hub.network.lines[other]? ∧
        next.parties other = hub.parties other) ∧
    (∀ response, Wire.decode flight.packet = .ok (.response response) →
      next.network.lines[flight.line]? =
        some ⟨held.endpoint, (held.pending.complete response).2⟩) ∧
    ∀ request handler, Wire.decode flight.packet = .ok (.request request) →
      (hub.parties flight.line).handler = some handler →
        (next.parties flight.line).served =
          (handler, request, flight.source) :: (hub.parties flight.line).served
  /-- A line that an endpoint does not lead to, such as one that was bound there earlier, can be
  closed and dropped without any message to the endpoint faring differently. -/
  spares : ∀ endpoint line other next, Reaches history endpoint line → other ≠ line →
    hub.step (.close other) = some next ∨ hub.step (.drop other) = some next →
      ∀ message, next.network.deliver message endpoint = hub.network.deliver message endpoint
  /-- To close a line is to take its endpoint off the network, unless another line has taken it over. -/
  releases : ∀ line endpoint, hub.home? line = some endpoint → hub.network.release line =
    if hub.network.route endpoint = some line then hub.network.disconnect endpoint else hub.network
  /-- A call that was refused ends with the failure. Nobody is listed under its tag then, and its caller
  has no entry. -/
  forgets : ∀ line caller call failure, (hub.parties line).calls caller = some call →
    call.stage = .refused failure →
      ∃ next held, hub.step (.conclude line caller) = some next ∧
        (next.parties line).calls caller = some { call with stage := .ended (.error failure) } ∧
        next.network.lines[line]? = some held ∧
        (∀ slot ∈ held.pending.slots, slot.1 ≠ call.request.tag ∧ slot.2 ≠ caller) ∧
        caller ∉ held.pending.mail.map Prod.fst
  /-- Whoever is listed at a line has a call under way there, under that tag. -/
  waits : ∀ line held, hub.network.lines[line]? = some held →
    ∀ tag caller, (tag, caller) ∈ held.pending.slots →
      ∃ call, (hub.parties line).calls caller = some call ∧ call.request.tag = tag ∧
        call.stage.underWay
  /-- To send a request and to wait for its response, with nothing else in between, is a run, in which a
  call ends with what the sending comes to. -/
  composes : ∀ (γ : Type) (serve : Network.Serve γ) (server : γ) line held request dest,
    hub.live? line = some held →
      ∃ next, hub.Runs next ∧ next.flights = hub.flights ∧
        next.network = (hub.network.send serve line request dest server).2.1 ∧
        (next.parties line).calls held.pending.next =
          some ⟨request, dest, .ended (hub.network.send serve line request dest server).1⟩

theorem post_outcome (ran : empty.after history = some hub) (origin : Nat) (source dest : Endpoint)
    (message : Message) :
    (∃ packet line, Wire.encode message = .ok packet ∧ Reaches history dest line ∧
      hub.post origin source message dest =
        .ok { hub with flights := ⟨origin, source, line, packet⟩ :: hub.flights }) ∨
    ¬ Deliverable history message dest ∧
      ∃ failure, hub.post origin source message dest = .error failure := by
  cases sent : hub.post origin source message dest with
  | error failure =>
      refine Or.inr ⟨?_, failure, rfl⟩
      rintro ⟨⟨packet, written⟩, line, reached⟩
      have routed := (route_iff_reaches ran dest line).mpr reached
      have posted := (@post_ok_iff H hub _ origin source dest message).mpr
        ⟨packet, line, written, routed, rfl⟩
      rw [sent] at posted
      cases posted
  | ok posted =>
      obtain ⟨packet, line, written, routed, rfl⟩ := post_ok_iff.mp sent
      exact Or.inl ⟨packet, line, written, (route_iff_reaches ran dest line).mp routed, rfl⟩

theorem conclude_forgets (sound : hub.Sound) {line : Nat} {caller : Caller} {call : Call}
    {failure : Failure} (known : (hub.parties line).calls caller = some call)
    (refused : call.stage = .refused failure) :
    ∃ next held, hub.step (.conclude line caller) = some next ∧
      (next.parties line).calls caller = some { call with stage := .ended (.error failure) } ∧
      next.network.lines[line]? = some held ∧
      (∀ slot ∈ held.pending.slots, slot.1 ≠ call.request.tag ∧ slot.2 ≠ caller) ∧
      caller ∉ held.pending.mail.map Prod.fst := by
  have under : call.stage.underWay := by rw [refused]; rfl
  obtain ⟨source, lives⟩ := Option.isSome_iff_exists.mp (sound.calling line caller call known under)
  obtain ⟨held, stands, _⟩ := Option.map_eq_some_iff.mp lives
  have there := (live_iff.mp stands).2
  have ended : ((hub.conclude line caller call (.error failure)).parties line).calls caller =
      some { call with stage := .ended (.error failure) } :=
    calls_put line caller _ _
  have left : (hub.conclude line caller call (.error failure)).network.lines[line]? =
      some ⟨held.endpoint, held.pending.withdraw caller call.request.tag⟩ :=
    (lines_mapped there _ line).trans (if_pos rfl)
  have attended := (conclude_sound sound stands known (.error failure)).attended line _ left
  -- Its call is over, and only callers with a call under way have entries.
  have finished : ∀ again, ((hub.conclude line caller call (.error failure)).parties line).calls caller =
      some again → ¬ again.stage.underWay := by
    intro again found
    obtain rfl := Option.some.inj (ended.symm.trans found)
    exact Bool.false_ne_true
  refine ⟨_, _, ?_, ended, left, ?_, ?_⟩
  · rw [step, stands, Option.bind_some, known, Option.bind_some]
    simp only [refused]
  · intro slot listed
    refine ⟨?_, ?_⟩
    · rw [Pending.withdraw, Pending.slots_discard] at listed
      exact bne_iff_ne.mp (List.mem_filter.mp listed).2
    · rintro rfl
      obtain ⟨again, found, _, goes⟩ := attended.slots slot.1 slot.2 listed
      exact finished again found goes
  · intro posted
    obtain ⟨again, found, goes⟩ := attended.mail caller posted
    exact finished again found goes

/-- Whatever the lines of a network have done, in whatever order, a message is delivered if it can be
written and the line bound last to its destination is still there to be found, and only then; and
calls whose requests could not be delivered leave no trace among those that wait. -/
theorem reachability_of_run (ran : empty.after history = some hub) :
    Reachability history hub where
  delivers := by
    intro origin source message dest posted
    rw [post_ok_iff]
    simp only [route_iff_reaches ran]
  sends := by
    intro line caller call next known fresh stepped
    obtain ⟨held, stands, asked⟩ := Option.bind_eq_some_iff.mp stepped
    rw [known, Option.bind_some, fresh] at asked
    obtain rfl := Option.some.inj asked
    rw [dispatch]
    rcases post_outcome ran line held.endpoint call.dest (.request call.request) with
      ⟨packet, receiver, written, reached, sent⟩ | ⟨lost, failure, refused⟩
    · rw [sent]
      exact Or.inl ⟨held.endpoint, packet, receiver, home_of_live stands, written, reached, rfl,
        calls_put line caller _ _⟩
    · rw [refused]
      exact Or.inr ⟨lost, rfl, failure, calls_put line caller _ hub⟩
  responds := by
    intro line response dest next stepped
    obtain ⟨held, stands, rfl⟩ := Option.map_eq_some_iff.mp stepped
    rcases post_outcome ran line held.endpoint dest (.response response) with
      ⟨packet, receiver, written, reached, sent⟩ | ⟨lost, failure, refused⟩
    · rw [sent]
      exact Or.inl ⟨held.endpoint, packet, receiver, home_of_live stands, written, reached, rfl⟩
    · rw [refused]
      exact Or.inr ⟨lost, rfl⟩
  stays := fun event next flight stepped aloft before => (frame_step stepped).2 flight aloft before
  lands := by
    intro flight aloft
    obtain ⟨source, lives⟩ :=
      Option.isSome_iff_exists.mp ((after_sound empty_sound ran).flying flight aloft)
    obtain ⟨held, stands, _⟩ := Option.map_eq_some_iff.mp lives
    have there := (live_iff.mp stands).2
    refine ⟨held, _, stands, if_pos aloft, (frame_of_receive flight _).1, ?_, ?_, ?_⟩
    · intro other apart
      exact receive_elsewhere flight _ apart
    · intro response read
      rw [receive, read]
      exact (lines_mapped there _ flight.line).trans (if_pos rfl)
    · intro request handler read holds
      rw [receive, read]
      simp [amend, holds]
  spares := by
    intro endpoint line other next reached apart stepped message
    have sound := after_sound empty_sound ran
    have routed := (route_iff_reaches ran endpoint line).mpr reached
    refine deliver_congr ?_ message
    rw [routed]
    rcases stepped with closed | dropped
    · exact (route_step sound closed endpoint line).mpr (Or.inr ⟨routed, apart⟩)
    · exact (route_step sound dropped endpoint line).mpr (Or.inr ⟨routed, apart⟩)
  releases := fun _ _ home => release_eq (after_sound empty_sound ran) home
  forgets := fun line caller call failure known refused =>
    conclude_forgets (after_sound empty_sound ran) known refused
  waits := fun line held there =>
    ((after_sound empty_sound ran).attended line held there).slots
  composes := fun _ serve server _ _ request dest stands =>
    send_runs serve server (after_sound empty_sound ran) stands request dest

/-- Two lines are bound to one endpoint, and the first of them is closed. The second is reached
still. -/
theorem takeover_outlives_close :
    ∃ hub : Hub Unit,
      empty.after [.bind 0 (.v4 0 1), .bind 1 (.v4 0 1), .close 0] = some hub ∧
        hub.post 1 (.v4 0 1) (.response ⟨7, .stored true⟩) (.v4 0 1) =
          .ok { hub with flights := ⟨1, .v4 0 1, 1, [0x12, 0, 0, 0, 7, 1]⟩ :: hub.flights } := by
  obtain ⟨hub, ran⟩ : ∃ hub : Hub Unit,
      empty.after [.bind 0 (.v4 0 1), .bind 1 (.v4 0 1), .close 0] = some hub := ⟨_, rfl⟩
  refine ⟨hub, ran, ((reachability_of_run ran).delivers _ _ _ _ _).mpr ⟨_, 1, rfl, ?_, rfl⟩⟩
  exact ⟨[.bind 0 (.v4 0 1)], [.close 0], rfl, by simp [Event.severs]⟩

end Hub
end XorOverlay
