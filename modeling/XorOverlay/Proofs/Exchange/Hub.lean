import Mathlib
import XorOverlay.Proofs.Exchange.History
import XorOverlay.Proofs.Exchange.Waiting
import XorOverlay.Proofs.Runs

/-!
A hub: a network in small steps. Lines are bound, closed, dropped and disconnected while calls of
theirs are under way and packets are on their way to them, in any order. A packet finds its line when
it is handed over, and arrives there later. How a caller and the responses to it take their turns is
told in finer steps of a lobby.
-/

namespace XorOverlay

set_option autoImplicit false

namespace Hub

/-- A packet on its way to the line it has found. -/
structure Flight where
  origin : Nat
  source : Endpoint
  line : Nat
  packet : Octets
  deriving DecidableEq

/-- How far a call has come. -/
inductive Stage where
  | registered
  | sent
  | refused (failure : Failure)
  | ended (outcome : Except Failure Response)

def Stage.underWay : Stage → Bool
  | .ended _ => false
  | _ => true

/-- A request that is sent from a line, and waited for there. -/
structure Call where
  request : Request
  dest : Endpoint
  stage : Stage

/-- What belongs to a line beside its waiting callers. -/
structure Party (H : Type) where
  handler : Option H
  /-- The requests taken by a handler, the last one first, with the endpoints they came from. -/
  served : List (H × Request × Endpoint)
  calls : Caller → Option Call
  dropped : Bool

def Party.new {H : Type} : Party H :=
  ⟨none, [], fun _ => none, false⟩

/-- A step on the network. Lines are numbered as they are bound, and callers as they come to their
line. -/
inductive Event (H : Type) where
  | bind (line : Nat) (endpoint : Endpoint)
  | close (line : Nat)
  /-- The last reference to a line is released. -/
  | drop (line : Nat)
  | disconnect (endpoint : Endpoint)
  /-- A line gets another handler for requests, or has none from now on. -/
  | handle (line : Nat) (handler : Option H)
  | call (line : Nat) (caller : Caller) (request : Request) (dest : Endpoint)
  /-- The request of a call is handed to the network. -/
  | dispatch (line : Nat) (caller : Caller)
  /-- A call that was refused, or has waited, ends. -/
  | conclude (line : Nat) (caller : Caller)
  | respond (line : Nat) (response : Response) (dest : Endpoint)
  | arrive (flight : Flight)

end Hub

/-- A network with all that goes on on it. -/
structure Hub (H : Type) where
  network : Network
  parties : Nat → Hub.Party H
  flights : List Hub.Flight

namespace Hub

variable {H : Type}

def empty : Hub H :=
  ⟨Network.empty, fun _ => Party.new, []⟩

/-- A line, while there is a reference to it. -/
def live? (line : Nat) (hub : Hub H) : Option Line :=
  bif (hub.parties line).dropped then none else hub.network.lines[line]?

def amend (line : Nat) (change : Party H → Party H) (hub : Hub H) : Hub H :=
  { hub with parties := Function.update hub.parties line (change (hub.parties line)) }

def Party.put (caller : Caller) (call : Call) (party : Party H) : Party H :=
  { party with calls := Function.update party.calls caller (some call) }

/-- A call under way refers to its line, and so does a packet on its way from it or to it. -/
def busy (line : Nat) (held : Line) (hub : Hub H) : Bool :=
  ((List.range held.pending.next).any fun caller =>
      ((hub.parties line).calls caller).any fun call => call.stage.underWay) ||
    hub.flights.any fun flight => flight.origin == line || flight.line == line

/-- Hands a message to the network, where it is on its way at once or fails. -/
def post (origin : Nat) (source : Endpoint) (message : Message) (dest : Endpoint) (hub : Hub H) :
    Except Failure (Hub H) :=
  match hub.network.deliver message dest with
  | .error failure => .error failure
  | .ok (packet, line) =>
    .ok { hub with flights := ⟨origin, source, line, packet⟩ :: hub.flights }

/-- What a packet does to the line it arrives at. -/
def receive (flight : Flight) (hub : Hub H) : Hub H :=
  match Wire.decode flight.packet with
  | .ok (.response response) =>
    { hub with
      network := hub.network.mapPending flight.line fun pending => (pending.complete response).2 }
  | .ok (.request request) =>
    hub.amend flight.line fun party =>
      { party with
        served := (party.handler.map fun handler => (handler, request, flight.source)).toList ++
          party.served }
  | .error _ => hub

/-- A call hands over its request. -/
def dispatch (line : Nat) (source : Endpoint) (caller : Caller) (call : Call) (hub : Hub H) :
    Hub H :=
  match hub.post line source (.request call.request) call.dest with
  | .error failure => hub.amend line (Party.put caller { call with stage := .refused failure })
  | .ok posted => posted.amend line (Party.put caller { call with stage := .sent })

/-- A call stops waiting with an outcome. -/
def conclude (line : Nat) (caller : Caller) (call : Call) (outcome : Except Failure Response)
    (hub : Hub H) : Hub H :=
  { hub with network := hub.network.withdraw line caller call.request.tag }.amend line
    (Party.put caller { call with stage := .ended outcome })

/-- One step, where it can be taken. Only a line that is not dropped takes steps, and it is not
dropped while anything refers to it. A closed line can still send, and wait in vain. -/
def step (hub : Hub H) : Event H → Option (Hub H)
  | .bind line endpoint =>
    if line = hub.network.lines.length then
      some { hub with
        network := (hub.network.bind endpoint).2
        parties := Function.update hub.parties line Party.new }
    else none
  | .close line =>
    (hub.live? line).map fun _ =>
      { hub with network := hub.network.release line }.amend line fun party =>
        { party with handler := none }
  | .drop line =>
    (hub.live? line).bind fun held =>
      if hub.busy line held then none
      else
        some ({ hub with network := hub.network.release line }.amend line fun party =>
          { party with handler := none, dropped := true })
  | .disconnect endpoint => some { hub with network := hub.network.disconnect endpoint }
  | .handle line handler =>
    (hub.live? line).map fun _ => hub.amend line fun party => { party with handler := handler }
  | .call line caller request dest =>
    (hub.live? line).bind fun held =>
      if caller = held.pending.next then
        some ({ hub with network := (hub.network.register line request.tag).2 }.amend line
          (Party.put caller ⟨request, dest, .registered⟩))
      else none
  | .dispatch line caller =>
    (hub.live? line).bind fun held =>
      ((hub.parties line).calls caller).bind fun call =>
        match call.stage with
        | .registered => some (hub.dispatch line held.endpoint caller call)
        | _ => none
  | .conclude line caller =>
    (hub.live? line).bind fun held =>
      ((hub.parties line).calls caller).bind fun call =>
        match call.stage with
        | .refused failure => some (hub.conclude line caller call (.error failure))
        | .sent => some (hub.conclude line caller call (held.pending.outcome caller))
        | _ => none
  | .respond line response dest =>
    (hub.live? line).map fun held =>
      match hub.post line held.endpoint (.response response) dest with
      | .error _ => hub
      | .ok posted => posted
  | .arrive flight =>
    if flight ∈ hub.flights then
      some ({ hub with flights := hub.flights.erase flight }.receive flight)
    else none

/-- The hub after some steps, if each could be taken. -/
def after (history : List (Event H)) (hub : Hub H) : Option (Hub H) :=
  history.foldlM step hub

/-- Whoever is listed under a tag has a call with that tag under way, and so does whoever has a
mailbox; callers are numbered below the number of the next. -/
structure Attended (pending : Pending) (calls : Caller → Option Call) : Prop where
  slots : ∀ tag caller, (tag, caller) ∈ pending.slots →
    ∃ call, calls caller = some call ∧ call.request.tag = tag ∧ call.stage.underWay
  mail : ∀ caller ∈ pending.mail.map Prod.fst,
    ∃ call, calls caller = some call ∧ call.stage.underWay
  numbered : ∀ caller call, calls caller = some call → caller < pending.next

section Waiting

variable {pending later : Pending} {calls : Caller → Option Call} {caller : Caller} {call : Call}

theorem mail_of_deliver (caller : Caller) (mailbox : Mailbox) (pending : Pending) :
    (pending.deliverTo caller mailbox).mail.map Prod.fst = pending.mail.map Prod.fst := by
  rw [Pending.deliverTo, List.map_map]
  refine List.map_congr_left fun entry _ => ?_
  by_cases own : entry.1 = caller
  · simp [own]
  · simp [own]

theorem mail_of_discard (tag : Tag) (pending : Pending) :
    (pending.discard tag).mail.map Prod.fst = pending.mail.map Prod.fst := by
  rw [Pending.discard]
  cases pending.slots.lookup tag with
  | none => rfl
  | some caller => exact mail_of_deliver caller _ _

/-- Callers stay attended when the list and the mailboxes lose entries. -/
theorem Attended.lose (attended : Attended pending calls)
    (slots : ∀ slot ∈ later.slots, slot ∈ pending.slots)
    (mail : ∀ other ∈ later.mail.map Prod.fst, other ∈ pending.mail.map Prod.fst)
    (next : later.next = pending.next) : Attended later calls :=
  ⟨fun tag other listed => attended.slots tag other (slots _ listed),
    fun other posted => attended.mail other (mail other posted),
    fun other call known => next ▸ attended.numbered other call known⟩

/-- A caller that goes on leaves the callers attended. So does one that stops when it has no entry
left. -/
theorem Attended.put (attended : Attended pending calls) (stage : Stage)
    (known : calls caller = some call)
    (goes : stage.underWay ∨ (∀ tag, (tag, caller) ∉ pending.slots) ∧
      caller ∉ pending.mail.map Prod.fst) :
    Attended pending (Function.update calls caller (some { call with stage := stage })) := by
  refine ⟨?_, ?_, ?_⟩
  · intro tag other listed
    obtain ⟨held, before, own, under⟩ := attended.slots tag other listed
    by_cases same : other = caller
    · subst same
      obtain rfl := Option.some.inj (known.symm.trans before)
      exact ⟨_, Function.update_self .., own, goes.resolve_right fun gone => gone.1 tag listed⟩
    · exact ⟨held, (Function.update_of_ne same ..).trans before, own, under⟩
  · intro other posted
    obtain ⟨held, before, under⟩ := attended.mail other posted
    by_cases same : other = caller
    · subst same
      exact ⟨_, Function.update_self .., goes.resolve_right fun gone => gone.2 posted⟩
    · exact ⟨held, (Function.update_of_ne same ..).trans before, under⟩
  · intro other held found
    by_cases same : other = caller
    · exact same ▸ attended.numbered caller call known
    · exact attended.numbered other held ((Function.update_of_ne same ..).symm.trans found)

theorem Attended.complete (attended : Attended pending calls) (response : Response) :
    Attended (pending.complete response).2 calls := by
  rw [Pending.complete]
  cases pending.slots.lookup response.tag with
  | none => exact attended
  | some caller =>
      refine attended.lose (fun slot kept => List.mem_of_mem_filter kept) ?_ rfl
      intro other posted
      rwa [mail_of_deliver] at posted

theorem Attended.register (attended : Attended pending calls) (request : Request)
    (dest : Endpoint) :
    Attended (pending.register request.tag).2
      (Function.update calls pending.next (some ⟨request, dest, .registered⟩)) := by
  have next := Pending.next_discard request.tag pending
  have before : ∀ caller call, calls caller = some call →
      Function.update calls pending.next (some ⟨request, dest, .registered⟩) caller = some call := by
    intro caller call known
    exact (Function.update_of_ne (attended.numbered caller call known).ne ..).trans known
  refine ⟨?_, ?_, ?_⟩
  · intro tag caller listed
    rw [Pending.register, Pending.slots_discard, next] at listed
    rcases List.mem_cons.mp listed with new | old
    · obtain ⟨rfl, rfl⟩ := Prod.mk.inj new
      exact ⟨_, Function.update_self .., rfl, rfl⟩
    · obtain ⟨call, known, own, under⟩ := attended.slots tag caller (List.mem_of_mem_filter old)
      exact ⟨call, before caller call known, own, under⟩
  · intro caller posted
    rw [Pending.register, List.map_cons, mail_of_discard, next] at posted
    rcases List.mem_cons.mp posted with rfl | old
    · exact ⟨_, Function.update_self .., rfl⟩
    · obtain ⟨call, known, under⟩ := attended.mail caller old
      exact ⟨call, before caller call known, under⟩
  · intro caller call found
    rw [(Pending.registered_eq request.tag pending).2.2.2]
    by_cases last : caller = pending.next
    · exact last ▸ Nat.lt_succ_self _
    · rw [Function.update_of_ne last] at found
      exact (attended.numbered caller call found).trans (Nat.lt_succ_self _)

/-- A caller that stops waiting leaves no entry: none is left under its tag, and it was listed under
no other. -/
theorem Attended.withdraw (attended : Attended pending calls) (known : calls caller = some call)
    (outcome : Except Failure Response) :
    Attended (pending.withdraw caller call.request.tag)
      (Function.update calls caller (some { call with stage := .ended outcome })) := by
  have slots : ∀ slot ∈ (pending.withdraw caller call.request.tag).slots,
      slot ∈ pending.slots ∧ slot.1 ≠ call.request.tag := by
    intro slot listed
    rw [Pending.withdraw, Pending.slots_discard] at listed
    exact ⟨List.mem_of_mem_filter listed, bne_iff_ne.mp (List.mem_filter.mp listed).2⟩
  have mail : ∀ other ∈ (pending.withdraw caller call.request.tag).mail.map Prod.fst,
      other ∈ pending.mail.map Prod.fst ∧ other ≠ caller := by
    intro other posted
    obtain ⟨entry, kept, rfl⟩ := List.mem_map.mp posted
    obtain ⟨listed, apart⟩ := List.mem_filter.mp kept
    exact ⟨mail_of_discard call.request.tag pending ▸ List.mem_map_of_mem listed,
      bne_iff_ne.mp apart⟩
  refine (attended.lose (fun slot listed => (slots slot listed).1)
    (fun other posted => (mail other posted).1)
    (Pending.withdrawn_eq caller call.request.tag pending).2.2).put _ known (Or.inr ⟨?_, ?_⟩)
  · intro tag listed
    obtain ⟨held, before, own, _⟩ := attended.slots tag caller (slots _ listed).1
    obtain rfl := Option.some.inj (known.symm.trans before)
    exact (slots _ listed).2 own.symm
  · exact fun posted => (mail caller posted).2 rfl

end Waiting

/-- Where packets from a line come from, while there is a reference to it. -/
def home? (line : Nat) (hub : Hub H) : Option Endpoint :=
  (hub.live? line).map Line.endpoint

/-- Endpoints are bound once, to live lines of their own; packets are on their way to live lines;
calls under way are those of live lines, and only they are waited for. -/
structure Sound (hub : Hub H) : Prop where
  distinct : (hub.network.bindings.map Prod.fst).Nodup
  bound : ∀ endpoint line, (endpoint, line) ∈ hub.network.bindings → hub.home? line = some endpoint
  flying : ∀ flight ∈ hub.flights, (hub.home? flight.line).isSome
  calling : ∀ line caller call, (hub.parties line).calls caller = some call →
    call.stage.underWay → (hub.home? line).isSome
  attended : ∀ line held, hub.network.lines[line]? = some held →
    Attended held.pending (hub.parties line).calls

theorem empty_sound : (empty : Hub H).Sound where
  distinct := List.nodup_nil
  bound := nofun
  flying := nofun
  calling := nofun
  attended := nofun

variable {hub next posted : Hub H} {event : Event H} {line : Nat} {held : Line}

theorem live_iff : hub.live? line = some held ↔
    (hub.parties line).dropped = false ∧ hub.network.lines[line]? = some held := by
  rw [live?]
  cases (hub.parties line).dropped with
  | false => simp
  | true => simp

theorem home_of_live (stands : hub.live? line = some held) : hub.home? line = some held.endpoint :=
  congrArg (Option.map Line.endpoint) stands

theorem calls_put (line : Nat) (caller : Caller) (call : Call) (hub : Hub H) :
    ((hub.amend line (Party.put caller call)).parties line).calls caller = some call := by
  simp [amend, Party.put]

/-- A hub stays sound when one of its live lines changes what it waits for and what belongs to it,
when bindings are taken away, and when packets arrive or set out for live lines. -/
theorem amend_sound (sound : hub.Sound) (stands : hub.live? line = some held) {network : Network}
    {pending : Pending} {party : Party H} {flights : List Flight}
    (bindings : network.bindings.Sublist hub.network.bindings)
    (lines : ∀ other, network.lines[other]? =
      if other = line then some ⟨held.endpoint, pending⟩ else hub.network.lines[other]?)
    (kept : party.dropped = false) (attended : Attended pending party.calls)
    (flying : ∀ flight ∈ flights, (hub.home? flight.line).isSome) :
    Sound ⟨network, Function.update hub.parties line party, flights⟩ := by
  have homes : ∀ other, home? other ⟨network, Function.update hub.parties line party, flights⟩ =
      hub.home? other := by
    intro other
    rw [home?, live?, lines]
    dsimp only
    by_cases same : other = line
    · rw [same, Function.update_self, kept, if_pos rfl, home_of_live stands]
      rfl
    · rw [Function.update_of_ne same, if_neg same]
      rfl
  refine ⟨sound.distinct.sublist (bindings.map Prod.fst), ?_, ?_, ?_, ?_⟩
  · intro endpoint other listed
    exact (homes other).trans (sound.bound endpoint other (bindings.subset listed))
  · intro flight aloft
    exact (congrArg Option.isSome (homes flight.line)).trans (flying flight aloft)
  · intro other caller call known under
    rw [homes]
    by_cases same : other = line
    · rw [same, home_of_live stands]
      rfl
    · exact sound.calling other caller call
        ((congrArg (Party.calls · caller) (Function.update_of_ne same ..)).symm.trans known) under
  · intro other now there
    rw [lines] at there
    dsimp only
    by_cases same : other = line
    · rw [if_pos same] at there
      obtain rfl := Option.some.inj there
      rw [same, Function.update_self]
      exact attended
    · rw [if_neg same] at there
      rw [Function.update_of_ne same]
      exact sound.attended other now there

theorem lines_mapped {network : Network} (stands : network.lines[line]? = some held)
    (change : Pending → Pending) (other : Nat) :
    (network.mapPending line change).lines[other]? =
      if other = line then some ⟨held.endpoint, change held.pending⟩
      else network.lines[other]? := by
  rw [Network.mapPending, List.getElem?_modify]
  by_cases same : other = line
  · rw [same, stands, if_pos rfl]
    exact congrArg some (if_pos rfl)
  · rw [if_neg same]
    cases network.lines[other]? with
    | none => rfl
    | some held => exact congrArg some (if_neg (Ne.symm same))

theorem deliver_ok_iff {network : Network} {message : Message} {dest : Endpoint} {packet : Octets} :
    network.deliver message dest = .ok (packet, line) ↔
      Wire.encode message = .ok packet ∧ network.route dest = some line := by
  rw [Network.deliver]
  cases Wire.encode message with
  | error failure => simp
  | ok written =>
      cases network.route dest with
      | none => simp
      | some reached => simp

theorem post_ok_iff {origin : Nat} {source dest : Endpoint} {message : Message} :
    hub.post origin source message dest = .ok posted ↔
      ∃ packet line, Wire.encode message = .ok packet ∧ hub.network.route dest = some line ∧
        posted = { hub with flights := ⟨origin, source, line, packet⟩ :: hub.flights } := by
  rw [post]
  cases delivered : hub.network.deliver message dest with
  | error failure =>
      refine iff_of_false nofun ?_
      rintro ⟨packet, line, written, routed, _⟩
      exact nomatch delivered.symm.trans (deliver_ok_iff.mpr ⟨written, routed⟩)
  | ok found =>
      obtain ⟨packet, line⟩ := found
      obtain ⟨written, routed⟩ := deliver_ok_iff.mp delivered
      simp [written, routed, eq_comm]

/-- A message that is handed over is on its way to a live line. -/
theorem Sound.post_flying (sound : hub.Sound) {origin : Nat} {source dest : Endpoint}
    {message : Message} (sent : hub.post origin source message dest = .ok posted) :
    ∀ flight ∈ posted.flights, (hub.home? flight.line).isSome := by
  obtain ⟨packet, line, _, routed, rfl⟩ := post_ok_iff.mp sent
  intro flight aloft
  rcases List.mem_cons.mp aloft with rfl | before
  · have listed := (lookup_iff_mem sound.distinct dest line).mp routed
    exact (congrArg Option.isSome (sound.bound dest line listed)).trans rfl
  · exact sound.flying flight before

theorem bind_sound (sound : hub.Sound) (endpoint : Endpoint) :
    Sound { hub with
      network := (hub.network.bind endpoint).2
      parties := Function.update hub.parties hub.network.lines.length Party.new } := by
  have lines : ∀ other, (hub.network.bind endpoint).2.lines[other]? =
      if other = hub.network.lines.length then some ⟨endpoint, Pending.empty⟩
      else hub.network.lines[other]? :=
    getElem?_concat hub.network.lines _
  have homes : ∀ other, home? other { hub with
      network := (hub.network.bind endpoint).2
      parties := Function.update hub.parties hub.network.lines.length Party.new } =
      if other = hub.network.lines.length then some endpoint else hub.home? other := by
    intro other
    rw [home?, live?, lines]
    dsimp only
    by_cases new : other = hub.network.lines.length
    · rw [new, Function.update_self, if_pos rfl, if_pos rfl]
      rfl
    · rw [Function.update_of_ne new, if_neg new, if_neg new]
      rfl
  -- A line that is live already is not the one that comes next.
  have earlier : ∀ other, (hub.home? other).isSome → other ≠ hub.network.lines.length := by
    rintro _ lives rfl
    rw [home?, live?, List.getElem?_eq_none le_rfl, Bool.cond_self] at lives
    cases lives
  refine ⟨?_, ?_, ?_, ?_, ?_⟩
  · show (List.map Prod.fst ((endpoint, hub.network.lines.length) ::
      hub.network.bindings.filter fun binding => binding.1 != endpoint)).Nodup
    rw [List.map_cons, List.nodup_cons]
    refine ⟨?_, sound.distinct.sublist (List.filter_sublist.map Prod.fst)⟩
    intro again
    obtain ⟨binding, kept, same⟩ := List.mem_map.mp again
    exact bne_iff_ne.mp (List.mem_filter.mp kept).2 same
  · intro other line listed
    rw [homes]
    rcases List.mem_cons.mp listed with new | old
    · obtain ⟨rfl, rfl⟩ := Prod.mk.inj new
      exact if_pos rfl
    · have before := sound.bound other line (List.mem_of_mem_filter old)
      rw [if_neg (earlier line (by rw [before]; rfl)), before]
  · intro flight aloft
    have before := sound.flying flight aloft
    rw [homes, if_neg (earlier flight.line before)]
    exact before
  · intro line caller call known under
    rw [homes]
    by_cases new : line = hub.network.lines.length
    · rw [if_pos new]
      rfl
    · rw [if_neg new]
      exact sound.calling line caller call
        ((congrArg (Party.calls · caller) (Function.update_of_ne new ..)).symm.trans known) under
  · intro line held there
    rw [lines] at there
    dsimp only
    by_cases new : line = hub.network.lines.length
    · rw [if_pos new] at there
      obtain rfl := Option.some.inj there
      rw [new, Function.update_self]
      exact ⟨nofun, nofun, nofun⟩
    · rw [if_neg new] at there
      rw [Function.update_of_ne new]
      exact sound.attended line held there

theorem disconnect_sound (sound : hub.Sound) (endpoint : Endpoint) :
    Sound { hub with network := hub.network.disconnect endpoint } :=
  ⟨sound.distinct.sublist (List.filter_sublist.map Prod.fst),
    fun other line listed => sound.bound other line (List.mem_of_mem_filter listed),
    sound.flying, sound.calling, sound.attended⟩

/-- Nothing refers to a line that is not busy. -/
theorem idle_of_busy (attended : Attended held.pending (hub.parties line).calls)
    (idle : hub.busy line held = false) :
    (∀ caller call, (hub.parties line).calls caller = some call → call.stage.underWay = false) ∧
      ∀ flight ∈ hub.flights, flight.line ≠ line := by
  obtain ⟨calls, flights⟩ := Bool.or_eq_false_iff.mp idle
  refine ⟨?_, ?_⟩
  · intro caller call known
    have none := List.any_eq_false.mp calls caller
      (List.mem_range.mpr (attended.numbered caller call known))
    rw [known] at none
    exact Bool.eq_false_of_not_eq_true none
  · rintro flight aloft rfl
    have none := List.any_eq_false.mp flights flight aloft
    simp at none

theorem drop_sound (sound : hub.Sound) (stands : hub.live? line = some held)
    (idle : hub.busy line held = false) :
    Sound ({ hub with network := hub.network.release line }.amend line fun party =>
      { party with handler := none, dropped := true }) := by
  obtain ⟨_, there⟩ := live_iff.mp stands
  obtain ⟨ended, landed⟩ := idle_of_busy (sound.attended line held there) idle
  have homes : ∀ other, other ≠ line →
      home? other ({ hub with network := hub.network.release line }.amend line fun party =>
        { party with handler := none, dropped := true }) = hub.home? other := by
    intro other apart
    rw [home?, live?, amend]
    dsimp only
    rw [Function.update_of_ne apart]
    rfl
  have calls : ∀ other, (Function.update hub.parties line { hub.parties line with
      handler := none, dropped := true } other).calls = (hub.parties other).calls := by
    intro other
    by_cases same : other = line
    · rw [same, Function.update_self]
    · rw [Function.update_of_ne same]
  refine ⟨sound.distinct.sublist (List.filter_sublist.map Prod.fst), ?_, ?_, ?_, ?_⟩
  · intro endpoint other listed
    obtain ⟨before, apart⟩ := List.mem_filter.mp listed
    exact (homes other (bne_iff_ne.mp apart)).trans (sound.bound endpoint other before)
  · intro flight aloft
    rw [homes flight.line (landed flight aloft)]
    exact sound.flying flight aloft
  · intro other caller call known under
    rw [amend] at known
    dsimp only at known
    rw [calls] at known
    have apart : other ≠ line := by
      rintro rfl
      rw [ended caller call known] at under
      cases under
    rw [homes other apart]
    exact sound.calling other caller call known under
  · intro other now still
    rw [amend]
    dsimp only
    rw [calls]
    exact sound.attended other now still

theorem lines_kept {network : Network} (there : network.lines[line]? = some held) (other : Nat) :
    network.lines[other]? =
      if other = line then some ⟨held.endpoint, held.pending⟩ else network.lines[other]? := by
  split_ifs with same
  · exact same ▸ there
  · rfl

section Steps

variable {caller : Caller} {call : Call} {source : Endpoint}

theorem dispatch_sound (sound : hub.Sound) (stands : hub.live? line = some held)
    (known : (hub.parties line).calls caller = some call) :
    (hub.dispatch line source caller call).Sound := by
  obtain ⟨used, there⟩ := live_iff.mp stands
  have attended := sound.attended line held there
  rw [dispatch]
  cases sent : hub.post line source (.request call.request) call.dest with
  | error failure =>
      exact amend_sound sound stands (List.Sublist.refl _) (lines_kept there) used
        (attended.put _ known (Or.inl rfl)) sound.flying
  | ok posted =>
      have flying := sound.post_flying sent
      obtain ⟨packet, receiver, _, _, rfl⟩ := post_ok_iff.mp sent
      exact amend_sound sound stands (List.Sublist.refl _) (lines_kept there) used
        (attended.put _ known (Or.inl rfl)) flying

theorem conclude_sound (sound : hub.Sound) (stands : hub.live? line = some held)
    (known : (hub.parties line).calls caller = some call) (outcome : Except Failure Response) :
    (hub.conclude line caller call outcome).Sound := by
  obtain ⟨used, there⟩ := live_iff.mp stands
  exact amend_sound sound stands (List.Sublist.refl _) (lines_mapped there _) used
    ((sound.attended line held there).withdraw known outcome) sound.flying

theorem arrive_sound (sound : hub.Sound) {flight : Flight} (aloft : flight ∈ hub.flights) :
    ({ hub with flights := hub.flights.erase flight }.receive flight).Sound := by
  obtain ⟨endpoint, lives⟩ := Option.isSome_iff_exists.mp (sound.flying flight aloft)
  obtain ⟨held, stands, _⟩ := Option.map_eq_some_iff.mp lives
  obtain ⟨used, there⟩ := live_iff.mp stands
  have attended := sound.attended flight.line held there
  have flying : ∀ other ∈ hub.flights.erase flight, (hub.home? other.line).isSome :=
    fun other left => sound.flying other (List.mem_of_mem_erase left)
  rw [receive]
  cases Wire.decode flight.packet with
  | error reason => exact ⟨sound.distinct, sound.bound, flying, sound.calling, sound.attended⟩
  | ok message =>
      cases message with
      | request request =>
          exact amend_sound sound stands (List.Sublist.refl _) (lines_kept there) used attended
            flying
      | response response =>
          have bindings : (hub.network.mapPending flight.line fun pending =>
              (pending.complete response).2).bindings.Sublist hub.network.bindings :=
            List.Sublist.refl _
          have answered := amend_sound sound stands bindings (lines_mapped there _) used
            (attended.complete response) flying
          rw [Function.update_eq_self] at answered
          exact answered

/-- Every step leaves a hub sound. -/
theorem step_sound (sound : hub.Sound) (stepped : hub.step event = some next) : next.Sound := by
  cases event with
  | bind line endpoint =>
      rw [step] at stepped
      split_ifs at stepped with new
      obtain rfl := Option.some.inj stepped
      exact new ▸ bind_sound sound endpoint
  | close line =>
      obtain ⟨held, stands, rfl⟩ := Option.map_eq_some_iff.mp stepped
      obtain ⟨used, there⟩ := live_iff.mp stands
      exact amend_sound sound stands List.filter_sublist (lines_kept there) used
        (sound.attended line held there) sound.flying
  | drop line =>
      obtain ⟨held, stands, left⟩ := Option.bind_eq_some_iff.mp stepped
      split_ifs at left with idle
      obtain rfl := Option.some.inj left
      exact drop_sound sound stands (Bool.eq_false_of_not_eq_true idle)
  | disconnect endpoint =>
      obtain rfl := Option.some.inj stepped
      exact disconnect_sound sound endpoint
  | handle line handler =>
      obtain ⟨held, stands, rfl⟩ := Option.map_eq_some_iff.mp stepped
      obtain ⟨used, there⟩ := live_iff.mp stands
      exact amend_sound sound stands (List.Sublist.refl _) (lines_kept there) used
        (sound.attended line held there) sound.flying
  | call line caller request dest =>
      obtain ⟨held, stands, called⟩ := Option.bind_eq_some_iff.mp stepped
      split_ifs at called with fresh
      obtain rfl := Option.some.inj called
      obtain ⟨used, there⟩ := live_iff.mp stands
      rw [Network.register, there]
      exact amend_sound sound stands (List.Sublist.refl _) (lines_mapped there _) used
        (fresh ▸ (sound.attended line held there).register request dest) sound.flying
  | dispatch line caller =>
      obtain ⟨held, stands, asked⟩ := Option.bind_eq_some_iff.mp stepped
      obtain ⟨call, known, sent⟩ := Option.bind_eq_some_iff.mp asked
      split at sent
      · obtain rfl := Option.some.inj sent
        exact dispatch_sound sound stands known
      · cases sent
  | conclude line caller =>
      obtain ⟨held, stands, asked⟩ := Option.bind_eq_some_iff.mp stepped
      obtain ⟨call, known, ended⟩ := Option.bind_eq_some_iff.mp asked
      split at ended
      · obtain rfl := Option.some.inj ended
        exact conclude_sound sound stands known _
      · obtain rfl := Option.some.inj ended
        exact conclude_sound sound stands known _
      · cases ended
  | respond line response dest =>
      obtain ⟨held, stands, rfl⟩ := Option.map_eq_some_iff.mp stepped
      cases sent : hub.post line held.endpoint (.response response) dest with
      | error failure => exact sound
      | ok posted =>
          have flying := sound.post_flying sent
          obtain ⟨packet, receiver, _, _, rfl⟩ := post_ok_iff.mp sent
          exact ⟨sound.distinct, sound.bound, flying, sound.calling, sound.attended⟩
  | arrive flight =>
      rw [step] at stepped
      split_ifs at stepped with aloft
      obtain rfl := Option.some.inj stepped
      exact arrive_sound sound aloft

end Steps

theorem after_sound {history : List (Event H)} (sound : hub.Sound)
    (ran : hub.after history = some next) : next.Sound := by
  refine run_induction ran sound ?_
  intro history before event later _ stepped held
  exact step_sound held stepped

end Hub
end XorOverlay
