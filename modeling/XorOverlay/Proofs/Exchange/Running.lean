import Mathlib
import XorOverlay.Proofs.Exchange.Hub
import XorOverlay.Proofs.Wire.Language

/-!
What a network does in one go, a hub does in steps. Sending a request and waiting for its response is
a run in which the line calls, the request arrives, the responses to it are sent and arrive one after
another, and the call ends; nothing else happens in between.
-/

namespace XorOverlay

set_option autoImplicit false

namespace Hub

variable {H : Type} {hub middle next : Hub H}

/-- Some steps lead from one hub to the other. -/
def Runs (before after : Hub H) : Prop :=
  ∃ events, before.after events = some after

theorem runs_refl (hub : Hub H) : hub.Runs hub :=
  ⟨[], rfl⟩

theorem runs_step {event : Event H} (stepped : hub.step event = some next) : hub.Runs next :=
  ⟨[event], (run_concat step [] event hub).trans stepped⟩

theorem runs_trans (early : hub.Runs middle) (late : middle.Runs next) : hub.Runs next := by
  obtain ⟨first, arrived⟩ := early
  obtain ⟨second, done⟩ := late
  refine ⟨first ++ second, ?_⟩
  rw [after, run_append]
  exact Option.bind_eq_some_iff.mpr ⟨middle, arrived, done⟩

/-- The same lines are there to send from, with the same calls, and the same packets are on their
way. -/
structure Settled (before after : Hub H) : Prop where
  homes : ∀ line, after.home? line = before.home? line
  calls : ∀ line, (after.parties line).calls = (before.parties line).calls
  flights : after.flights = before.flights

theorem settled_refl (hub : Hub H) : hub.Settled hub :=
  ⟨fun _ => rfl, fun _ => rfl, rfl⟩

theorem settled_trans (early : hub.Settled middle) (late : middle.Settled next) :
    hub.Settled next :=
  ⟨fun line => (late.homes line).trans (early.homes line),
    fun line => (late.calls line).trans (early.calls line), late.flights.trans early.flights⟩

theorem home_eq (line : Nat) (hub : Hub H) :
    hub.home? line =
      bif (hub.parties line).dropped then none else hub.network.endpoint? line := by
  rw [home?, live?]
  cases (hub.parties line).dropped with
  | false => rfl
  | true => rfl

theorem receive_settled (flight : Flight) (hub : Hub H) : hub.Settled (hub.receive flight) := by
  rw [receive]
  cases Wire.decode flight.packet with
  | error reason => exact settled_refl hub
  | ok message =>
      cases message with
      | request request =>
          refine ⟨?_, ?_, rfl⟩
          · intro line
            rw [home_eq, home_eq]
            by_cases here : line = flight.line
            · simp [amend, here]
            · simp [amend, here]
          · intro line
            by_cases here : line = flight.line
            · simp [amend, here]
            · simp [amend, here]
      | response response =>
          refine ⟨?_, fun _ => rfl, rfl⟩
          intro line
          have same := Network.map_pending_same flight.line
            (fun pending => (pending.complete response).2) hub.network
          rw [home_eq, home_eq, Network.endpoint_congr same]

section Answering

variable {line : Nat} {response : Response} {request : Request} {dest : Endpoint}
  {network : Network}

theorem arrive_next (flight : Flight) (hub : Hub H) :
    ({ hub with flights := flight :: hub.flights } : Hub H).step (.arrive flight) =
      some (hub.receive flight) := by
  rw [step, if_pos (List.mem_cons_self ..), List.erase_cons_head]

/-- A response is sent in two steps: it finds its line, and it arrives there. -/
theorem respond_runs (lives : (hub.home? line).isSome)
    (done : hub.network.respond response dest = .ok network) :
    ∃ next, hub.Runs next ∧ next.network = network ∧ hub.Settled next := by
  obtain ⟨source, home⟩ := Option.isSome_iff_exists.mp lives
  obtain ⟨held, stands, rfl⟩ := Option.map_eq_some_iff.mp home
  rw [Network.respond] at done
  cases delivered : hub.network.deliver (.response response) dest with
  | error failure =>
      rw [delivered] at done
      cases done
  | ok found =>
      obtain ⟨packet, receiver⟩ := found
      have sent : hub.step (.respond line response dest) =
          some { hub with flights := ⟨line, held.endpoint, receiver, packet⟩ :: hub.flights } := by
        rw [step, stands, Option.map_some, post, delivered]
      refine ⟨_, runs_trans (runs_step sent) (runs_step (arrive_next _ hub)), ?_,
        receive_settled _ hub⟩
      rw [delivered] at done
      dsimp only at done
      rw [receive]
      cases read : Wire.decode packet with
      | error reason =>
          rw [read] at done
          exact Except.ok.inj done
      | ok message =>
          rw [read] at done
          cases message with
          | request request => exact Except.ok.inj done
          | response received => exact Except.ok.inj done

theorem respondAll_runs (responses : List Response) (dest : Endpoint)
    (lives : (hub.home? line).isSome) :
    ∃ next, hub.Runs next ∧ next.network = hub.network.respondAll responses dest ∧
      hub.Settled next := by
  induction responses generalizing hub with
  | nil => exact ⟨hub, runs_refl hub, rfl, settled_refl hub⟩
  | cons response rest ih =>
      rw [Network.respondAll, List.foldl_cons]
      cases sent : hub.network.respond response dest with
      | error failure => exact ih lives
      | ok network =>
          obtain ⟨middle, early, rfl, kept⟩ := respond_runs lives sent
          obtain ⟨next, late, same, left⟩ := ih ((congrArg Option.isSome (kept.homes line)).trans lives)
          exact ⟨next, runs_trans early late, same, settled_trans kept left⟩

/-- A request is not taken for a response. -/
theorem decode_request {packet : Octets} (written : Wire.encode (.request request) = .ok packet)
    (received : Response) : Wire.decode packet ≠ .ok (.response received) := by
  intro read
  have kinds : Wire.queryKind request.query = Wire.replyKind received.reply :=
    Option.some.inj ((Wire.encode_kind written).symm.trans (Wire.decode_kind read))
  have asked : Wire.queryKind request.query < 0x11 := by
    cases request.query <;> simp [Wire.queryKind]
  have answered : 0x11 ≤ Wire.replyKind received.reply := by
    cases received.reply <;> simp [Wire.replyKind]
  exact absurd (kinds ▸ answered) (UInt8.not_le.mpr asked)

end Answering

section Sending

variable {line : Nat} {held : Line} {caller : Caller} {call : Call}

theorem call_next (stands : hub.live? line = some held) (request : Request) (dest : Endpoint) :
    hub.step (.call line held.pending.next request dest) =
      some ({ hub with network := (hub.network.register line request.tag).2 }.amend line
        (Party.put held.pending.next ⟨request, dest, .registered⟩)) := by
  rw [step, stands, Option.bind_some, if_pos rfl]

theorem dispatch_next (stands : hub.live? line = some held)
    (known : (hub.parties line).calls caller = some call) (fresh : call.stage = .registered) :
    hub.step (.dispatch line caller) = some (hub.dispatch line held.endpoint caller call) := by
  rw [step, stands, Option.bind_some, known, Option.bind_some, fresh]

theorem conclude_next (stands : hub.live? line = some held)
    (known : (hub.parties line).calls caller = some call) (waits : call.stage = .sent) :
    hub.step (.conclude line caller) =
        some (hub.conclude line caller call (held.pending.outcome caller)) ∧
      hub.network.finish line caller call.request.tag = (held.pending.outcome caller,
        (hub.conclude line caller call (held.pending.outcome caller)).network) := by
  refine ⟨?_, ?_⟩
  · rw [step, stands, Option.bind_some, known, Option.bind_some, waits]
  · rw [Network.finish, (live_iff.mp stands).2]
    rfl

theorem refused_next {failure : Failure} (stands : hub.live? line = some held)
    (known : (hub.parties line).calls caller = some call)
    (refused : call.stage = .refused failure) :
    hub.step (.conclude line caller) = some (hub.conclude line caller call (.error failure)) := by
  rw [step, stands, Option.bind_some, known, Option.bind_some, refused]

theorem home_put (line other : Nat) (caller : Caller) (call : Call) (hub : Hub H) :
    (hub.amend line (Party.put caller call)).home? other = hub.home? other := by
  rw [home_eq, home_eq]
  by_cases here : other = line
  · simp [amend, Party.put, here]
  · simp [amend, here]

/-- How far a call has come once its request has been transmitted, or has not. -/
def Call.Transmitted {γ : Type} (line : Nat) (caller : Caller) (call : Call) (before after : Hub H) :
    Except Failure (Network × γ) → Prop
  | .error failure => after.network = before.network ∧
      (after.parties line).calls caller = some { call with stage := .refused failure }
  | .ok (network, _) => after.network = network ∧
      (after.parties line).calls caller = some { call with stage := .sent }

/-- A request is transmitted, with the responses to it, step by step. -/
theorem transmit_runs {γ : Type} (serve : Network.Serve γ) (server : γ) (sound : hub.Sound)
    (stands : hub.live? line = some held)
    (known : (hub.parties line).calls caller = some call) (fresh : call.stage = .registered) :
    ∃ next, hub.Runs next ∧ next.flights = hub.flights ∧
      (∀ other, next.home? other = hub.home? other) ∧
      call.Transmitted line caller hub next
        (hub.network.transmit serve line call.request call.dest server) := by
  have handed := dispatch_next stands known fresh
  have attached : hub.network.endpoint? line = some held.endpoint :=
    congrArg (Option.map Line.endpoint) (live_iff.mp stands).2
  rw [dispatch, post] at handed
  rw [Network.transmit, attached]
  cases delivered : hub.network.deliver (.request call.request) call.dest with
  | error failure =>
      rw [delivered] at handed
      exact ⟨_, runs_step handed, rfl, fun other => home_put line other caller _ hub, rfl,
        calls_put line caller _ hub⟩
  | ok found =>
      obtain ⟨packet, receiver⟩ := found
      rw [delivered] at handed
      dsimp only at handed ⊢
      let sending := hub.amend line (Party.put caller { call with stage := .sent })
      have arrived := runs_trans (runs_step handed)
        (runs_step (arrive_next ⟨line, held.endpoint, receiver, packet⟩ sending))
      have kept := receive_settled ⟨line, held.endpoint, receiver, packet⟩ sending
      have homes : ∀ other, sending.home? other = hub.home? other :=
        fun other => home_put line other caller _ hub
      have sent : ((sending.receive ⟨line, held.endpoint, receiver, packet⟩).parties line).calls
          caller = some { call with stage := .sent } := by
        rw [kept.calls]
        exact calls_put line caller _ hub
      have same : hub.network = sending.network := rfl
      cases read : Wire.decode packet with
      | error reason =>
          refine ⟨_, arrived, kept.flights, fun other => (kept.homes other).trans (homes other), ?_,
            sent⟩
          rw [receive]
          simp only [read]
          rfl
      | ok message =>
          cases message with
          | response received =>
              exact absurd read (decode_request (deliver_ok_iff.mp delivered).1 received)
          | request received =>
              have quiet : (sending.receive ⟨line, held.endpoint, receiver, packet⟩).network =
                  hub.network := by
                rw [receive]
                simp only [read]
                rfl
              have listed := (lookup_iff_mem sound.distinct call.dest receiver).mp
                (deliver_ok_iff.mp delivered).2
              have lives : ((sending.receive
                  ⟨line, held.endpoint, receiver, packet⟩).home? receiver).isSome := by
                rw [kept.homes, homes, sound.bound call.dest receiver listed]
                rfl
              obtain ⟨next, answered, network, settled⟩ := respondAll_runs
                (serve server receiver held.endpoint received).1 held.endpoint lives
              refine ⟨next, runs_trans arrived answered, settled.flights.trans kept.flights,
                fun other => (settled.homes other).trans ((kept.homes other).trans (homes other)),
                network.trans (by rw [quiet]), ?_⟩
              rw [settled.calls]
              exact sent

/-- Sending a request and waiting for its response is a run, in which a call ends with what the
sending comes to. -/
theorem send_runs {γ : Type} (serve : Network.Serve γ) (server : γ) (sound : hub.Sound)
    (stands : hub.live? line = some held) (request : Request) (dest : Endpoint) :
    ∃ next, hub.Runs next ∧ next.flights = hub.flights ∧
      next.network = (hub.network.send serve line request dest server).2.1 ∧
      (next.parties line).calls held.pending.next =
        some ⟨request, dest, .ended (hub.network.send serve line request dest server).1⟩ := by
  obtain ⟨used, there⟩ := live_iff.mp stands
  have called := call_next stands request dest
  have registered : hub.network.register line request.tag =
      (held.pending.next, (hub.network.register line request.tag).2) := by
    rw [Network.register, there]
    exact Prod.ext (Pending.registered_eq request.tag held.pending).1 rfl
  let first := { hub with network := (hub.network.register line request.tag).2 }.amend line
    (Party.put held.pending.next ⟨request, dest, .registered⟩)
  have home : first.home? line = some held.endpoint := by
    have same := Network.map_pending_same line (fun pending => (pending.register request.tag).2)
      hub.network
    rw [home_put, home_eq, ← home_of_live stands, home_eq, Network.register, there,
      Network.endpoint_congr same]
  obtain ⟨waiting, standing, _⟩ := Option.map_eq_some_iff.mp home
  obtain ⟨middle, ran, flights, homes, reached⟩ := transmit_runs serve server
    (step_sound sound called) standing (calls_put line held.pending.next _ _) rfl
  obtain ⟨last, remains, _⟩ := Option.map_eq_some_iff.mp ((homes line).trans home)
  have begun := runs_trans (runs_step called) ran
  replace reached : Call.Transmitted line held.pending.next ⟨request, dest, .registered⟩ first middle
      ((hub.network.register line request.tag).2.transmit serve line request dest server) := reached
  rw [Network.send, registered]
  dsimp only
  cases transmitted :
      (hub.network.register line request.tag).2.transmit serve line request dest server with
  | error failure =>
      rw [transmitted] at reached
      obtain ⟨same, refused⟩ := reached
      refine ⟨_, runs_trans begun (runs_step (refused_next remains refused rfl)), flights, ?_,
        calls_put line held.pending.next _ _⟩
      exact congrArg (Network.withdraw line held.pending.next request.tag) same
  | ok found =>
      rw [transmitted] at reached
      obtain ⟨network, served⟩ := found
      obtain ⟨rfl, sent⟩ := reached
      obtain ⟨ended, finished⟩ := conclude_next remains sent rfl
      dsimp only at finished ⊢
      rw [finished]
      exact ⟨_, runs_trans begun (runs_step ended), flights, rfl,
        calls_put line held.pending.next _ _⟩

end Sending

end Hub
end XorOverlay
