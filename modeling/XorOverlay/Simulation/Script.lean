import XorOverlay.Node.Operation

/-!
Peers that answer by the book. A script says, for an endpoint or for any endpoint, how requests of
each kind or of any kind are answered, call after call. With it a single node can be run through
any conversation, the silent and the contradictory ones included, while every request it sends is
taken down.
-/

set_option autoImplicit false

namespace XorOverlay

/-- How one call is answered. -/
inductive Answer where
  /-- With a reply, whatever was asked. -/
  | reply (reply : Reply)
  | timeout
  /-- The request cannot be sent, for a reason. -/
  | fail (reason : String)
  /-- With one contact that was never named before. -/
  | endless
  deriving DecidableEq

/-- An answer and the time it takes. -/
structure Cue where
  answer : Answer
  latency : Nanoseconds
  deriving DecidableEq

/-- How the calls that fall under one rule are answered. -/
inductive Part where
  /-- All alike. -/
  | always (cue : Cue)
  /-- By one cue after another; the last one repeats. -/
  | inTurn (cues : List Cue)
  deriving DecidableEq

/-- The part a peer plays for each kind of request, or, without a kind, for any other. -/
abbrev Rules := List (Option Query.Kind × Part)

/-- The rules of all peers, and how far the conversation has come. -/
structure Script where
  /-- The rules of an endpoint, or, without an endpoint, of any other. -/
  rules : List (Option Endpoint × Rules)
  /-- How many requests of each kind every endpoint has answered in turn. -/
  turns : List ((Endpoint × Query.Kind) × Nat)
  invented : Nat
  /-- The requests sent, in order. -/
  sent : List (Endpoint × Query)

namespace Script

def start (rules : List (Option Endpoint × Rules)) : Script :=
  ⟨rules, [], 0, []⟩

/-- Gives an endpoint new rules. The turns it has taken so far still count. -/
def assign (endpoint : Option Endpoint) (rules : Rules) (script : Script) : Script :=
  { script with
    rules := (endpoint, rules) :: script.rules.filter fun entry => entry.1 != endpoint }

def part? (dest : Endpoint) (kind : Query.Kind) (script : Script) : Option Part :=
  let rules := ((script.rules.lookup (some dest)).or (script.rules.lookup none)).getD []
  (rules.lookup (some kind)).or (rules.lookup none)

/-- Takes a turn: how many were taken before, and the script with one more. -/
def takeTurn (dest : Endpoint) (kind : Query.Kind) (script : Script) : Nat × Script :=
  let taken := (script.turns.lookup (dest, kind)).getD 0
  (taken, { script with
    turns := ((dest, kind), taken + 1) ::
      script.turns.filter fun entry => entry.1 != (dest, kind) })

/-- The cue of the next call, if there is any. A call that is to be answered in turn takes a turn,
even if no cue is left to answer it with. -/
def next (dest : Endpoint) (kind : Query.Kind) (script : Script) : Option Cue × Script :=
  match script.part? dest kind with
  | none => (none, script)
  | some (.always cue) => (some cue, script)
  | some (.inTurn cues) =>
    let (taken, later) := script.takeTurn dest kind
    (cues[taken]?.or cues.getLast?, later)

/-- The contact of an endless answer: each is closer to the zero identifier than the one before. -/
def inventedContact (count : Nat) : Contact :=
  ⟨Ident.ofNat (18446744073709551615 - count), some (Endpoint.ofParts 127 0 0 1 2)⟩

def perform (answer : Answer) (request : Request) (script : Script) :
    Except Failure Response × Script :=
  match answer with
  | .reply reply => (.ok ⟨request.tag, reply⟩, script)
  | .timeout => (.error .timedOut, script)
  | .fail reason => (.error (.transport reason), script)
  | .endless =>
    let contacts := [inventedContact script.invented]
    let reply := match request.query with
      | .findValue _ => Reply.closest contacts
      | _ => Reply.nodes contacts
    (.ok ⟨request.tag, reply⟩, { script with invented := script.invented + 1 })

/-- Carries requests to the scripted peers. A request that cannot be written is taken down as
well, but no peer gets to see it. -/
def carrier : Carrier Script := fun scene dest request =>
  let script := { scene.outside with sent := scene.outside.sent ++ [(dest, request.query)] }
  match Wire.encode (.request request) with
  | .error failure => (.error failure, { scene with outside := script })
  | .ok _ =>
    match script.next dest request.query.kind with
    | (none, script) => (.error (Failure.unreachable dest), { scene with outside := script })
    | (some cue, script) =>
      let (answer, script) := script.perform cue.answer request
      (answer, { scene with clock := scene.clock + cue.latency, outside := script })

/-- Lets the node act, runs its errands, and answers also with the requests sent meanwhile. -/
def observe {α : Type} (action : Scene Script → α × Scene Script) (scene : Scene Script) :
    (α × List (Endpoint × Query)) × Scene Script :=
  let silent := { scene with outside := { scene.outside with sent := [] } }
  let (answer, scene) := action silent
  let scene := scene.settle carrier
  ((answer, scene.outside.sent), scene)

end Script
end XorOverlay
