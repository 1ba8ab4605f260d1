import XorOverlay.Exchange.Network
import XorOverlay.Routing.Table

/-!
A test bench: what is read off a table, and a network of named lines whose requests are answered by
fixed rules. Giving a name to a new line drops the line that had it.
-/

set_option autoImplicit false

namespace XorOverlay

/-- The places, counted from the lowest range, of the buckets not heard from for an interval. -/
def Table.staleIndices (interval now : Nanoseconds) (table : Table) : List Nat :=
  (table.buckets.zipIdx.filter fun entry => entry.1.stale interval now).map Prod.snd

/-- Sends the same request from two callers of a line at once. The second registers while the first
waits; the first then ends, and clears the tag the second waits under. -/
def Network.sendTwice {γ : Type} (serve : Serve γ) (line : Nat) (request : Request) (dest : Endpoint)
    (network : Network) (server : γ) :
    (Except Failure Response × Except Failure Response) × Network × γ :=
  let (first, network) := network.register line request.tag
  match network.transmit serve line request dest server with
  | .error failure =>
    let network := network.withdraw line first request.tag
    let (second, network, server) := network.send serve line request dest server
    ((.error failure, second), network, server)
  | .ok (network, server) =>
    let (second, network) := network.register line request.tag
    match network.transmit serve line request dest server with
    | .error failure =>
      let network := network.withdraw line second request.tag
      let (answer, network) := network.finish line first request.tag
      ((answer, .error failure), network, server)
    | .ok (network, server) =>
      let (answer, network) := network.finish line first request.tag
      let (other, network) := network.finish line second request.tag
      ((answer, other), network, server)

/-- How a line answers requests. -/
inductive Manner where
  /-- Once, under the request's tag. -/
  | once
  | silent
  /-- Once, under the tag with its lowest bit flipped. -/
  | otherTag
  /-- Twice, under the request's tag. -/
  | twice
  deriving DecidableEq

/-- The rule of a line: a reply and the manner of giving it. -/
structure Responder where
  manner : Manner
  reply : Reply
  deriving DecidableEq

def Responder.responses (responder : Responder) (tag : Tag) : List Response :=
  match responder.manner with
  | .once => [⟨tag, responder.reply⟩]
  | .silent => []
  | .otherTag => [⟨tag ^^^ 1, responder.reply⟩]
  | .twice => [⟨tag, responder.reply⟩, ⟨tag, responder.reply⟩]

/-- A network, the names of its lines, and their responders. -/
structure Bench where
  network : Network
  names : List (String × Nat)
  responders : List (Nat × Responder)

namespace Bench

def empty : Bench :=
  ⟨Network.empty, [], []⟩

def line? (name : String) (bench : Bench) : Option Nat :=
  bench.names.lookup name

/-- Takes a line off the network, and its responder with it. -/
def close (name : String) (bench : Bench) : Bench :=
  match bench.line? name with
  | some line =>
    { bench with
      network := bench.network.release line
      responders := bench.responders.filter fun entry => entry.1 != line }
  | none => bench

def drop (name : String) (bench : Bench) : Bench :=
  let closed := bench.close name
  { closed with names := closed.names.filter fun entry => entry.1 != name }

def bind (name : String) (endpoint : Endpoint) (bench : Bench) : Bench :=
  let (line, network) := bench.network.bind endpoint
  let dropped := { bench with network := network }.drop name
  { dropped with names := (name, line) :: dropped.names }

/-- Gives a line a responder, in place of any it had. -/
def respondWith (name : String) (responder : Responder) (bench : Bench) : Bench :=
  match bench.line? name with
  | some line =>
    { bench with
      responders := (line, responder) :: bench.responders.filter fun entry => entry.1 != line }
  | none => bench

def disconnect (endpoint : Endpoint) (bench : Bench) : Bench :=
  { bench with network := bench.network.disconnect endpoint }

/-- Serves requests by the responders; a line without one serves none. -/
def serve : Network.Serve (List (Nat × Responder)) := fun responders line _ request =>
  match responders.lookup line with
  | some responder => (responder.responses request.tag, responders)
  | none => ([], responders)

def send (name : String) (request : Request) (dest : Endpoint) (bench : Bench) :
    Option (Except Failure Response) × Bench :=
  match bench.line? name with
  | some line =>
    let (answer, network, responders) :=
      bench.network.send serve line request dest bench.responders
    (some answer, { bench with network := network, responders := responders })
  | none => (none, bench)

def sendTwice (name : String) (request : Request) (dest : Endpoint) (bench : Bench) :
    Option (Except Failure Response × Except Failure Response) × Bench :=
  match bench.line? name with
  | some line =>
    let (answers, network, responders) :=
      bench.network.sendTwice serve line request dest bench.responders
    (some answers, { bench with network := network, responders := responders })
  | none => (none, bench)

def respond (response : Response) (dest : Endpoint) (bench : Bench) :
    Except Failure Unit × Bench :=
  match bench.network.respond response dest with
  | .ok network => (.ok (), { bench with network := network })
  | .error failure => (.error failure, bench)

end Bench
end XorOverlay
