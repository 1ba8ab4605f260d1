import XorOverlay.Exchange.Pending
import XorOverlay.Wire.Reader

/-!
A network inside one process. Lines are bound to endpoints; binding an endpoint again takes it over
from the line bound there before. Packets go through the wire format in both directions, and one
sent to an endpoint without a line fails at once. A request is served where it arrives by a function
that the user of the network supplies.
-/

set_option autoImplicit false

namespace XorOverlay

/-- One attachment to the network. -/
structure Line where
  endpoint : Endpoint
  pending : Pending
  deriving DecidableEq

/-- All lines ever bound, by number, and which of them packets to an endpoint reach. -/
structure Network where
  lines : List Line
  bindings : List (Endpoint × Nat)
  deriving DecidableEq

namespace Network

def empty : Network :=
  ⟨[], []⟩

/-- Makes an endpoint unreachable until it is bound again. -/
def disconnect (endpoint : Endpoint) (network : Network) : Network :=
  { network with bindings := network.bindings.filter fun binding => binding.1 != endpoint }

def bind (endpoint : Endpoint) (network : Network) : Nat × Network :=
  let freed := network.disconnect endpoint
  (freed.lines.length,
    { lines := freed.lines ++ [⟨endpoint, Pending.empty⟩]
      bindings := (endpoint, freed.lines.length) :: freed.bindings })

/-- Takes a line off the network, when it is closed or dropped. Its endpoint stays with a line that
took it over. -/
def release (line : Nat) (network : Network) : Network :=
  { network with bindings := network.bindings.filter fun binding => binding.2 != line }

def route (endpoint : Endpoint) (network : Network) : Option Nat :=
  network.bindings.lookup endpoint

def endpoint? (line : Nat) (network : Network) : Option Endpoint :=
  (network.lines[line]?).map Line.endpoint

/-- The packet of a message and the line it reaches. A message that cannot be written fails before
its destination is looked at. -/
def deliver (message : Message) (dest : Endpoint) (network : Network) :
    Except Failure (Octets × Nat) :=
  match Wire.encode message with
  | .error failure => .error failure
  | .ok packet =>
    match network.route dest with
    | some line => .ok (packet, line)
    | none => .error (Failure.unreachable dest)

def mapPending (line : Nat) (change : Pending → Pending) (network : Network) : Network :=
  { network with
    lines := network.lines.modify line fun held => { held with pending := change held.pending } }

def register (line : Nat) (tag : Tag) (network : Network) : Caller × Network :=
  match network.lines[line]? with
  | some held => ((held.pending.register tag).1,
      network.mapPending line fun pending => (pending.register tag).2)
  | none => (0, network)

def finish (line : Nat) (caller : Caller) (tag : Tag) (network : Network) :
    Except Failure Response × Network :=
  match network.lines[line]? with
  | some held => (held.pending.outcome caller,
      network.mapPending line fun pending => (pending.finish caller tag).2)
  | none => (.error .timedOut, network)

/-- Stops waiting after a request that could not be sent. -/
def withdraw (line : Nat) (caller : Caller) (tag : Tag) (network : Network) : Network :=
  network.mapPending line fun pending => pending.withdraw caller tag

/-- Sends a response to an endpoint. It is lost on a line where nobody waits for it. -/
def respond (response : Response) (dest : Endpoint) (network : Network) :
    Except Failure Network :=
  match network.deliver (.response response) dest with
  | .error failure => .error failure
  | .ok (packet, line) =>
    match Wire.decode packet with
    | .ok (.response received) =>
      .ok (network.mapPending line fun pending => (pending.complete received).2)
    | _ => .ok network

/-- Sends responses one after another; those that cannot be sent are lost. -/
def respondAll (responses : List Response) (dest : Endpoint) (network : Network) : Network :=
  responses.foldl
    (fun network response =>
      match network.respond response dest with
      | .ok network => network
      | .error _ => network)
    network

/-- Serves the requests that reach a line: the responses, and what becomes of the server. -/
abbrev Serve (γ : Type) := γ → Nat → Endpoint → Request → List Response × γ

/-- Takes a request from a line to an endpoint and lets it be served there. -/
def transmit {γ : Type} (serve : Serve γ) (line : Nat) (request : Request) (dest : Endpoint)
    (network : Network) (server : γ) : Except Failure (Network × γ) :=
  match network.endpoint? line, network.deliver (.request request) dest with
  | _, .error failure => .error failure
  | none, .ok _ => .ok (network, server)
  | some source, .ok (packet, receiver) =>
    match Wire.decode packet with
    | .ok (.request received) =>
      let (responses, server) := serve server receiver source received
      .ok (network.respondAll responses source, server)
    | _ => .ok (network, server)

/-- Sends a request from a line and waits for its response. -/
def send {γ : Type} (serve : Serve γ) (line : Nat) (request : Request) (dest : Endpoint)
    (network : Network) (server : γ) : Except Failure Response × Network × γ :=
  let (caller, network) := network.register line request.tag
  match network.transmit serve line request dest server with
  | .error failure =>
    (.error failure, network.withdraw line caller request.tag, server)
  | .ok (network, server) =>
    let (answer, network) := network.finish line caller request.tag
    (answer, network, server)

end Network
end XorOverlay
