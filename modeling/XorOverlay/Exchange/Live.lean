import XorOverlay.Exchange.Datagram
import XorOverlay.Sha1

/-!
A node whose peers answer while the program runs. An operation of the node stays a function: it is
run over the passages that have taken place so far, and where a passage is missing it says what it
wants sent. Whoever runs the program sends it, takes down what arrives until the response is there
or the time is up, and runs the operation again over one passage more. The operation is done once it
wants nothing.
-/

set_option autoImplicit false

namespace XorOverlay.Live

/-- A datagram, where it came from, and how long after the start of a passage. -/
structure Arrival where
  after : Nanoseconds
  source : Endpoint
  packet : Octets
  deriving DecidableEq

/-- What became of one request. -/
inductive Passage where
  | refused (reason : String)
  /-- It was sent, and so much arrived while its response was waited for. -/
  | waited (arrivals : List Arrival) (duration : Nanoseconds)
  deriving DecidableEq

/-- A request that is to be sent, and the node that waits for its response. -/
structure Want where
  dest : Endpoint
  request : Request
  packet : Octets
  node : Node
  begun : Nanoseconds
  deriving DecidableEq

/-- The passages an operation has still ahead, and what it wants when none is left. -/
structure Course where
  ahead : List Passage
  wanted : Option Want
  deriving DecidableEq

/-- The response a datagram brings to whoever waits for a tag. -/
def responseTo? (tag : Tag) (packet : Octets) : Option Response :=
  match Wire.decode packet with
  | .ok (.response response) => if response.tag = tag then some response else none
  | _ => none

def firstResponse? (tag : Tag) (arrivals : List Arrival) : Option Response :=
  arrivals.findSome? fun arrival => responseTo? tag arrival.packet

/-- Takes in what arrived while a response was waited for. The requests among it are answered by
the node as it then is. -/
def takeIn (begun : Nanoseconds) (arrivals : List Arrival) (scene : Scene Course) : Scene Course :=
  arrivals.foldl
    (fun scene arrival =>
      (Datagram.answer arrival.source arrival.packet
        { scene with clock := begun + arrival.after }).2)
    scene

/-- Carries a request by the passage that took place for it. Once something is wanted, no request
gets anywhere. -/
def carrier : Carrier Course := fun scene dest request =>
  match scene.outside.wanted, Wire.encode (.request request), scene.outside.ahead with
  | some _, _, _ => (.error .timedOut, scene)
  | none, .error failure, _ => (.error failure, scene)
  | none, .ok packet, [] =>
    (.error .timedOut,
      { scene with
        outside := ⟨[], some ⟨dest, request, packet, scene.node, scene.clock⟩⟩ })
  | none, .ok _, .refused reason :: ahead =>
    (.error (.transport reason), { scene with outside := ⟨ahead, none⟩ })
  | none, .ok _, .waited arrivals duration :: ahead =>
    let later := takeIn scene.clock arrivals { scene with outside := ⟨ahead, none⟩ }
    let answer := match firstResponse? request.tag arrivals with
      | some response => .ok response
      | none => .error .timedOut
    (answer, { later with clock := scene.clock + duration })

/-- Runs an operation over some passages: it is done, or it wants something sent. -/
def attempt {α : Type} (operation : Carrier Course → Scene Course → α × Scene Course)
    (passages : List Passage) (node : Node) (now : Nanoseconds) : Except Want (α × Node) :=
  let (answer, scene) := operation carrier ⟨node, now, ⟨passages, none⟩⟩
  match scene.outside.wanted with
  | some want => .error want
  | none => .ok (answer, scene.node)

/-- The answer to a datagram that arrives while a request is under way, and the want of the node as
it is then. -/
def Want.answer (want : Want) (arrival : Arrival) : Option Octets × Want :=
  let (reply, scene) := Datagram.answer arrival.source arrival.packet
    ({ node := want.node, clock := want.begun + arrival.after, outside := () } : Scene Unit)
  (reply, { want with node := scene.node })

/-- Random numbers below `2 ^ 160` from a random seed: the digests of the seed and a count. -/
def draw (seed : Octets) (count : Nat) : Nat :=
  (Ident.digestOctets (seed ++ Octets.bigEndian 8 count)).toNat

end XorOverlay.Live
