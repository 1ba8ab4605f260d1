import XorOverlay.Node.Operation
import XorOverlay.Wire.Reader

/-!
A node on a datagram socket: one message a datagram. Requests are answered where they came from;
malformed datagrams, and responses nobody waits for, are dropped. Whether datagrams get through at
all is up to the link.
-/

set_option autoImplicit false

namespace XorOverlay.Datagram

/-- The state of the way between two sockets. -/
inductive Link where
  | up
  /-- Sending fails, for a reason. -/
  | down (reason : String)
  deriving DecidableEq

/-- A host on which no route leads anywhere, the loopback interface included. -/
def Link.noRoute : Link :=
  .down "Network is unreachable (os error 101)"

/-- The longest datagram. -/
def maxLength : Nat := 65507

variable {ε : Type}

def answer (source : Endpoint) (packet : Octets) (scene : Scene ε) : Option Octets × Scene ε :=
  match Wire.decode packet with
  | .ok (.request request) =>
    match scene.receive source request with
    | (.answered response, scene) => ((Wire.encode (.response response)).toOption, scene)
    | (_, scene) => (none, scene)
  | _ => (none, scene)

/-- Sends datagrams from one socket to a node, one after another, and collects what is sent back.
The errands that arise are run in between. -/
def converse (link : Link) (carrier : Carrier ε) (source : Endpoint) :
    List Octets → Scene ε → Except String (List (Option Octets)) × Scene ε
  | [], scene => (.ok [], scene)
  | packet :: rest, scene =>
    match link with
    | .down reason => (.error reason, scene)
    | .up =>
      let (reply, scene) := answer source packet scene
      let (replies, scene) := converse link carrier source rest (scene.settle carrier)
      (replies.map fun replies => reply :: replies, scene)

/-- Carries requests over a link: as usual while it is up, and not at all otherwise. -/
def across (link : Link) (carrier : Carrier ε) : Carrier ε := fun scene dest request =>
  match link, Wire.encode (.request request) with
  | .up, _ => carrier scene dest request
  | .down _, .error failure => (.error failure, scene)
  | .down reason, .ok _ => (.error (.transport reason), scene)

end XorOverlay.Datagram
