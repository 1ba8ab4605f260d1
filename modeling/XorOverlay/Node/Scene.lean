import XorOverlay.Lookup.NodeSearch
import XorOverlay.Lookup.ValueSearch
import XorOverlay.Node.State
import XorOverlay.Wire.Writer

/-!
A node among its surroundings. What lies between the node and its peers is a `Carrier`: it takes a
request to an endpoint and comes back with a response or a failure, while time passes and anything
else may happen. Every call of a node goes through one function, which also keeps the table in step
with what was heard: who answers is welcomed, who fails is forgotten.
-/

set_option autoImplicit false

namespace XorOverlay

/-- A node, the time, and everything else. -/
structure Scene (ε : Type) where
  node : Node
  clock : Nanoseconds
  outside : ε

/-- Takes a request to an endpoint. -/
abbrev Carrier (ε : Type) :=
  Scene ε → Endpoint → Request → Except Failure Response × Scene ε

/-- What becomes of an inbound request. -/
inductive Reception where
  | unattended
  | dropped
  | answered (response : Response)
  /-- There is a response, but it cannot be written. -/
  | unwritable (failure : Failure)
  deriving DecidableEq

/-- What becomes of a call. -/
inductive Called (α : Type) where
  | answered (value : α)
  /-- There was no answer, or not one of the kind asked for. -/
  | failed
  /-- There was an answer, but there was no room to take it in. -/
  | lost
  deriving DecidableEq

/-- Picks out what was asked for; a call that brought anything else has failed. -/
def Called.pick {α β : Type} (choose : α → Option β) : Called α → Called β
  | .answered value =>
    match choose value with
    | some chosen => .answered chosen
    | none => .failed
  | .failed => .failed
  | .lost => .lost

namespace Scene

variable {ε : Type}

def mapNode (change : Node → Node) (scene : Scene ε) : Scene ε :=
  { scene with node := change scene.node }

def receive (source : Endpoint) (request : Request) (scene : Scene ε) : Reception × Scene ε :=
  if scene.node.active then
    let (response, node) := scene.node.handle scene.clock source request
    let reception := match response with
      | none => .dropped
      | some response =>
        match Wire.encode (.response response) with
        | .ok _ => .answered response
        | .error failure => .unwritable failure
    (reception, { scene with node := node })
  else (.unattended, scene)

/-- Sends a query to a contact and waits. A pong is an answer of the peer it names, any other
response one of the contact that was asked. -/
def call (carrier : Carrier ε) (dest : Contact) (query : Query) (scene : Scene ε) :
    Called Reply × Scene ε :=
  match dest.endpoint with
  | none => (.failed, scene)
  | some endpoint =>
    let tag := scene.node.lastTag + 1
    let request : Request := ⟨tag, scene.node.contact, query⟩
    let sending := scene.mapNode fun node => { node with lastTag := tag }
    let (answer, scene) := carrier sending endpoint request
    match answer with
    | .ok response =>
      let responder := match response.reply with
        | .pong id => ⟨id, some endpoint⟩
        | _ => dest
      match scene.node.welcome? scene.clock responder with
      | some node => (.answered response.reply, { scene with node := node })
      | none => (.lost, scene)
    | .error _ => (.failed, scene.mapNode fun node => node.forget dest.id)

def ping (carrier : Carrier ε) (dest : Contact) (scene : Scene ε) : Called Ident × Scene ε :=
  let (called, scene) := scene.call carrier dest .ping
  (called.pick fun reply =>
    match reply with
    | .pong id => some id
    | _ => none, scene)

/-- Asks a contact to keep a value, and learns whether it did. -/
def storeAt (carrier : Carrier ε) (dest : Contact) (key value : Octets) (scene : Scene ε) :
    Called Bool × Scene ε :=
  let (called, scene) := scene.call carrier dest (.store key value)
  (called.pick fun reply =>
    match reply with
    | .stored accepted => some accepted
    | _ => none, scene)

/-- Asks a contact for the contacts it knows closest to a target. -/
def findNode (carrier : Carrier ε) (target : Ident) (dest : Contact) (scene : Scene ε) :
    Called (List Contact) × Scene ε :=
  let (called, scene) := scene.call carrier dest (.findNode target)
  (called.pick fun reply =>
    match reply with
    | .nodes contacts => some contacts
    | _ => none, scene)

def findValue (carrier : Carrier ε) (key : Ident) (dest : Contact) (scene : Scene ε) :
    Called Lookup.Finding × Scene ε :=
  let (called, scene) := scene.call carrier dest (.findValue key.octets)
  (called.pick fun reply =>
    match reply with
    | .found value => some (.found value)
    | .closest contacts => some (.closest contacts)
    | _ => none, scene)

/-- Makes the same call to several contacts, and pairs each with what it brought, or with nothing if
it failed. Calls that were lost are not among them. -/
def each {α : Type} (call : Contact → Scene ε → Called α × Scene ε) :
    List Contact → Scene ε → List (Contact × Option α) × Scene ε
  | [], scene => ([], scene)
  | dest :: rest, scene =>
    let (called, scene) := call dest scene
    let (others, scene) := each call rest scene
    match called with
    | .answered value => ((dest, some value) :: others, scene)
    | .failed => ((dest, none) :: others, scene)
    | .lost => (others, scene)

def lookup (carrier : Carrier ε) (target : Ident) (seeds : List Contact) (scene : Scene ε) :
    List Contact × Scene ε :=
  Lookup.findNodes scene.node.id (fun scene probes => each (findNode carrier target) probes scene)
    target scene.node.width scene.node.parallelism seeds scene

/-- Searches the value of a key. A repair becomes an errand of the node. -/
def lookupValue (carrier : Carrier ε) (key : Ident) (seeds : List Contact) (scene : Scene ε) :
    Option Octets × Scene ε :=
  let (hit, scene) := Lookup.findValue scene.node.id
    (fun scene probes => each (findValue carrier key) probes scene)
    key scene.node.width scene.node.parallelism seeds scene
  match hit with
  | none => (none, scene)
  | some ⟨value, none⟩ => (some value, scene)
  | some ⟨value, some peer⟩ =>
    (some value, scene.mapNode fun node =>
      { node with errands := node.errands ++ [⟨peer, key.octets, value⟩] })

def runErrand (carrier : Carrier ε) (scene : Scene ε) : Scene ε :=
  match scene.node.errands with
  | [] => scene
  | errand :: rest =>
    ((scene.mapNode fun node => { node with errands := rest }).storeAt carrier
      errand.dest errand.key errand.value).2

/-- Runs errands until none are left, at most so many of them. -/
def runErrands (carrier : Carrier ε) : Nat → Scene ε → Scene ε
  | 0, scene => scene
  | count + 1, scene =>
    if scene.node.errands.isEmpty then scene
    else runErrands carrier count (scene.runErrand carrier)

/-- More errands than a node comes to have at once. -/
def errandLimit : Nat := 100000

def settle (carrier : Carrier ε) (scene : Scene ε) : Scene ε :=
  scene.runErrands carrier errandLimit

end Scene
end XorOverlay
