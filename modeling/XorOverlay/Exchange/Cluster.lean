import XorOverlay.Exchange.Network
import XorOverlay.Node.Operation

/-!
Several nodes on one network. A node acts in the scene of all the others: its requests are served
by the node whose line they reach, and the errands that arise on the way, at any node, are run
before the next operation.
-/

set_option autoImplicit false

namespace XorOverlay

/-- Nodes by the number of their line. -/
structure Cluster where
  network : Network
  nodes : List Node
  clock : Nanoseconds

namespace Cluster

/-- No nodes, at the beginning of time. -/
def empty : Cluster :=
  ⟨Network.empty, [], 0⟩

/-- Serves a request at the node of a line; a node that was killed serves none, and one without room
for an answer gives none. -/
def serve (now : Nanoseconds) : Network.Serve (List Node) := fun nodes line source request =>
  match nodes[line]? with
  | some node =>
    if node.active then
      let (response, node) := node.handle now source request
      (response.toList, nodes.set line node)
    else ([], nodes)
  | none => ([], nodes)

/-- Carries the requests of one node over the network. The acting node may itself be the one that a
request reaches. -/
def carrier (line : Nat) : Carrier Cluster := fun scene dest request =>
  let nodes := scene.outside.nodes.set line scene.node
  let (answer, network, nodes) :=
    scene.outside.network.send (serve scene.clock) line request dest nodes
  (answer,
    { scene with
      node := (nodes[line]?).getD scene.node
      outside := { scene.outside with network := network, nodes := nodes } })

def act {α : Type} (line : Nat) (action : Scene Cluster → α × Scene Cluster) (cluster : Cluster) :
    Option α × Cluster :=
  match cluster.nodes[line]? with
  | none => (none, cluster)
  | some node =>
    let (answer, scene) := action ⟨node, cluster.clock, cluster⟩
    (some answer,
      { network := scene.outside.network
        nodes := scene.outside.nodes.set line scene.node
        clock := scene.clock })

/-- The first node with an errand to run. -/
def busy? (cluster : Cluster) : Option Nat :=
  cluster.nodes.findIdx? fun node => !node.errands.isEmpty

/-- Runs the errands of all nodes, at most so many of them. -/
def runErrands : Nat → Cluster → Cluster
  | 0, cluster => cluster
  | count + 1, cluster =>
    match cluster.busy? with
    | none => cluster
    | some line =>
      runErrands count
        (cluster.act line fun scene => ((), scene.runErrand (carrier line))).2

def settle (cluster : Cluster) : Cluster :=
  cluster.runErrands Scene.errandLimit

/-- Lets one node act, and everything that follows from it run to its end. -/
def perform {α : Type} (line : Nat) (action : Carrier Cluster → Scene Cluster → α × Scene Cluster)
    (cluster : Cluster) : Option α × Cluster :=
  let (answer, cluster) := cluster.act line (action (carrier line))
  (answer, cluster.settle)

/-- Starts a node at an endpoint, taking the endpoint over from any node that was there. -/
def spawn (settings : Settings) (id : Ident) (endpoint : Endpoint) (store : Store)
    (cluster : Cluster) : Cluster :=
  let (_, network) := cluster.network.bind endpoint
  { cluster with
    network := network
    nodes := cluster.nodes ++ [Node.start settings id endpoint store cluster.clock] }

/-- Stops a node and takes its line off the network. A node is stopped once. -/
def kill (line : Nat) (cluster : Cluster) : Cluster :=
  match cluster.nodes[line]? with
  | some node =>
    if node.active then
      { cluster with
        network := cluster.network.release line
        nodes := cluster.nodes.set line node.kill }
    else cluster
  | none => cluster

def disconnect (endpoint : Endpoint) (cluster : Cluster) : Cluster :=
  { cluster with network := cluster.network.disconnect endpoint }

def wait (duration : Nanoseconds) (cluster : Cluster) : Cluster :=
  { cluster with clock := cluster.clock + duration }

end Cluster
end XorOverlay
