import XorOverlay.Message
import XorOverlay.Quorum
import XorOverlay.Routing.Table
import XorOverlay.Settings
import XorOverlay.Store

/-!
One node: its name, what it knows, what it keeps, and the errands it still has to run. A node
learns of a peer when that peer asks or answers; a peer it has not known so far is welcomed, and
the stored pairs that are now the newcomer's to hold are sent to it as errands.
-/

set_option autoImplicit false

namespace XorOverlay

/-- A value to be stored at a contact when the node next has time for it. -/
structure Errand where
  dest : Contact
  key : Octets
  value : Octets
  deriving DecidableEq

/-- The state of a node. -/
structure Node where
  id : Ident
  endpoint : Endpoint
  width : Nat
  parallelism : Nat
  refreshInterval : Nanoseconds
  /-- How many contacts there is room to gather at once, if that is limited. -/
  room : Option Nat
  table : Table
  store : Store
  quorum : Quorum
  active : Bool
  lastTag : Tag
  errands : List Errand
  deriving DecidableEq

namespace Node

/-- A fresh node named `id` at `endpoint`. -/
def start (settings : Settings) (id : Ident) (endpoint : Endpoint) (store : Store)
    (now : Nanoseconds) : Node where
  id := id
  endpoint := endpoint
  width := settings.width
  parallelism := settings.parallelism
  refreshInterval := settings.refreshInterval
  room := settings.room
  table := Table.empty id settings.width now
  store := store
  quorum := Quorum.start settings.quorum.1 settings.quorum.2.1 settings.quorum.2.2
    Quorum.defaultInterval now
  active := true
  lastTag := 0
  errands := []

/-- The node as its peers know it. -/
def contact (node : Node) : Contact :=
  ⟨node.id, some node.endpoint⟩

def canGather (count : Nat) (node : Node) : Bool :=
  match node.room with
  | none => true
  | some room => decide (count ≤ room) || count == Settings.unbounded

/-- The known contacts closest to an identifier, if there is room to gather them. Whoever asks for them
without room for them does not come back. -/
def neighbours? (target : Ident) (count : Nat) (node : Node) : Option (List Contact) :=
  if node.canGather count then some (node.table.closest target count none) else none

/-- The known contacts closest to an identifier, where it makes no difference whether there are none or
there is no room to gather them. -/
def neighbours (target : Ident) (count : Nat) (node : Node) : List Contact :=
  (node.neighbours? target count).getD []

theorem neighbours_eq (target : Ident) (count : Nat) (node : Node) :
    node.neighbours target count =
      if node.canGather count then node.table.closest target count none else [] := by
  rw [neighbours, neighbours?]
  cases node.canGather count with
  | false => rfl
  | true => rfl

/-- Whether a stored key is now a newcomer's to hold: the newcomer is closer to it than the
farthest of the closest known contacts, and the node itself is closer than the closest of them. -/
def handsOver (newcomer : Ident) (key : Ident) (node : Node) : Bool :=
  let neighbours := node.neighbours key node.width
  match neighbours.head?, neighbours.getLast? with
  | some nearest, some farthest =>
    decide (newcomer.rank key < farthest.id.rank key) &&
      decide (node.id.rank key < nearest.id.rank key)
  | _, _ => false

/-- Whether the neighbours of a stored key have to be gathered to decide who is to hold it. Keys
that are no identifiers have none. -/
def hasNeighbours (key : Octets) : Bool :=
  key.length == Ident.byteCount

/-- The stored pairs that are handed over to a newcomer. Keys that are no identifiers stay. There is
no answer if neighbours have to be gathered and there is no room for them. -/
def handovers? (now : Nanoseconds) (newcomer : Ident) (node : Node) :
    Option (List (Octets × Octets)) :=
  let contents := node.store.contents now
  if node.canGather node.width || !contents.any fun entry => hasNeighbours entry.1 then
    some (contents.filter fun entry =>
      match Ident.ofOctets entry.1 with
      | .ok key => node.handsOver newcomer key
      | .error _ => false)
  else none

/-- Learns of a peer that was heard from. One without an endpoint and the node itself are ignored.
What a newcomer is handed is settled before it joins the table; where that cannot be settled, the
newcomer cannot be taken in. -/
def welcome? (now : Nanoseconds) (peer : Contact) (node : Node) : Option Node :=
  if peer.endpoint.isNone || peer.id == node.id then some node
  else
    let known := { node with table := (node.table.add now peer).1 }
    if node.table.knows peer.id then some known
    else
      (node.handovers? now peer.id).map fun entries =>
        { known with
          errands := node.errands ++ entries.map fun entry => ⟨peer, entry.1, entry.2⟩ }

def forget (id : Ident) (node : Node) : Node :=
  { node with table := (node.table.remove id).1 }

def keep (now : Nanoseconds) (key value : Octets) (node : Node) : Node :=
  { node with store := node.store.put now key value }

/-- The contacts offered to a requester, itself left out, if there is room to gather them. -/
def offered? (target requester : Ident) (node : Node) : Option (List Contact) :=
  if node.canGather node.width then
    some (node.table.closest target node.width (some requester))
  else none

/-- Answers one query of a requester, unless there is no room for the answer. -/
def reply (now : Nanoseconds) (requester : Ident) (query : Query) (node : Node) :
    Option Reply × Node :=
  match query with
  | .ping => (some (.pong node.id), node)
  | .store key value => (some (.stored true), node.keep now key value)
  | .findNode target => ((node.offered? target requester).map .nodes, node)
  | .findValue key =>
    let (value, store) := node.store.get now key
    let read := { node with store := store }
    match value with
    | some value => (some (.found value), read)
    | none =>
      match Ident.ofOctets key with
      | .ok target => ((node.offered? target requester).map .closest, read)
      | .error _ => (some (.closest []), read)

/-- Answers a request that came from an endpoint. The sender is welcomed first, under the endpoint
its packet came from. Where the sender cannot be taken in, or there is no room for the answer, the
request is dropped. -/
def handle (now : Nanoseconds) (source : Endpoint) (request : Request) (node : Node) :
    Option Response × Node :=
  match node.welcome? now ⟨request.sender.id, some source⟩ with
  | none => (none, node)
  | some welcomed =>
    let (reply, node) := welcomed.reply now request.sender.id request.query
    (reply.map fun reply => ⟨request.tag, reply⟩, node)

def report (now latency : Nanoseconds) (success : Bool) (node : Node) : Node :=
  { node with quorum := node.quorum.record now latency success }

def kill (node : Node) : Node :=
  { node with active := false }

end Node
end XorOverlay
