import XorOverlay.Contact

/-!
The messages peers exchange. A request carries its sender and a query, a response carries a reply,
and both carry the tag that pairs them.
-/

set_option autoImplicit false

namespace XorOverlay

/-- Pairs a response with the request it answers. -/
abbrev Tag := UInt32

/-- What a request asks for. -/
inductive Query where
  /-- Is anyone there? -/
  | ping
  /-- Keep a value under a key. -/
  | store (key value : Octets)
  /-- Which contacts are closest to an identifier? -/
  | findNode (target : Ident)
  /-- What is stored under a key, or else which contacts are closest to it? -/
  | findValue (key : Octets)
  deriving DecidableEq

/-- What a response reports. -/
inductive Reply where
  /-- The identifier of the peer that was pinged. -/
  | pong (id : Ident)
  /-- Whether a value was accepted. -/
  | stored (accepted : Bool)
  /-- The contacts closest to the identifier asked for. -/
  | nodes (contacts : List Contact)
  | found (value : Octets)
  /-- No value, but the contacts closest to its key. -/
  | closest (contacts : List Contact)
  deriving DecidableEq

/-- A query on its way to a peer. -/
structure Request where
  tag : Tag
  sender : Contact
  query : Query
  deriving DecidableEq

/-- A reply on its way back. -/
structure Response where
  tag : Tag
  reply : Reply
  deriving DecidableEq

/-- Either direction. -/
inductive Message where
  | request (request : Request)
  | response (response : Response)
  deriving DecidableEq

/-- A query without its arguments. -/
inductive Query.Kind where
  | ping
  | store
  | findNode
  | findValue
  deriving DecidableEq

def Query.kind : Query → Query.Kind
  | .ping => .ping
  | .store _ _ => .store
  | .findNode _ => .findNode
  | .findValue _ => .findValue

/-- The contacts a message writes down, in the order it writes them. -/
def Message.contacts : Message → List Contact
  | .request asked => [asked.sender]
  | .response answered =>
    match answered.reply with
    | .nodes contacts => contacts
    | .closest contacts => contacts
    | _ => []

end XorOverlay
