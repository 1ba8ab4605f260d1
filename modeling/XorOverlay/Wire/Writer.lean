import XorOverlay.Message

/-!
Writing messages. A packet is a type byte, the four bytes of the tag, and the fields of its kind;
a request writes its sender in front of them. Numbers are big-endian, byte strings and contact
lists are preceded by their length, and only IPv4 contacts can be written.
-/

set_option autoImplicit false

namespace XorOverlay.Wire

/-- A byte string behind its four-byte length. -/
def bytes (data : Octets) : Octets :=
  Octets.bigEndian 4 data.length ++ data

/-- The number of bytes of a written contact: identifier, host and port. -/
def contactLength : Nat := 26

/-- A contact: twenty bytes of identifier, four of host, two of port. -/
def contact (peer : Contact) : Except Failure Octets :=
  match peer.endpoint with
  | some (.v4 host port) =>
    .ok (peer.id.octets ++ Octets.bigEndian 4 host.toNat ++ Octets.bigEndian 2 port.toNat)
  | endpoint => .error (.unsupportedAddress endpoint)

/-- Contacts one after another; the first that cannot be written is the failure reported. -/
def contactEntries : List Contact → Except Failure Octets
  | [] => .ok []
  | peer :: rest => do
    let first ← contact peer
    let others ← contactEntries rest
    return first ++ others

/-- A contact list behind its four-byte count. -/
def contacts (peers : List Contact) : Except Failure Octets := do
  let entries ← contactEntries peers
  return Octets.bigEndian 4 peers.length ++ entries

/-- The type byte of a request. -/
def queryKind : Query → UInt8
  | .ping => 0x01
  | .store _ _ => 0x02
  | .findNode _ => 0x03
  | .findValue _ => 0x04

/-- The type byte of a response; both answers to a value request share one. -/
def replyKind : Reply → UInt8
  | .pong _ => 0x11
  | .stored _ => 0x12
  | .nodes _ => 0x13
  | .found _ => 0x14
  | .closest _ => 0x14

def query : Query → Octets
  | .ping => []
  | .store key value => bytes key ++ bytes value
  | .findNode target => target.octets
  | .findValue key => bytes key

/-- The fields of a reply. The answers to a value request differ in a leading flag byte. -/
def reply : Reply → Except Failure Octets
  | .pong id => .ok id.octets
  | .stored accepted => .ok [if accepted then 1 else 0]
  | .nodes peers => contacts peers
  | .found value => .ok (1 :: bytes value)
  | .closest peers => do
    let fields ← contacts peers
    return 0 :: fields

/-- Writes a message. The only failure is a contact without an IPv4 endpoint. -/
def encode : Message → Except Failure Octets
  | .request request => do
    let sender ← contact request.sender
    return queryKind request.query ::
      (Octets.bigEndian 4 request.tag.toNat ++ sender ++ query request.query)
  | .response response => do
    let fields ← reply response.reply
    return replyKind response.reply :: (Octets.bigEndian 4 response.tag.toNat ++ fields)

end XorOverlay.Wire
