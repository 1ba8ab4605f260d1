import XorOverlay.Wire.Writer

/-!
Reading messages. Every field is checked against what is left before it is read, a count is
checked against all of its entries at once, and bytes behind the last field are ignored.
-/

set_option autoImplicit false

namespace XorOverlay.Wire

/-- Takes a value off the front of a packet, or says what is missing. -/
abbrev Reader (α : Type) := Octets → Except Malformed (α × Octets)

/-- The first `count` bytes. -/
def take (count : Nat) : Reader Octets := fun input =>
  if input.length < count then .error (.truncated count input.length)
  else .ok (input.take count, input.drop count)

/-- Checks that `count` bytes are left, and takes none. -/
def require (count : Nat) (input : Octets) : Except Malformed Unit :=
  if input.length < count then .error (.truncated count input.length) else .ok ()

/-- A big-endian number of `width` bytes. -/
def number (width : Nat) : Reader Nat := fun input => do
  let (digits, rest) ← take width input
  return (Octets.value digits, rest)

def readIdent : Reader Ident := fun input => do
  let (value, rest) ← number Ident.byteCount input
  return (Ident.ofNat value, rest)

/-- A byte string behind its length. -/
def readBytes : Reader Octets := fun input => do
  let (length, rest) ← number 4 input
  take length rest

/-- A flag: any byte but zero is set. -/
def readFlag : Reader Bool := fun input => do
  let (value, rest) ← number 1 input
  return (value != 0, rest)

/-- A contact. All of its bytes must be there before any is read. -/
def readContact : Reader Contact := fun input => do
  let (entry, rest) ← take contactLength input
  let id := Ident.ofNat (Octets.value (entry.take 20))
  let host := UInt32.ofNat (Octets.value ((entry.drop 20).take 4))
  let port := UInt16.ofNat (Octets.value (entry.drop 24))
  return (⟨id, some (.v4 host port)⟩, rest)

def readContactEntries : Nat → Reader (List Contact)
  | 0, input => .ok ([], input)
  | count + 1, input => do
    let (first, rest) ← readContact input
    let (others, rest) ← readContactEntries count rest
    return (first :: others, rest)

/-- A contact list behind its count. -/
def readContacts : Reader (List Contact) := fun input => do
  let (count, rest) ← number 4 input
  require (count * contactLength) rest
  readContactEntries count rest

/-- The fields of a query of the given type byte, if that is a request's. -/
def readQuery? (kind : UInt8) : Option (Reader Query) :=
  if kind = 0x01 then some fun input => .ok (.ping, input)
  else if kind = 0x02 then some fun input => do
    let (key, rest) ← readBytes input
    let (value, rest) ← readBytes rest
    return (.store key value, rest)
  else if kind = 0x03 then some fun input => do
    let (target, rest) ← readIdent input
    return (.findNode target, rest)
  else if kind = 0x04 then some fun input => do
    let (key, rest) ← readBytes input
    return (.findValue key, rest)
  else none

/-- The fields of a reply of the given type byte, if that is a response's. -/
def readReply? (kind : UInt8) : Option (Reader Reply) :=
  if kind = 0x11 then some fun input => do
    let (id, rest) ← readIdent input
    return (.pong id, rest)
  else if kind = 0x12 then some fun input => do
    let (accepted, rest) ← readFlag input
    return (.stored accepted, rest)
  else if kind = 0x13 then some fun input => do
    let (peers, rest) ← readContacts input
    return (.nodes peers, rest)
  else if kind = 0x14 then some fun input => do
    let (found, rest) ← readFlag input
    if found then
      let (value, rest) ← readBytes rest
      return (.found value, rest)
    else
      let (peers, rest) ← readContacts rest
      return (.closest peers, rest)
  else none

def readHeader (packet : Octets) : Except Malformed (UInt8 × Tag × Octets) := do
  let (header, rest) ← take 5 packet
  return (header.headD 0, UInt32.ofNat (Octets.value (header.drop 1)), rest)

def decode (packet : Octets) : Except Malformed Message := do
  let (kind, tag, rest) ← readHeader packet
  match readQuery? kind with
  | some readQuery =>
    let (sender, rest) ← readContact rest
    let (query, _) ← readQuery rest
    return .request ⟨tag, sender, query⟩
  | none =>
    match readReply? kind with
    | some readReply =>
      let (reply, _) ← readReply rest
      return .response ⟨tag, reply⟩
    | none => .error (.unknownKind kind)

end XorOverlay.Wire
