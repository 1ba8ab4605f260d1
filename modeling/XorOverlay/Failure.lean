import XorOverlay.Endpoint

/-!
What can go wrong, by cause, and the one place where each cause is put into words.
-/

set_option autoImplicit false

namespace XorOverlay

/-- Why a packet is not a message. -/
inductive Malformed where
  | unknownKind (kind : UInt8)
  /-- A field needs more bytes than are left. -/
  | truncated (needed left : Nat)
  deriving DecidableEq

/-- The failures a caller can see. -/
inductive Failure where
  /-- A byte string of the wrong length was offered as an identifier. -/
  | invalidIdentity (length : Nat)
  | malformed (reason : Malformed)
  | timedOut
  | transport (reason : String)
  /-- The wire format has no room for this endpoint, or a contact has none. -/
  | unsupportedAddress (endpoint : Option Endpoint)
  /-- A listed entry outlived its lifetime before it was read. -/
  | expired
  deriving DecidableEq

namespace Malformed

/-- The wording of a decoding failure; the type byte is written with two hexadecimal digits. -/
def text : Malformed → String
  | .unknownKind kind =>
    "unknown message type 0x" ++
      String.ofList [Nat.digitChar (kind.toNat / 16), Nat.digitChar (kind.toNat % 16)]
  | .truncated needed left =>
    "truncated message: needed " ++ toString needed ++ " more bytes, " ++ toString left ++ " left"

end Malformed

namespace Failure

def text : Failure → String
  | .invalidIdentity length => "Invalid identity: expected 20 bytes, got " ++ toString length
  | .malformed reason => "Malformed message: " ++ reason.text
  | .timedOut => "RPC timed out"
  | .transport reason => "Transport failure: " ++ reason
  | .unsupportedAddress none => "Unsupported address: None"
  | .unsupportedAddress (some endpoint) => "Unsupported address: Some(" ++ endpoint.text ++ ")"
  | .expired => "Storage entry expired during iteration"

def unreachable (endpoint : Endpoint) : Failure :=
  .transport (endpoint.text ++ " is unreachable")

/-- Another caller took over the message tag this caller was waiting on. -/
def abandoned : Failure :=
  .transport "request abandoned"

end Failure
end XorOverlay
