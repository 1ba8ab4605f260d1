/-!
Where a peer can be reached. The wire format has room for IPv4 hosts alone, so those are taken
apart here; every other endpoint is carried as the text it was given, which is all that an error
report needs of it.
-/

set_option autoImplicit false

namespace XorOverlay

/-- A host and a port. -/
inductive Endpoint where
  /-- An IPv4 host, the first of its four parts in the high byte, and a port. -/
  | v4 (host : UInt32) (port : UInt16)
  /-- Any endpoint that is not IPv4, known by its text. -/
  | other (text : String)
  deriving DecidableEq

namespace Endpoint

def hostOfParts (a b c d : Nat) : UInt32 :=
  UInt32.ofNat (((a * 256 + b) * 256 + c) * 256 + d)

/-- The endpoint `a.b.c.d:port`. -/
def ofParts (a b c d port : Nat) : Endpoint :=
  .v4 (hostOfParts a b c d) (UInt16.ofNat port)

def hostText (host : UInt32) : String :=
  let number := host.toNat
  toString (number / 16777216) ++ "." ++ toString (number / 65536 % 256) ++ "." ++
    toString (number / 256 % 256) ++ "." ++ toString (number % 256)

/-- The text of an endpoint: the host, a colon and the port. -/
def text : Endpoint → String
  | .v4 host port => hostText host ++ ":" ++ toString port.toNat
  | .other text => text

/-- The number that decimal digits spell. Nothing but digits will do, and there must be one. -/
def decimal? : List Char → Option Nat
  | [] => none
  | digits =>
    if digits.all fun c => decide ('0' ≤ c ∧ c ≤ '9') then
      some (digits.foldl (fun number c => number * 10 + (c.toNat - 48)) 0)
    else none

/-- The pieces of a text between the occurrences of a separator, empty pieces included. -/
def pieces (separator : Char) (text : List Char) : List (List Char) :=
  text.foldr
    (fun c parts =>
      if c = separator then [] :: parts
      else match parts with
        | [] => [[c]]
        | part :: rest => (c :: part) :: rest)
    [[]]

/-- One part of a dotted host: at most three digits, at most 255, and no leading zero. -/
def hostPart? (digits : List Char) : Option Nat :=
  if 3 < digits.length ∨ (1 < digits.length ∧ digits.head? = some '0') then none
  else (decimal? digits).filter (· ≤ 255)

def host? (text : List Char) : Option UInt32 :=
  match (pieces '.' text).map hostPart? with
  | [some a, some b, some c, some d] => some (hostOfParts a b c d)
  | _ => none

def port? (digits : List Char) : Option UInt16 :=
  ((decimal? digits).filter (· ≤ 65535)).map UInt16.ofNat

/-- Reads `a.b.c.d:port`. -/
def v4? (text : String) : Option Endpoint :=
  match pieces ':' text.toList with
  | [hostDigits, portDigits] => do
    let host ← host? hostDigits
    let port ← port? portDigits
    return .v4 host port
  | _ => none

/-- The endpoint a text stands for: taken apart if it is IPv4, kept whole otherwise. -/
def ofText (text : String) : Endpoint :=
  (v4? text).getD (.other text)

end Endpoint
end XorOverlay
