import XorOverlay.Ident

/-!
Contacts, and the order of contacts around a target. A contact is ranked once; the pair of rank
and offset then orders contacts by distance, and every list of closest contacts in the library is
kept in that order by one insertion.
-/

set_option autoImplicit false

namespace XorOverlay

/-- A peer as another peer knows it. Without an endpoint it only stands for a place in the
identifier space. -/
structure Contact where
  id : Ident
  endpoint : Option Endpoint
  deriving DecidableEq

namespace Contact

/-- The endpoint, or question marks in its place, and the identifier. -/
def text (contact : Contact) : String :=
  let place := match contact.endpoint with
    | some endpoint => endpoint.text
    | none => "?:?"
  place ++ " - " ++ contact.id.text

def rank (a b : Contact) : Nat :=
  a.id.rank b.id

end Contact

/-- A contact with its place around a target. -/
structure Ranked where
  contact : Contact
  rank : Nat
  offset : Ident
  deriving DecidableEq

namespace Ranked

/-- Places a contact around `target`. -/
def around (target : Ident) (contact : Contact) : Ranked where
  contact := contact
  rank := contact.id.rank target
  offset := contact.id.offset target

/-- Smaller rank first, and the offset between equal ranks. -/
def compare (a b : Ranked) : Ordering :=
  (Ord.compare a.rank b.rank).then (Ord.compare a.offset.toNat b.offset.toNat)

def closer (a b : Ranked) : Bool :=
  a.compare b == .lt

/-- Two placed contacts are the same peer if they have one identifier, whatever their endpoints. -/
def samePeer (a b : Ranked) : Bool :=
  a.contact.id == b.contact.id

/-- Inserts in front of the first entry that is not closer. -/
def insert (entry : Ranked) : List Ranked → List Ranked
  | [] => [entry]
  | first :: rest =>
    if first.closer entry then first :: insert entry rest else entry :: first :: rest

/-- Closest first; entries that tie keep the order they came in. -/
def sort (entries : List Ranked) : List Ranked :=
  entries.foldr insert []

/-- Adds an entry to a list of at most `count` closest, dropping the farthest on overflow. -/
def keepClosest (count : Nat) (best : List Ranked) (entry : Ranked) : List Ranked :=
  (insert entry best).take count

end Ranked
end XorOverlay
