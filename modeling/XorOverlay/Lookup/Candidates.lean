import XorOverlay.Contact

/-!
The candidates of one lookup: every contact it has heard of, closest to the target first, of which
only the closest few count. A contact that failed to answer is dropped for good, so a later report
of it does not bring it back.
-/

set_option autoImplicit false

namespace XorOverlay

/-- The contacts a lookup has heard of. -/
structure Candidates where
  target : Ident
  /-- How many of the closest candidates count. -/
  width : Nat
  ranked : List Ranked
  contacted : List Ident
  removed : List Ident
  deriving DecidableEq

namespace Candidates

def empty (target : Ident) (width : Nat) : Candidates :=
  ⟨target, width, [], [], []⟩

/-- Adds a candidate, unless it has no endpoint, was removed, or is there already. -/
def push (contact : Contact) (candidates : Candidates) : Candidates :=
  if contact.endpoint.isNone || candidates.removed.contains contact.id then candidates
  else
    let entry := Ranked.around candidates.target contact
    if candidates.ranked.any fun known => known.samePeer entry then candidates
    else { candidates with ranked := entry.insert candidates.ranked }

def pushAll (contacts : List Contact) (candidates : Candidates) : Candidates :=
  contacts.foldl (fun known contact => known.push contact) candidates

def remove (id : Ident) (candidates : Candidates) : Candidates :=
  { candidates with
    ranked := candidates.ranked.filter fun entry => entry.contact.id != id
    removed := id :: candidates.removed }

def markContacted (id : Ident) (candidates : Candidates) : Candidates :=
  { candidates with contacted := id :: candidates.contacted }

/-- The closest candidates, closest first. -/
def closest (candidates : Candidates) : List Contact :=
  (candidates.ranked.take candidates.width).map Ranked.contact

def closestIds (candidates : Candidates) : List Ident :=
  candidates.closest.map Contact.id

/-- Those of the closest candidates that have not been sent a request. -/
def uncontacted (candidates : Candidates) : List Contact :=
  candidates.closest.filter fun contact => !candidates.contacted.contains contact.id

/-- Whether all of the closest candidates have been sent a request. -/
def allContacted (candidates : Candidates) : Bool :=
  candidates.uncontacted.isEmpty

end Candidates
end XorOverlay
