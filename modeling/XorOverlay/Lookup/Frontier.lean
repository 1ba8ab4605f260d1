import XorOverlay.Lookup.Candidates

/-!
The rounds of a lookup. Each round probes the closest candidates that have not been probed, a few
at a time while the closest candidates keep changing and all at once when they did not change, and
then folds in what the probes brought back.

How probes are carried out is left open: a lookup is run by an `Ask`, which takes the probes of a
round and answers with their outcomes, in any order, while some state of its own moves on.
-/

set_option autoImplicit false

namespace XorOverlay.Lookup

/-- A lookup ends after this many rounds at the latest. -/
def maxRounds : Nat := 50

/-- Carries out the probes of one round. A probe that brought nothing failed; one that is not
mentioned at all is neither followed up nor held against its contact. -/
abbrev Ask (σ α : Type) := σ → List Contact → List (Contact × Option α) × σ

/-- What a lookup knows between two rounds. -/
structure Frontier where
  candidates : Candidates
  /-- How many probes a round has while the closest candidates keep changing. -/
  parallelism : Nat
  /-- The closest candidates as the last round found them. -/
  lastIds : List Ident
  deriving DecidableEq

namespace Frontier

def start (target : Ident) (width parallelism : Nat) (seeds : List Contact) : Frontier :=
  ⟨(Candidates.empty target width).pushAll seeds, parallelism, []⟩

def probeCount (frontier : Frontier) : Nat :=
  if frontier.candidates.closestIds = frontier.lastIds then frontier.candidates.width
  else frontier.parallelism

/-- The probes of the next round, closest first. -/
def probes (frontier : Frontier) : List Contact :=
  frontier.candidates.uncontacted.take frontier.probeCount

def launch (frontier : Frontier) : Frontier :=
  { frontier with
    candidates := frontier.probes.foldl
      (fun known contact => known.markContacted contact.id) frontier.candidates
    lastIds := frontier.candidates.closestIds }

/-- Adds the contacts a probe reported, all but the searching node itself. -/
def fold (self : Ident) (contacts : List Contact) (frontier : Frontier) : Frontier :=
  { frontier with
    candidates := frontier.candidates.pushAll (contacts.filter fun contact => contact.id != self) }

def fail (contact : Contact) (frontier : Frontier) : Frontier :=
  { frontier with candidates := frontier.candidates.remove contact.id }

end Frontier
end XorOverlay.Lookup
