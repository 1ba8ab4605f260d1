import XorOverlay.Lookup.Frontier

/-!
The search for the contacts closest to a target. It ends when all of the closest candidates have
answered, when there is nothing left to probe, or after the last round; its result is then the
closest candidates.
-/

set_option autoImplicit false

namespace XorOverlay.Lookup.NodeSearch

/-- Folds in one outcome: the contacts that were reported, or a failure. -/
def absorb (self : Ident) (frontier : Frontier) (outcome : Contact × Option (List Contact)) :
    Frontier :=
  match outcome with
  | (_, some contacts) => frontier.fold self contacts
  | (contact, none) => frontier.fail contact

/-- Runs at most so many rounds. -/
def run {σ : Type} (self : Ident) (ask : Ask σ (List Contact)) :
    Nat → Frontier → σ → Frontier × σ
  | 0, frontier, state => (frontier, state)
  | rounds + 1, frontier, state =>
    let probes := frontier.probes
    let launched := frontier.launch
    if probes.isEmpty then (launched, state)
    else
      let (outcomes, state) := ask state probes
      let folded := outcomes.foldl (absorb self) launched
      if folded.candidates.allContacted then (folded, state) else run self ask rounds folded state

def search {σ : Type} (self : Ident) (ask : Ask σ (List Contact)) (target : Ident)
    (width parallelism : Nat) (seeds : List Contact) (state : σ) : Frontier × σ :=
  run self ask maxRounds (Frontier.start target width parallelism seeds) state

end XorOverlay.Lookup.NodeSearch

namespace XorOverlay.Lookup

/-- The contacts closest to a target, closest first, as far as a search finds them. -/
def findNodes {σ : Type} (self : Ident) (ask : Ask σ (List Contact)) (target : Ident)
    (width parallelism : Nat) (seeds : List Contact) (state : σ) : List Contact × σ :=
  let (frontier, state) := NodeSearch.search self ask target width parallelism seeds state
  (frontier.candidates.closest, state)

end XorOverlay.Lookup
