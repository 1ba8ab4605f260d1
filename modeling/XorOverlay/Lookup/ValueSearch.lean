import XorOverlay.Lookup.Frontier
import XorOverlay.Message

/-!
The search for the value stored under a key. The first round in which a probe finds a value decides:
the value found most often in it wins, and the closest contact that answered without one is named
as the place to repair.
-/

set_option autoImplicit false

namespace XorOverlay.Lookup

/-- What a probe for a value brings back. -/
inductive Finding where
  | found (value : Octets)
  | closest (contacts : List Contact)
  deriving DecidableEq

/-- Counts one more vote, at the value's first place in the tally. -/
def vote (value : Octets) : List (Octets × Nat) → List (Octets × Nat)
  | [] => [(value, 1)]
  | (seen, count) :: rest =>
    if seen = value then (seen, count + 1) :: rest else (seen, count) :: vote value rest

/-- The value with the most votes, the first seen of equals. -/
def majority (values : List Octets) : Option Octets :=
  ((values.foldl (fun tally value => vote value tally) []).foldl
    (fun leader (entry : Octets × Nat) =>
      match leader with
      | none => some entry
      | some best => if best.2 < entry.2 then some entry else some best)
    none).map Prod.fst

namespace ValueSearch

/-- A search for a value between two rounds. -/
structure State where
  frontier : Frontier
  /-- The closest contact that answered without the value. -/
  lacking : Candidates
  /-- The values found in the current round, in the order they came in. -/
  found : List Octets
  deriving DecidableEq

def State.start (key : Ident) (width parallelism : Nat) (seeds : List Contact) : State :=
  ⟨Frontier.start key width parallelism seeds, Candidates.empty key 1, []⟩

/-- Folds in one outcome: a value, contacts instead of a value, or a failure. -/
def absorb (self : Ident) (state : State) (outcome : Contact × Option Finding) : State :=
  match outcome with
  | (_, some (.found value)) => { state with found := state.found ++ [value] }
  | (contact, some (.closest contacts)) =>
    { state with
      frontier := state.frontier.fold self contacts
      lacking := state.lacking.push contact }
  | (contact, none) => { state with frontier := state.frontier.fail contact }

def run {σ : Type} (self : Ident) (ask : Ask σ Finding) : Nat → State → σ → State × σ
  | 0, search, state => (search, state)
  | rounds + 1, search, state =>
    let probes := search.frontier.probes
    let launched := { search with frontier := search.frontier.launch }
    if probes.isEmpty then (launched, state)
    else
      let (outcomes, state) := ask state probes
      let folded := outcomes.foldl (absorb self) launched
      if !folded.found.isEmpty || folded.frontier.candidates.allContacted then (folded, state)
      else run self ask rounds folded state

end ValueSearch

/-- The outcome of a search for a value: the value, and where to store it for repair. -/
structure Hit where
  value : Octets
  repair : Option Contact
  deriving DecidableEq

def ValueSearch.State.hit (search : ValueSearch.State) : Option Hit :=
  (majority search.found).map fun value => ⟨value, search.lacking.closest.head?⟩

/-- The value stored under a key, as far as a search finds it. -/
def findValue {σ : Type} (self : Ident) (ask : Ask σ Finding) (key : Ident)
    (width parallelism : Nat) (seeds : List Contact) (state : σ) : Option Hit × σ :=
  let (search, state) := ValueSearch.run self ask maxRounds
    (ValueSearch.State.start key width parallelism seeds) state
  (search.hit, state)

end XorOverlay.Lookup
