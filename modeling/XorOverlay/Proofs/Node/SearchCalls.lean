import Mathlib
import XorOverlay.Proofs.Lookup.Discipline
import XorOverlay.Proofs.Node.Ledger
import XorOverlay.Proofs.Node.Upkeep

/-!
What a lookup sends. The calls that a node makes in a lookup are the probes of its rounds, and those go
by a plan that depends on nothing but what was heard in the rounds before. However peers answer, and
even if they never stop to report new contacts, a lookup calls nobody twice and comes to an end.
-/

namespace XorOverlay

set_option autoImplicit false

namespace Scene

open Lookup

variable {ε : Type}

/-- How the node searches for a target. -/
def plan (target : Ident) (seeds : List Contact) (scene : Scene ε) : Plan :=
  ⟨scene.node.id, target, scene.node.width, scene.node.parallelism, seeds⟩

/-- Calls are those of rounds that go by a plan: one query is put to nobody twice, and to so many at the
most as can be probed in 50 rounds. -/
structure Planned (plan : Plan) (choose : Reply → Option (List Contact)) (query : Query)
    (log : List (Round Reply)) (made : List Call) : Prop where
  recounts : Recounts query log made
  followed : plan.Followed choose log
  once : (made.map fun call => call.dest.id).Nodup
  few : made.length ≤ 50 * plan.width

theorem Recounts.probed {query : Query} {log : List (Round Reply)} {made : List Call}
    (recounts : Recounts query log made) :
    made.map (fun call => call.dest.id) = Lookup.probed log := by
  rw [Lookup.probed, ← recounts.dests, List.map_map]
  rfl

theorem Recounts.planned {plan : Plan} {choose : Reply → Option (List Contact)} {query : Query}
    {log : List (Round Reply)} {made : List Call} (recounts : Recounts query log made)
    (followed : plan.Followed choose log) : Planned plan choose query log made where
  recounts := recounts
  followed := followed
  once := by
    rw [recounts.probed]
    exact followed.once
  few := by
    have requests := followed.requests
    rw [← recounts.probed, List.length_map] at requests
    exact requests

section Erased

variable (carrier : Carrier ε) (scene : Scene ε) (target : Ident) (seeds : List Contact)

/-- A lookup takes its course whether its calls are noted or not. -/
theorem lookup_erased :
    let looked := scene.unnoted.lookupBy (noting (call carrier)) target seeds
    (looked.1, looked.2.erased) = scene.lookup carrier target seeds := by
  obtain ⟨same, after, _⟩ := (free_upkeep carrier).conduct.noted.lookup
    (unnoted_noted _ _ trivial) target fun (seed : Contact) (_ : seed ∈ seeds) => trivial
  rw [lookup_by_call]
  exact Prod.ext same after.erased

theorem lookup_value_erased :
    let read := scene.unnoted.lookupValueBy (noting (call carrier)) target seeds
    (read.1, read.2.erased) = scene.lookupValue carrier target seeds := by
  obtain ⟨same, after⟩ := (free_upkeep carrier).conduct.noted.lookupValue
    (unnoted_noted _ _ trivial) target fun (seed : Contact) (_ : seed ∈ seeds) => trivial
  rw [lookup_value_eq]
  exact Prod.ext same after.erased

end Erased

/-- Whatever a carrier brings, the calls of a lookup go by a plan: each round calls the nearest that have
not been called of the front, which are the nearest of all that is known by then; a round calls somebody,
nobody is called twice, and after 50 rounds at the latest it is over. Sooner it ends only if nobody of the
front is left to call, if none may be called, or if a value was found. Noting the calls changes nothing
about a lookup; and the same plan is gone by if its probes are carried out in any other way, and come
back in any order. -/
theorem lookups_go_by_plan (carrier : Carrier ε) (scene : Scene ε) (target : Ident)
    (seeds : List Contact) :
    let plan := scene.plan target seeds
    let looked := scene.unnoted.lookupBy (noting (call carrier)) target seeds
    let read := scene.unnoted.lookupValueBy (noting (call carrier)) target seeds
    ((looked.1, looked.2.erased) = scene.lookup carrier target seeds ∧
      ∃ log, Planned plan Reply.contacts? (.findNode target) log looked.2.outside.2 ∧
        (log.length = 50 ∨ plan.parallelism = 0 ∨ plan.Exhausted Reply.contacts? log)) ∧
    ((read.1, read.2.erased) = scene.lookupValue carrier target seeds ∧
      ∃ log, Planned plan Reply.told? (.findValue target.octets) log read.2.outside.2 ∧
        (log.length = 50 ∨ plan.parallelism = 0 ∨ plan.Exhausted Reply.told? log ∨
          ∃ round ∈ log, round.values ≠ [])) ∧
    ∀ {σ : Type} (ask : Ask σ Reply) (state : σ),
      plan.Followed Reply.contacts? (plan.searchNodes Reply.contacts? ask state).2.2 ∧
        plan.Followed Reply.told? (plan.searchValue ask state).2.2 := by
  intro plan looked read
  refine ⟨⟨lookup_erased carrier scene target seeds, ?_⟩,
    ⟨lookup_value_erased carrier scene target seeds, ?_⟩, ?_⟩
  · obtain ⟨_, made, noted, recounts⟩ := lookup_noted (call carrier) scene.unnoted target seeds
    obtain ⟨followed, ends⟩ := plan.nodes_followed Reply.contacts?
      (callAll (noting (call carrier)) (.findNode target)) scene.unnoted
    refine ⟨_, Recounts.planned ?_ followed, ends⟩
    rw [show looked.2.outside.2 = made from noted]
    exact recounts
  · obtain ⟨made, noted, recounts⟩ := lookup_value_noted (call carrier) scene.unnoted target seeds
    obtain ⟨followed, ends⟩ := plan.value_followed
      (callAll (noting (call carrier)) (.findValue target.octets)) scene.unnoted
    refine ⟨_, Recounts.planned ?_ followed, ends⟩
    rw [show read.2.outside.2 = made from noted]
    exact recounts
  · intro σ ask state
    exact ⟨(plan.nodes_followed Reply.contacts? ask state).1, (plan.value_followed ask state).1⟩

end Scene
end XorOverlay
