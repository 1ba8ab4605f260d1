import Mathlib
import XorOverlay.Proofs.Lookup.Verdict
import XorOverlay.Proofs.Routing.Ranking

/-!
Whom a search probes. The probes of a round are a function of the rounds before it. Of the contacts
that those made known, the failed apart, the nearest few are the front of the search, and the nearest
of the front that were not probed yet are due. So nobody is probed twice, however often and under
whatever endpoints it is reported, every round goes on to somebody new, and with the number of rounds
that of the probes is bounded.
-/

namespace XorOverlay

set_option autoImplicit false

namespace Candidates

theorem firsts_distinct (contacts : List Contact) : ((firsts contacts).map Contact.id).Nodup := by
  induction contacts with
  | nil => exact List.nodup_nil
  | cons contact rest ih =>
      rw [firsts, List.map_cons]
      apply List.nodup_cons.mpr
      constructor
      · intro again
        obtain ⟨other, kept, same⟩ := List.mem_map.mp again
        exact bne_iff_ne.mp (List.mem_filter.mp kept).2 same
      · exact ih.sublist (List.filter_sublist.map Contact.id)

theorem survivors_distinct (seen : List Contact) (failed : List Ident) :
    ((survivors seen failed).map Contact.id).Nodup :=
  (firsts_distinct _).sublist (List.filter_sublist.map Contact.id)

end Candidates

/-- The contacts that an answer to the question for a value reports. -/
def Reply.told? (reply : Reply) : Option (List Contact) :=
  reply.finding?.map Lookup.Finding.contacts

namespace Lookup

variable {σ α : Type}

/-- What a search is to go by: who searches, for what, how widely, and beginning where. -/
structure Plan where
  self : Ident
  target : Ident
  /-- How many of the nearest contacts count. -/
  width : Nat
  /-- How many are probed in a round while the nearest contacts keep changing. -/
  parallelism : Nat
  seeds : List Contact

/-- The names of all that were probed, in order. -/
def probed (log : List (Round α)) : List Ident :=
  (log.flatMap Round.probes).map Contact.id

theorem probed_concat (log : List (Round α)) (round : Round α) :
    probed (log ++ [round]) = probed log ++ round.probes.map Contact.id := by
  simp [probed]

namespace Plan

section Definitions

variable (plan : Plan) (choose : α → Option (List Contact))

/-- Who is known after some rounds: the seeds and those that were reported, but for the searching node
itself, and for everyone who failed. -/
def known (log : List (Round α)) : List Contact :=
  let outcomes := heard choose log
  Candidates.survivors (plan.seeds ++ reported plan.self outcomes) (failures outcomes)

/-- The nearest of those that are known. -/
def front (log : List (Round α)) : List Contact :=
  (nearestFirst plan.target (plan.known choose log)).take plan.width

/-- The front as the last round found it, of which there is nothing before the first. -/
def lastFront : List (Round α) → List Contact
  | [] => []
  | first :: rest => plan.front choose (first :: rest).dropLast

/-- Who is to be probed next: the nearest of the front that were not probed yet, all of them if the
front is as the last round found it. -/
def due (log : List (Round α)) : List Contact :=
  ((plan.front choose log).filter fun contact => !(probed log).contains contact.id).take
    (if (plan.front choose log).map Contact.id = (plan.lastFront choose log).map Contact.id then
      plan.width
    else plan.parallelism)

/-- Rounds that go by the plan, each with the probes that are due, of which there are some. -/
inductive Trail : List (Round α) → Prop
  | start : Trail []
  | round {log : List (Round α)} (before : Trail log) (busy : plan.due choose log ≠ [])
      (outcomes : List (Contact × Option α)) : Trail (log ++ [⟨plan.due choose log, outcomes⟩])

/-- What it comes to that the rounds of a search go by its plan. -/
structure Followed (log : List (Round α)) : Prop where
  /-- The probes of a round are those due after the rounds before it. -/
  due : ∀ before round after, log = before ++ round :: after →
    round.probes = plan.due choose before
  /-- Every round probes somebody, and nobody is probed twice. -/
  busy : ∀ round ∈ log, round.probes ≠ []
  once : (probed log).Nodup
  rounds : log.length ≤ 50
  requests : (probed log).length ≤ 50 * plan.width

/-- The search for contacts that goes by the plan, with its rounds noted down. -/
def searchNodes (ask : Ask σ α) (state : σ) : Frontier × σ × List (Round α) :=
  NodeSearch.search plan.self (logged choose ask) plan.target plan.width plan.parallelism plan.seeds
    (state, [])

/-- The search for a value that goes by the plan, with its rounds noted down. -/
def searchValue (ask : Ask σ Reply) (state : σ) : ValueSearch.State × σ × List (Round Reply) :=
  ValueSearch.run plan.self (logged Reply.finding? ask) maxRounds
    (ValueSearch.State.start plan.target plan.width plan.parallelism plan.seeds) (state, [])

/-- All of the front has been probed. -/
def Exhausted (log : List (Round α)) : Prop :=
  ∀ contact ∈ plan.front choose log, contact.id ∈ probed log

end Definitions

variable {plan : Plan} {choose : α → Option (List Contact)} {log : List (Round α)}

theorem last_front_concat (log : List (Round α)) (round : Round α) :
    plan.lastFront choose (log ++ [round]) = plan.front choose log := by
  have unsnoc : (log ++ [round]).dropLast = log := List.dropLast_concat
  cases log with
  | nil => rfl
  | cons first rest =>
      rw [List.cons_append] at unsnoc ⊢
      rw [lastFront, unsnoc]

theorem known_ascending (plan : Plan) (choose : α → Option (List Contact)) (log : List (Round α)) :
    Ascending plan.target (nearestFirst plan.target (plan.known choose log)) :=
  nearest_first_ascending plan.target (Candidates.survivors_distinct _ _)

theorem front_distinct (plan : Plan) (choose : α → Option (List Contact)) (log : List (Round α)) :
    ((plan.front choose log).map Contact.id).Nodup :=
  (known_ascending plan choose log).ids_nodup.sublist ((List.take_sublist _ _).map Contact.id)

theorem due_sublist (plan : Plan) (choose : α → Option (List Contact)) (log : List (Round α)) :
    (plan.due choose log).Sublist (plan.front choose log) :=
  (List.take_sublist _ _).trans List.filter_sublist

theorem due_length (plan : Plan) (choose : α → Option (List Contact)) (log : List (Round α)) :
    (plan.due choose log).length ≤ plan.width :=
  (due_sublist plan choose log).length_le.trans (List.length_take_le _ _)

theorem due_fresh {contact : Contact} (chosen : contact ∈ plan.due choose log) :
    contact.id ∉ probed log := by
  have kept := (List.mem_filter.mp (List.mem_of_mem_take chosen)).2
  simpa using kept

namespace Trail

theorem once (trail : plan.Trail choose log) : (probed log).Nodup := by
  induction trail with
  | start => exact List.nodup_nil
  | @round log _ _ _ ih =>
      rw [probed_concat, List.nodup_append]
      refine ⟨ih, (front_distinct plan choose log).sublist
        ((due_sublist plan choose log).map Contact.id), ?_⟩
      rintro id before _ now rfl
      obtain ⟨contact, chosen, rfl⟩ := List.mem_map.mp now
      exact due_fresh chosen before

theorem requests (trail : plan.Trail choose log) :
    (probed log).length ≤ log.length * plan.width := by
  induction trail with
  | start => exact Nat.zero_le _
  | @round log _ _ _ ih =>
      rw [probed_concat, List.length_append, List.length_append, List.length_map,
        List.length_singleton, Nat.succ_mul]
      exact Nat.add_le_add ih (due_length plan choose log)

theorem busy (trail : plan.Trail choose log) : ∀ round ∈ log, round.probes ≠ [] := by
  induction trail with
  | start => exact nofun
  | round _ some _ ih => exact List.forall_mem_append.mpr ⟨ih, List.forall_mem_singleton.mpr some⟩

theorem due (trail : plan.Trail choose log) : ∀ before round after,
    log = before ++ round :: after → round.probes = plan.due choose before := by
  induction trail with
  | start =>
      intro before round after split
      exact (List.append_ne_nil_of_right_ne_nil _ (List.cons_ne_nil _ _) split.symm).elim
  | @round log _ _ _ ih =>
      intro before round after split
      -- The round is the last of the log, or one of those before it.
      rcases List.eq_nil_or_concat' after with rfl | ⟨middle, last, rfl⟩
      · obtain ⟨rfl, same⟩ := List.append_inj' split rfl
        rw [← List.head_eq_of_cons_eq same]
      · rw [← List.cons_append, ← List.append_assoc] at split
        exact ih before round middle (List.append_inj' split rfl).1

theorem followed (trail : plan.Trail choose log) (rounds : log.length ≤ 50) :
    plan.Followed choose log :=
  ⟨trail.due, trail.busy, trail.once, rounds,
    trail.requests.trans (Nat.mul_le_mul_right _ rounds)⟩

end Trail

/-- A search is where the plan has it after some rounds, which went by the plan. -/
structure Stands (plan : Plan) (choose : α → Option (List Contact)) (log : List (Round α))
    (frontier : Frontier) : Prop where
  trail : plan.Trail choose log
  follows : NodeSearch.Follows plan.self plan.target plan.width plan.seeds (heard choose log)
    frontier.candidates
  contacted : ∀ id, id ∈ frontier.candidates.contacted ↔ id ∈ probed log
  lastIds : frontier.lastIds = (plan.lastFront choose log).map Contact.id
  parallelism : frontier.parallelism = plan.parallelism

theorem start_stands (plan : Plan) (choose : α → Option (List Contact)) :
    plan.Stands choose []
      (Frontier.start plan.target plan.width plan.parallelism plan.seeds) where
  trail := .start
  follows := NodeSearch.start_follows plan.self plan.target plan.width plan.parallelism plan.seeds
  contacted := by
    intro id
    rw [Frontier.start, (Candidates.push_all_frame _ _).1]
    rfl
  lastIds := rfl
  parallelism := rfl

namespace Stands

variable {frontier : Frontier} (stands : plan.Stands choose log frontier)
include stands

/-- The closest candidates are the front. -/
theorem closest : frontier.candidates.closest = plan.front choose log := by
  obtain ⟨all, perm, ascending, closest⟩ := Candidates.closest_tracks stands.follows
  have same := ascending.perm_eq (known_ascending plan choose log)
    (perm.trans (nearest_first_perm plan.target _).symm)
  rw [closest, same, front]

theorem uncontacted : frontier.candidates.uncontacted =
    (plan.front choose log).filter fun contact => !(probed log).contains contact.id := by
  rw [Candidates.uncontacted, stands.closest]
  apply List.filter_congr
  intro contact _
  rw [Bool.eq_iff_iff]
  simp [stands.contacted contact.id]

/-- The probes of the next round are those that are due. -/
theorem probes : frontier.probes = plan.due choose log := by
  rw [Frontier.probes, Frontier.probeCount, Candidates.closestIds, stands.uncontacted,
    stands.closest, stands.lastIds, stands.parallelism, stands.follows.width]
  rfl

/-- A round with probes takes a search where the plan has it next, whatever the round brings. -/
theorem round (busy : frontier.probes ≠ []) (brought : List (Contact × Option α)) :
    plan.Stands choose (log ++ [⟨frontier.probes, brought⟩])
      ((picked choose brought).foldl (NodeSearch.absorb plan.self) frontier.launch) where
  trail := by
    rw [stands.probes] at busy ⊢
    exact stands.trail.round busy brought
  follows := by
    rw [heard_append]
    exact NodeSearch.absorb_all_follows (NodeSearch.launch_follows stands.follows) _
  contacted := by
    intro id
    rw [(NodeSearch.absorb_all_frame _ _ _).1, Frontier.launch, Candidates.mark_all, probed_concat]
    simp [stands.contacted id, or_comm]
  lastIds := by
    rw [NodeSearch.absorb_all_last, last_front_concat, ← stands.closest]
    rfl
  parallelism := (NodeSearch.absorb_all_frame _ _ _).2.2.trans stands.parallelism

theorem exhausted (done : frontier.candidates.allContacted = true) : plan.Exhausted choose log := by
  intro contact near
  rw [Candidates.allContacted, stands.uncontacted, List.isEmpty_iff, List.filter_eq_nil_iff] at done
  simpa using done contact near

end Stands

theorem exhausted_of_narrow (narrow : plan.width = 0) : plan.Exhausted choose log := by
  rw [Exhausted, front, narrow]
  exact List.forall_mem_nil _

theorem nodes_stand (plan : Plan) (choose : α → Option (List Contact)) (ask : Ask σ α) (state : σ) :
    let ended := plan.searchNodes choose ask state
    ended.2.2.length ≤ 50 ∧ ∃ last, plan.Stands choose ended.2.2 last ∧
      ended.1.candidates = last.candidates :=
  NodeSearch.run_reaches (motive := plan.Stands choose)
    (fun _ _ state busy stands => stands.round busy (ask state _).1) maxRounds state []
    (start_stands plan choose)

/-- A search for contacts goes by its plan, however its probes are carried out. It goes on for 50 rounds
unless all of its front was probed before, or none may be probed. -/
theorem nodes_followed (plan : Plan) (choose : α → Option (List Contact)) (ask : Ask σ α)
    (state : σ) :
    let log := (plan.searchNodes choose ask state).2.2
    plan.Followed choose log ∧
      (log.length = 50 ∨ plan.parallelism = 0 ∨ plan.Exhausted choose log) := by
  intro log
  obtain ⟨length, last, stands, same⟩ := nodes_stand plan choose ask state
  refine ⟨stands.trail.followed length, ?_⟩
  rcases Nat.eq_zero_or_pos plan.parallelism with none | busy
  · exact Or.inr (Or.inl none)
  rcases Nat.eq_zero_or_pos plan.width with narrow | wide
  · exact Or.inr (Or.inr (exhausted_of_narrow narrow))
  rcases NodeSearch.search_ends choose plan.self plan.target plan.width plan.parallelism plan.seeds
    ask state wide busy with done | long
  · exact Or.inr (Or.inr (stands.exhausted (same ▸ done)))
  · exact Or.inl long

/-- To pick what findings report is to pick what answers told. -/
theorem reports_picked (outcomes : List (Contact × Option Reply)) :
    ValueSearch.reports (picked Reply.finding? outcomes) = picked Reply.told? outcomes := by
  unfold ValueSearch.reports picked
  rw [List.map_map]
  apply List.map_congr_left
  rintro ⟨contact, _ | reply⟩ _
  · rfl
  · exact congrArg (Prod.mk contact) Option.map_eq_bind.symm

/-- A search for a value is where the plan has it, and what it found was brought by some round. -/
structure Reads (plan : Plan) (log : List (Round Reply)) (search : ValueSearch.State) : Prop where
  stands : plan.Stands Reply.told? log search.frontier
  found : search.found ≠ [] → ∃ round ∈ log, round.values ≠ []

theorem Reads.round {log : List (Round Reply)} {search : ValueSearch.State}
    (reads : plan.Reads log search) (fresh : search.found = []) (busy : search.frontier.probes ≠ [])
    (brought : List (Contact × Option Reply)) :
    plan.Reads (log ++ [⟨search.frontier.probes, brought⟩])
      ((picked Reply.finding? brought).foldl (ValueSearch.absorb plan.self)
        { search with frontier := search.frontier.launch }) where
  stands := by
    rw [ValueSearch.absorb_all_frontier, reports_picked]
    exact reads.stands.round busy brought
  found := by
    intro some
    refine ⟨_, List.mem_append_right _ (List.mem_singleton_self _), ?_⟩
    rw [ValueSearch.absorb_all_found, fresh, List.nil_append] at some
    rw [← ValueSearch.values_eq]
    exact some

theorem value_reads (plan : Plan) (ask : Ask σ Reply) (state : σ) :
    let ended := plan.searchValue ask state
    ended.2.2.length ≤ 50 ∧ ∃ last, plan.Reads ended.2.2 last ∧
      ended.1.found = last.found ∧ ended.1.lacking = last.lacking ∧
        ended.1.frontier.candidates = last.frontier.candidates :=
  ValueSearch.run_reaches (motive := plan.Reads)
    (fun _ _ state fresh busy reads => reads.round fresh busy (ask state _).1) maxRounds state []
    rfl ⟨start_stands plan Reply.told?, fun some => (some rfl).elim⟩

/-- A search for a value goes by its plan too, and may also stop because a round brought a value. -/
theorem value_followed (plan : Plan) (ask : Ask σ Reply) (state : σ) :
    let log := (plan.searchValue ask state).2.2
    plan.Followed Reply.told? log ∧ (log.length = 50 ∨ plan.parallelism = 0 ∨
      plan.Exhausted Reply.told? log ∨ ∃ round ∈ log, round.values ≠ []) := by
  intro log
  obtain ⟨length, last, reads, found, _, same⟩ := value_reads plan ask state
  refine ⟨reads.stands.trail.followed length, ?_⟩
  rcases Nat.eq_zero_or_pos plan.parallelism with none | busy
  · exact Or.inr (Or.inl none)
  rcases Nat.eq_zero_or_pos plan.width with narrow | wide
  · exact Or.inr (Or.inr (Or.inl (exhausted_of_narrow narrow)))
  have begun := Candidates.push_all_frame plan.seeds (Candidates.empty plan.target plan.width)
  rcases ValueSearch.run_ends Reply.finding? plan.self ask maxRounds
    (ValueSearch.State.start plan.target plan.width plan.parallelism plan.seeds)
    (begun.2.symm ▸ wide) busy state [] with voted | done | long
  · exact Or.inr (Or.inr (Or.inr (reads.found (found ▸ voted))))
  · exact Or.inr (Or.inr (Or.inl (reads.stands.exhausted (same ▸ done))))
  · exact Or.inl long

end Plan
end Lookup
end XorOverlay
