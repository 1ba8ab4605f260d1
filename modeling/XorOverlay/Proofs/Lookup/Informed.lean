import Mathlib
import XorOverlay.Lookup.ValueSearch
import XorOverlay.Proofs.Lookup.Convergence

/-!
Searches among contacts that are all known beforehand. A search that begins with the closest of all
contacts there are hears of nobody closer, so while nobody fails it finds those it began with. A
search for a value probes the closest contact of all in its first round, and one value in the first
round ends it.
-/

namespace XorOverlay

set_option autoImplicit false

variable {target : Ident} {width : Nat} {all : List Contact}

namespace Candidates

theorem firsts_subset (contacts : List Contact) : firsts contacts ⊆ contacts := by
  induction contacts with
  | nil => exact List.Subset.refl _
  | cons contact rest ih =>
      rw [firsts]
      apply List.cons_subset_cons
      intro other kept
      exact ih (List.mem_of_mem_filter kept)

theorem survivors_subset (seen : List Contact) (failed : List Ident) :
    survivors seen failed ⊆ seen := by
  intro contact member
  have first := firsts_subset _ (List.mem_of_mem_filter member)
  exact List.mem_of_mem_filter first

/-- Whoever has seen the closest of all contacts, and nobody beyond these, has them for its closest
candidates as long as nobody fails. -/
theorem closest_informed {seen : List Contact} {candidates : Candidates}
    (tracks : candidates.Tracks target width seen []) (ascending : Ascending target all)
    (lives : ∀ contact ∈ all, contact.endpoint.isSome = true) (inside : seen ⊆ all)
    (begun : all.take width ⊆ seen) : candidates.closest = all.take width := by
  obtain ⟨known, perm, sorted, closest⟩ := closest_tracks tracks
  have part : known ⊆ all :=
    fun contact member => inside (survivors_subset seen [] (perm.mem_iff.mp member))
  rw [closest]
  apply Ascending.take_eq_of_sublist (Ascending.sublist_of_subset sorted ascending part) ascending
  intro contact taken
  have among := List.mem_of_mem_take taken
  have usable : contact ∈ seen.filter fun contact => contact.endpoint.isSome :=
    List.mem_filter.mpr ⟨begun taken, lives contact among⟩
  obtain ⟨other, survives, named⟩ := (survivors_named seen [] contact.id).mpr
    ⟨List.not_mem_nil, contact, usable, rfl⟩
  have member := perm.mem_iff.mpr survives
  have same : other = contact :=
    List.inj_on_of_nodup_map (Ascending.ids_nodup ascending) (part member) among named
  exact same ▸ member

end Candidates

namespace Lookup

variable {σ α : Type} {parallelism : Nat}

namespace Frontier

theorem start_closest (parallelism : Nat) (ascending : Ascending target all)
    (lives : ∀ contact ∈ all, contact.endpoint.isSome = true) :
    (start target width parallelism (all.take width)).candidates.closest = all.take width := by
  have tracks := Candidates.push_all_tracks (Candidates.empty_tracks target width) (all.take width)
  rw [List.nil_append] at tracks
  exact Candidates.closest_informed tracks ascending lives (List.take_subset _ _)
    (List.Subset.refl _)

/-- A search that has anyone to begin with asks the closest of them at once, if it may ask at all. -/
theorem leader_probed {seeds rest : List Contact}
    {nearest : Contact} (busy : 0 < parallelism)
    (closest : (start target width parallelism seeds).candidates.closest = nearest :: rest) :
    nearest ∈ (start target width parallelism seeds).probes := by
  have nobody : (start target width parallelism seeds).candidates.contacted = [] :=
    (Candidates.push_all_frame seeds _).1
  have changed : (start target width parallelism seeds).candidates.closestIds ≠ [] := by
    rw [Candidates.closestIds, closest]
    exact List.cons_ne_nil _ _
  have count : (start target width parallelism seeds).probeCount = parallelism := if_neg changed
  obtain ⟨parallelism, rfl⟩ := Nat.exists_eq_succ_of_ne_zero busy.ne'
  rw [probes, count, Candidates.uncontacted, closest, nobody]
  simp

/-- The closest contact of all is probed in the first round. -/
theorem nearest_probed {nearest : Contact} {rest : List Contact} (wide : 0 < width)
    (busy : 0 < parallelism) (ascending : Ascending target (nearest :: rest))
    (lives : ∀ contact ∈ nearest :: rest, contact.endpoint.isSome = true) :
    nearest ∈
      (start target width parallelism ((nearest :: rest).take width)).probes := by
  obtain ⟨width, rfl⟩ := Nat.exists_eq_succ_of_ne_zero wide.ne'
  exact leader_probed busy (start_closest parallelism ascending lives)

end Frontier

namespace NodeSearch

/-- Everyone answered, and named nobody beyond all contacts there are. -/
def Informs (self : Ident) (all : List Contact)
    (outcomes : List (Contact × Option (List Contact))) : Prop :=
  ∀ outcome ∈ outcomes, ∃ contacts, outcome.2 = some contacts ∧
    Fine self (fun contact => contact ∈ all) contacts

theorem informs_reported {self : Ident} {outcomes : List (Contact × Option (List Contact))}
    (informs : Informs self all outcomes) :
    failures outcomes = [] ∧ reported self outcomes ⊆ all := by
  constructor
  · apply List.map_eq_nil_iff.mpr
    apply List.filter_eq_nil_iff.mpr
    intro outcome among
    obtain ⟨contacts, answered, _⟩ := informs outcome among
    simp [answered]
  · intro contact heard
    obtain ⟨outcome, among, kept⟩ := List.mem_flatMap.mp heard
    obtain ⟨contacts, answered, fine⟩ := informs outcome among
    rw [answered] at kept
    obtain ⟨named, foreign⟩ := List.mem_filter.mp kept
    exact fine contact named (bne_iff_ne.mp foreign)

theorem find_nodes_informed (choose : α → Option (List Contact)) (self : Ident)
    (parallelism : Nat) (ask : Ask σ α) (state : σ) (ascending : Ascending target all)
    (lives : ∀ contact ∈ all, contact.endpoint.isSome = true)
    (informs : Informs self all (heard choose (search self (logged choose ask) target width
      parallelism (all.take width) (state, [])).2.2)) :
    (findNodes self (picking choose ask) target width parallelism (all.take width) state).1 =
      all.take width := by
  obtain ⟨none, inside⟩ := informs_reported informs
  have follows := search_follows choose self target width parallelism (all.take width) ask state
  dsimp only [Follows] at follows
  rw [none] at follows
  rw [find_nodes_logged]
  exact Candidates.closest_informed follows ascending lives
    (List.append_subset.mpr ⟨List.take_subset _ _, inside⟩) (List.subset_append_left _ _)

/-- The rounds are noted down beside the states, so that what they brought is known at the end. -/
theorem logged_agree {choose : α → Option (List Contact)} {self : Ident} {ask : Ask σ α}
    {inv : σ → Prop}
    (round : ∀ state probes, inv state → (∀ probe ∈ probes, probe ∈ all) →
      inv (ask state probes).2 ∧ (∀ outcome ∈ (ask state probes).1, outcome.1 ∈ all) ∧
        Informs self all (picked choose (ask state probes).1)) :
    Agree (fun contact => contact ∈ all) (Fine self fun contact => contact ∈ all)
      (fun (state : σ) (noted : σ × List (Round α)) =>
        noted.1 = state ∧ inv state ∧ Informs self all (heard choose noted.2))
      (picking choose ask) (logged choose ask) := by
  refine ⟨?_, ?_, ?_⟩
  · rintro state noted probes ⟨rfl, _⟩ _
    rfl
  · rintro state noted probes ⟨rfl, good, informs⟩ known
    obtain ⟨kept, _, brought⟩ := round noted.1 probes good known
    refine ⟨rfl, kept, ?_⟩
    dsimp only [logged]
    rw [heard_append]
    exact List.forall_mem_append.mpr ⟨informs, brought⟩
  · rintro state noted probes ⟨rfl, good, _⟩ known outcome among
    obtain ⟨_, asked, brought⟩ := round noted.1 probes good known
    constructor
    · obtain ⟨made, listed, rfl⟩ := List.mem_map.mp among
      exact asked made listed
    · intro contacts answered
      obtain ⟨named, same, fine⟩ := brought outcome among
      rw [answered] at same
      exact Option.some.inj same ▸ fine

/-- A search among all contacts there are, in which nobody fails, keeps what its rounds keep; begun
with the closest of all, it finds these. -/
theorem find_nodes_among {choose : α → Option (List Contact)} {self : Ident} {ask : Ask σ α}
    {inv : σ → Prop} {state : σ} (width parallelism : Nat) (ascending : Ascending target all)
    (lives : ∀ contact ∈ all, contact.endpoint.isSome = true)
    (round : ∀ state probes, inv state → (∀ probe ∈ probes, probe ∈ all) →
      inv (ask state probes).2 ∧ (∀ outcome ∈ (ask state probes).1, outcome.1 ∈ all) ∧
        Informs self all (picked choose (ask state probes).1))
    (start : inv state) {seeds : List Contact} (near : ∀ seed ∈ seeds, seed ∈ all) :
    inv (findNodes self (picking choose ask) target width parallelism seeds state).2 ∧
      (seeds = all.take width →
        (findNodes self (picking choose ask) target width parallelism seeds state).1 = seeds) := by
  obtain ⟨_, ⟨_, kept, informs⟩, _⟩ := find_nodes_agree (logged_agree round) target width parallelism
    near state (state, []) ⟨rfl, start, nofun⟩
  refine ⟨kept, ?_⟩
  rintro rfl
  exact find_nodes_informed choose self parallelism ask state ascending lives informs

end NodeSearch

theorem vote_ne_nil (value : Octets) (tally : List (Octets × Nat)) : vote value tally ≠ [] := by
  cases tally with
  | nil => simp [vote]
  | cons first rest =>
      rw [vote]
      split_ifs <;> simp

theorem tally_ne_nil {values : List Octets} {tally : List (Octets × Nat)}
    (voted : values ≠ [] ∨ tally ≠ []) :
    values.foldl (fun tally value => vote value tally) tally ≠ [] := by
  induction values generalizing tally with
  | nil => exact voted.resolve_left fun none => none rfl
  | cons value rest ih => exact ih (Or.inr (vote_ne_nil value tally))

theorem leader_isSome {tally : List (Octets × Nat)} {leader : Option (Octets × Nat)}
    (voted : tally ≠ [] ∨ leader.isSome = true) :
    (tally.foldl
      (fun leader (entry : Octets × Nat) =>
        match leader with
        | none => some entry
        | some best => if best.2 < entry.2 then some entry else some best)
      leader).isSome = true := by
  induction tally generalizing leader with
  | nil => exact voted.resolve_left fun none => none rfl
  | cons entry rest ih =>
      apply ih
      right
      cases leader with
      | none => rfl
      | some best =>
          simp only
          split_ifs <;> rfl

/-- Of any values at all, one has the majority. -/
theorem majority_isSome {values : List Octets} (voted : values ≠ []) :
    (majority values).isSome = true := by
  rw [majority, Option.isSome_map]
  exact leader_isSome (Or.inl (tally_ne_nil (Or.inl voted)))

namespace ValueSearch

def value? (outcome : Contact × Option Finding) : Option Octets :=
  match outcome.2 with
  | some (.found value) => some value
  | _ => none

theorem absorb_all_found (self : Ident) (outcomes : List (Contact × Option Finding))
    (search : State) :
    (outcomes.foldl (absorb self) search).found = search.found ++ outcomes.filterMap value? := by
  induction outcomes generalizing search with
  | nil => simp
  | cons outcome rest ih =>
      rw [List.foldl_cons, ih]
      obtain ⟨contact, _ | value | contacts⟩ := outcome
      · simp [absorb, value?, List.filterMap_cons]
      · simp [absorb, value?]
      · simp [absorb, value?, List.filterMap_cons]

/-- A search that finds a value in its first round has a hit. -/
theorem find_value_at_once {self key : Ident} {seeds : List Contact} {ask : Ask σ Finding}
    {state : σ} {probe : Contact} {value : Octets}
    (probed : probe ∈ (Frontier.start key width parallelism seeds).probes)
    (brought : (probe, some (Finding.found value)) ∈
      (ask state (Frontier.start key width parallelism seeds).probes).1) :
    (findValue self ask key width parallelism seeds state).1.isSome = true := by
  have busy : (Frontier.start key width parallelism seeds).probes.isEmpty = false := by
    cases probes : (Frontier.start key width parallelism seeds).probes with
    | nil =>
        rw [probes] at probed
        cases probed
    | cons first rest => rfl
  have found : ∀ search : State,
      ((ask state (Frontier.start key width parallelism seeds).probes).1.foldl (absorb self)
        search).found ≠ [] := by
    intro search none
    rw [absorb_all_found] at none
    have absent := List.filterMap_eq_nil_iff.mp (List.append_eq_nil_iff.mp none).2 _ brought
    cases absent
  unfold findValue
  rw [maxRounds, ValueSearch.run]
  simp only [State.start, busy, Bool.false_eq_true, if_false,
    List.isEmpty_eq_false_iff.mpr (found _), Bool.not_false, Bool.true_or, if_true]
  rw [State.hit, Option.isSome_map]
  exact majority_isSome (found _)

end ValueSearch
end Lookup
end XorOverlay
