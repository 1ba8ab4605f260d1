import Mathlib
import XorOverlay.Proofs.Lookup.Informed
import XorOverlay.Proofs.Lookup.Votes

/-!
The order in which the outcomes of a round come in. Two searches of one target that are answered
alike may collect their outcomes in different orders. As long as no name is heard of under two
endpoints, what they have for candidates depends on which contacts were seen and which failed, and
not on the order of either; so they probe alike, round after round, and end alike. Only among values
found equally often does the first one count.
-/

namespace XorOverlay

set_option autoImplicit false

/-- Among the contacts that are heard of, no name has two endpoints. -/
def Unambiguous (known : Contact → Prop) : Prop :=
  ∀ first second, known first → known second → first.endpoint.isSome = true →
    second.endpoint.isSome = true → first.id = second.id → first = second

variable {known : Contact → Prop} {target : Ident} {width : Nat}

namespace Candidates

variable {seen others : List Contact} {failed lost : List Ident} {candidates copy : Candidates}

theorem mem_survivors_iff (clear : Unambiguous known) (heardOf : ∀ contact ∈ seen, known contact)
    (failed : List Ident) (contact : Contact) : contact ∈ survivors seen failed ↔
      contact ∈ seen ∧ contact.endpoint.isSome = true ∧ contact.id ∉ failed := by
  have usable : ∀ other ∈ survivors seen failed, other ∈ seen ∧ other.endpoint.isSome = true := by
    intro other member
    exact List.mem_filter.mp (firsts_subset _ (List.mem_of_mem_filter member))
  constructor
  · intro member
    obtain ⟨listed, lives⟩ := usable contact member
    exact ⟨listed, lives, mem_survivors_failed member⟩
  · rintro ⟨listed, lives, fit⟩
    obtain ⟨other, member, named⟩ := (survivors_named seen failed contact.id).mpr
      ⟨fit, contact, List.mem_filter.mpr ⟨listed, lives⟩, rfl⟩
    obtain ⟨also, reached⟩ := usable other member
    exact clear other contact (heardOf other also) (heardOf contact listed) reached lives named ▸
      member

/-- The candidates depend on which contacts were seen and which names failed. -/
theorem ranked_of_same (clear : Unambiguous known) (heardOf : ∀ contact ∈ seen, known contact)
    (tracks : candidates.Tracks target width seen failed)
    (copies : copy.Tracks target width others lost)
    (same : ∀ contact, contact ∈ seen ↔ contact ∈ others) (gone : ∀ id, id ∈ failed ↔ id ∈ lost) :
    candidates.ranked = copy.ranked := by
  obtain ⟨_, _, ⟨all, perm, ascending, ranked⟩, _⟩ := tracks
  obtain ⟨_, _, ⟨whole, permWhole, ascendingWhole, rankedWhole⟩, _⟩ := copies
  have reached : ∀ contact, contact ∈ all ↔ contact ∈ whole := by
    intro contact
    rw [perm.mem_iff, permWhole.mem_iff, mem_survivors_iff clear heardOf failed,
      mem_survivors_iff clear (fun other member => heardOf other ((same other).mpr member)) lost,
      same, gone]
  have equal : all.Perm whole := (List.perm_ext_iff_of_nodup
    (List.Nodup.of_map Contact.id ascending.ids_nodup)
    (List.Nodup.of_map Contact.id ascendingWhole.ids_nodup)).mpr reached
  rw [ranked, rankedWhole, Ascending.perm_eq ascending ascendingWhole equal]

end Candidates

namespace Lookup

variable {σ τ α : Type} {self : Ident} {parallelism : Nat} {seeds : List Contact}

/-- Every probe of a round has its answer among the outcomes, which come in some order. -/
def Collects (answer : Contact → Option α) (ask : Ask σ α) : Prop :=
  ∀ state probes, (ask state probes).1.Perm (probes.map fun probe => (probe, answer probe))

namespace NodeSearch

/-- Two searches that have had the same outcomes, in orders of their own. -/
structure Twins (known : Contact → Prop) (own target : Ident) (width : Nat) (seeds : List Contact)
    (outcomes others : List (Contact × Option (List Contact))) (first second : Frontier) :
    Prop where
  follows : Follows own target width seeds outcomes first.candidates
  copies : Follows own target width seeds others second.candidates
  reordered : outcomes.Perm others
  heardOf : ∀ contact ∈ seeds ++ reported own outcomes, known contact
  contacted : first.candidates.contacted = second.candidates.contacted
  parallelism : first.parallelism = second.parallelism
  lastIds : first.lastIds = second.lastIds

variable {outcomes others : List (Contact × Option (List Contact))} {first second : Frontier}

theorem start_twins (self target : Ident) (width parallelism : Nat)
    (heardOf : ∀ seed ∈ seeds, known seed) :
    Twins known self target width seeds [] [] (Frontier.start target width parallelism seeds)
      (Frontier.start target width parallelism seeds) := by
  have follows := start_follows self target width parallelism seeds
  refine ⟨follows, follows, List.Perm.refl _, ?_, rfl, rfl, rfl⟩
  simpa [reported] using heardOf

section Twins

variable (clear : Unambiguous known)
  (twins : Twins known self target width seeds outcomes others first second)
include twins

theorem probes_known : ∀ probe ∈ first.probes, known probe := by
  apply Frontier.probes_within
  intro entry held
  obtain ⟨_, _, ⟨all, perm, _, ranked⟩, _⟩ := twins.follows
  rw [ranked] at held
  obtain ⟨contact, member, rfl⟩ := List.mem_map.mp held
  exact twins.heardOf contact (Candidates.survivors_subset _ _ (perm.mem_iff.mp member))

include clear

theorem closest_twins : first.candidates.closest = second.candidates.closest := by
  have ranked := Candidates.ranked_of_same clear twins.heardOf twins.follows twins.copies
    (fun _ => ((twins.reordered.flatMap_right _).append_left seeds).mem_iff)
    (fun _ => ((twins.reordered.filter _).map _).mem_iff)
  unfold Candidates.closest
  rw [ranked, twins.follows.width, twins.copies.width]

theorem uncontacted_twins : first.candidates.uncontacted = second.candidates.uncontacted := by
  unfold Candidates.uncontacted
  rw [closest_twins clear twins, twins.contacted]

theorem all_contacted_twins :
    first.candidates.allContacted = second.candidates.allContacted :=
  congrArg List.isEmpty (uncontacted_twins clear twins)

theorem probes_twins : first.probes = second.probes := by
  unfold Frontier.probes Frontier.probeCount Candidates.closestIds
  rw [uncontacted_twins clear twins, closest_twins clear twins, twins.lastIds, twins.parallelism,
    twins.follows.width, twins.copies.width]

theorem launch_twins :
    Twins known self target width seeds outcomes others first.launch second.launch := by
  refine ⟨launch_follows twins.follows, launch_follows twins.copies, twins.reordered,
    twins.heardOf, ?_, twins.parallelism, ?_⟩
  · unfold Frontier.launch
    rw [Candidates.mark_all, Candidates.mark_all, probes_twins clear twins, twins.contacted]
  · exact congrArg (List.map Contact.id) (closest_twins clear twins)

omit clear

theorem absorb_twins {brought copied : List (Contact × Option (List Contact))}
    (reordered : brought.Perm copied)
    (heardOf : ∀ contact ∈ reported self brought, known contact) :
    Twins known self target width seeds (outcomes ++ brought) (others ++ copied)
      (brought.foldl (absorb self) first) (copied.foldl (absorb self) second) := by
  have frame := absorb_all_frame self brought first
  have copyFrame := absorb_all_frame self copied second
  refine ⟨absorb_all_follows twins.follows brought, absorb_all_follows twins.copies copied,
    twins.reordered.append reordered, ?_, ?_, ?_, ?_⟩
  · intro contact listed
    rw [reported, List.flatMap_append, ← List.append_assoc] at listed
    rcases List.mem_append.mp listed with before | now
    · exact twins.heardOf contact before
    · exact heardOf contact now
  · rw [frame.1, copyFrame.1, twins.contacted]
  · rw [frame.2.2, copyFrame.2.2, twins.parallelism]
  · rw [absorb_all_last, absorb_all_last, twins.lastIds]

end Twins

/-- What the probes of a round report is known, if whoever is known reports none but the known. -/
theorem reported_known {choose : α → Option (List Contact)} {answer : Contact → Option α}
    (closed : ∀ contact, known contact → ∀ contacts, (answer contact).bind choose = some contacts →
      ∀ other ∈ contacts, known other)
    {probes : List Contact} (asked : ∀ probe ∈ probes, known probe)
    {brought : List (Contact × Option α)}
    (collected : brought.Perm (probes.map fun probe => (probe, answer probe))) :
    ∀ contact ∈ reported self (picked choose brought), known contact := by
  intro contact listed
  obtain ⟨outcome, among, kept⟩ := List.mem_flatMap.mp listed
  obtain ⟨made, inRound, rfl⟩ := List.mem_map.mp among
  obtain ⟨probe, chosen, rfl⟩ := List.mem_map.mp (collected.mem_iff.mp inRound)
  have named := List.mem_of_mem_filter kept
  cases told : (answer probe).bind choose with
  | none => simp [told] at named
  | some contacts =>
      rw [told, Option.getD_some] at named
      exact closed probe (asked probe chosen) contacts told contact named

/-- Searches that are answered alike probe alike in every round, and find the same. -/
theorem run_twins {choose : α → Option (List Contact)} {answer : Contact → Option α}
    {one : Ask σ α} {other : Ask τ α} (clear : Unambiguous known)
    (closed : ∀ contact, known contact → ∀ contacts, (answer contact).bind choose = some contacts →
      ∀ other ∈ contacts, known other)
    (collects : Collects answer one) (collectsToo : Collects answer other) (rounds : Nat)
    {first second : Frontier} (state : σ) (twin : τ) {log copy : List (Round α)}
    (twins : Twins known self target width seeds (heard choose log) (heard choose copy) first second)
    (alike : log.map Round.probes = copy.map Round.probes) :
    let ended := run self (logged choose one) rounds first (state, log)
    let mirrored := run self (logged choose other) rounds second (twin, copy)
    ended.2.2.map Round.probes = mirrored.2.2.map Round.probes ∧
      ended.1.candidates.closest = mirrored.1.candidates.closest := by
  induction rounds generalizing first second state twin log copy with
  | zero => exact ⟨alike, closest_twins clear twins⟩
  | succ rounds ih =>
      have probes := probes_twins clear twins
      have launched := launch_twins clear twins
      have collected := collects state first.probes
      have copied := collectsToo twin first.probes
      have folded := absorb_twins launched
        ((collected.trans copied.symm).map fun outcome => (outcome.1, outcome.2.bind choose))
        (reported_known closed (probes_known twins) collected)
      have done := all_contacted_twins clear folded
      rw [run, run, ← probes]
      dsimp only [logged, picked]
      rw [← done]
      split_ifs
      · exact ⟨alike, closest_twins clear launched⟩
      · refine ⟨?_, closest_twins clear folded⟩
        rw [List.map_append, List.map_append, alike]
        rfl
      · refine ih _ _ ?_ ?_
        · rw [heard_append, heard_append]
          exact folded
        · rw [List.map_append, List.map_append, alike]
          rfl

end NodeSearch

/-- The contacts a finding reports. A value comes without any. -/
def Finding.contacts : Finding → List Contact
  | .found _ => []
  | .closest contacts => contacts

namespace ValueSearch

/-- The outcomes of a search for a value as its candidates see them. -/
def reports (outcomes : List (Contact × Option Finding)) : List (Contact × Option (List Contact)) :=
  picked (fun finding => some finding.contacts) outcomes

/-- The contact that answered, if it answered without the value. -/
def lacks? (outcome : Contact × Option Finding) : Option Contact :=
  match outcome.2 with
  | some (.closest _) => some outcome.1
  | _ => none

theorem absorb_all_frontier (self : Ident) (outcomes : List (Contact × Option Finding))
    (search : State) : (outcomes.foldl (absorb self) search).frontier =
      (reports outcomes).foldl (NodeSearch.absorb self) search.frontier := by
  induction outcomes generalizing search with
  | nil => rfl
  | cons outcome rest ih =>
      rw [List.foldl_cons, ih]
      obtain ⟨contact, _ | value | contacts⟩ := outcome
      · rfl
      · rfl
      · rfl

theorem absorb_all_lacking (self : Ident) (outcomes : List (Contact × Option Finding))
    (search : State) : (outcomes.foldl (absorb self) search).lacking =
      search.lacking.pushAll (outcomes.filterMap lacks?) := by
  induction outcomes generalizing search with
  | nil => rfl
  | cons outcome rest ih =>
      rw [List.foldl_cons, ih]
      obtain ⟨contact, _ | value | contacts⟩ := outcome
      · rfl
      · rfl
      · rfl

/-- Two searches for a value that have had the same outcomes, in orders of their own. -/
structure Twins (known : Contact → Prop) (own key : Ident) (width : Nat) (seeds : List Contact)
    (outcomes others : List (Contact × Option Finding)) (first second : State) : Prop where
  frontier : NodeSearch.Twins known own key width seeds (reports outcomes) (reports others)
    first.frontier second.frontier
  reordered : outcomes.Perm others
  asked : ∀ outcome ∈ outcomes, known outcome.1
  lacking : first.lacking.Tracks key 1 (outcomes.filterMap lacks?) []
  lackingToo : second.lacking.Tracks key 1 (others.filterMap lacks?) []
  found : first.found.Perm second.found

variable {key : Ident} {outcomes others : List (Contact × Option Finding)} {first second : State}

theorem start_twins (self key : Ident) (width parallelism : Nat)
    (heardOf : ∀ seed ∈ seeds, known seed) :
    Twins known self key width seeds [] [] (State.start key width parallelism seeds)
      (State.start key width parallelism seeds) :=
  ⟨NodeSearch.start_twins self key width parallelism heardOf, List.Perm.refl _, nofun,
    Candidates.empty_tracks key 1, Candidates.empty_tracks key 1, List.Perm.refl _⟩

theorem launch_twins (clear : Unambiguous known)
    (twins : Twins known self key width seeds outcomes others first second) :
    Twins known self key width seeds outcomes others { first with frontier := first.frontier.launch }
      { second with frontier := second.frontier.launch } :=
  { twins with frontier := NodeSearch.launch_twins clear twins.frontier }

theorem absorb_twins (twins : Twins known self key width seeds outcomes others first second)
    {brought copied : List (Contact × Option Finding)} (reordered : brought.Perm copied)
    (asked : ∀ outcome ∈ brought, known outcome.1)
    (heardOf : ∀ contact ∈ reported self (reports brought), known contact) :
    Twins known self key width seeds (outcomes ++ brought) (others ++ copied)
      (brought.foldl (absorb self) first) (copied.foldl (absorb self) second) := by
  refine ⟨?_, twins.reordered.append reordered, ?_, ?_, ?_, ?_⟩
  · rw [absorb_all_frontier, absorb_all_frontier, reports, reports, picked, picked, List.map_append,
      List.map_append]
    exact NodeSearch.absorb_twins twins.frontier (reordered.map _) heardOf
  · intro outcome among
    exact (List.mem_append.mp among).elim (twins.asked outcome) (asked outcome)
  · rw [absorb_all_lacking, List.filterMap_append]
    exact Candidates.push_all_tracks twins.lacking _
  · rw [absorb_all_lacking, List.filterMap_append]
    exact Candidates.push_all_tracks twins.lackingToo _
  · rw [absorb_all_found, absorb_all_found]
    exact twins.found.append (reordered.filterMap _)

/-- The nearest contact without the value is the same, whoever of them answered first. -/
theorem repair_twins (clear : Unambiguous known)
    (twins : Twins known self key width seeds outcomes others first second) :
    first.lacking.closest = second.lacking.closest := by
  have heardOf : ∀ contact ∈ outcomes.filterMap lacks?, known contact := by
    intro contact lacking
    obtain ⟨⟨asked, _ | value | contacts⟩, among, named⟩ := List.mem_filterMap.mp lacking
    · cases named
    · cases named
    · cases named
      exact twins.asked _ among
  have ranked := Candidates.ranked_of_same clear heardOf twins.lacking twins.lackingToo
    (fun _ => (twins.reordered.filterMap _).mem_iff) fun _ => Iff.rfl
  unfold Candidates.closest
  rw [ranked, twins.lacking.width, twins.lackingToo.width]

/-- The values that the last round of a search found, in the order they came in. -/
def decisive (choose : α → Option Finding) (log : List (Round α)) : List Octets :=
  match log.getLast? with
  | none => []
  | some round => (picked choose round.outcomes).filterMap value?

theorem decisive_append (choose : α → Option Finding) (log : List (Round α)) (round : Round α) :
    decisive choose (log ++ [round]) = (picked choose round.outcomes).filterMap value? := by
  rw [decisive, List.getLast?_concat]

/-- What a search for a value has found is what its last round found. -/
theorem run_found (choose : α → Option Finding) (ask : Ask σ α) (rounds : Nat) {search : State}
    (state : σ) {log : List (Round α)} (fresh : search.found = []) (none : decisive choose log = []) :
    let ended := run self (logged choose ask) rounds search (state, log)
    ended.1.found = decisive choose ended.2.2 := by
  induction rounds generalizing search state log with
  | zero => exact fresh.trans none.symm
  | succ rounds ih =>
      have found : ((picked choose (ask state search.frontier.probes).1).foldl (absorb self)
          { search with frontier := search.frontier.launch }).found =
          decisive choose
            (log ++ [⟨search.frontier.probes, (ask state search.frontier.probes).1⟩]) := by
        rw [absorb_all_found, decisive_append, fresh, List.nil_append]
      rw [run]
      dsimp only [logged]
      split_ifs with idle done
      · exact fresh.trans none.symm
      · exact found
      · rw [Bool.or_eq_true, not_or, Bool.not_eq_true', Bool.not_eq_false, List.isEmpty_iff] at done
        exact ih _ done.1 (found ▸ done.1)

/-- Two searches that send the probes of a round, and collect the same outcomes in some order. -/
theorem round_twins {choose : α → Option Finding} {answer : Contact → Option α}
    (clear : Unambiguous known)
    (closed : ∀ contact, known contact → ∀ finding, (answer contact).bind choose = some finding →
      ∀ other ∈ finding.contacts, known other)
    (twins : Twins known self key width seeds outcomes others first second)
    {brought copied : List (Contact × Option α)}
    (collected : brought.Perm (first.frontier.probes.map fun probe => (probe, answer probe)))
    (collectedToo : copied.Perm (first.frontier.probes.map fun probe => (probe, answer probe))) :
    Twins known self key width seeds (outcomes ++ picked choose brought)
      (others ++ picked choose copied)
      ((picked choose brought).foldl (absorb self)
        { first with frontier := first.frontier.launch })
      ((picked choose copied).foldl (absorb self)
        { second with frontier := second.frontier.launch }) := by
  have asked := NodeSearch.probes_known twins.frontier
  have findings : (picked choose brought).Perm
      (first.frontier.probes.map fun probe => (probe, (answer probe).bind choose)) := by
    have mapped := collected.map fun outcome => (outcome.1, outcome.2.bind choose)
    rw [List.map_map] at mapped
    exact mapped
  refine absorb_twins (launch_twins clear twins) ((collected.trans collectedToo.symm).map _) ?_ ?_
  · intro outcome among
    obtain ⟨probe, chosen, rfl⟩ := List.mem_map.mp (findings.mem_iff.mp among)
    exact asked probe chosen
  · refine NodeSearch.reported_known ?_ asked findings
    intro contact member contacts told
    obtain ⟨finding, answered, same⟩ := Option.bind_eq_some_iff.mp told
    exact Option.some.inj same ▸ closed contact member finding answered

/-- Searches for a value that are answered alike probe alike in every round, find the same values in
some order, and repair the same contact. -/
theorem run_twins {choose : α → Option Finding} {answer : Contact → Option α} {one : Ask σ α}
    {other : Ask τ α} (clear : Unambiguous known)
    (closed : ∀ contact, known contact → ∀ finding, (answer contact).bind choose = some finding →
      ∀ other ∈ finding.contacts, known other)
    (collects : Collects answer one) (collectsToo : Collects answer other) (rounds : Nat)
    {first second : State} (state : σ) (twin : τ) {log copy : List (Round α)}
    (twins : Twins known self key width seeds (heard choose log) (heard choose copy) first second)
    (alike : log.map Round.probes = copy.map Round.probes) :
    let ended := run self (logged choose one) rounds first (state, log)
    let mirrored := run self (logged choose other) rounds second (twin, copy)
    ended.2.2.map Round.probes = mirrored.2.2.map Round.probes ∧
      ended.1.found.Perm mirrored.1.found ∧
      ended.1.lacking.closest = mirrored.1.lacking.closest := by
  induction rounds generalizing first second state twin log copy with
  | zero => exact ⟨alike, twins.found, repair_twins clear twins⟩
  | succ rounds ih =>
      have probes := NodeSearch.probes_twins clear twins.frontier
      have launched := launch_twins clear twins
      have folded := round_twins clear closed twins (collects state first.frontier.probes)
        (collectsToo twin first.frontier.probes)
      have done := NodeSearch.all_contacted_twins clear folded.frontier
      have none := folded.found.isEmpty_eq
      rw [run, run, ← probes]
      dsimp only [logged]
      rw [← done, ← none]
      split_ifs
      · exact ⟨alike, launched.found, repair_twins clear launched⟩
      · refine ⟨?_, folded.found, repair_twins clear folded⟩
        rw [List.map_append, List.map_append, alike]
        rfl
      · refine ih _ _ ?_ ?_
        · rw [heard_append, heard_append]
          exact folded
        · rw [List.map_append, List.map_append, alike]
          rfl

/-- Noting down the rounds changes neither what a search for a value finds nor what its probes leave
behind. -/
theorem find_value_logged (choose : α → Option Finding) (self key : Ident)
    (width parallelism : Nat) (seeds : List Contact) (ask : Ask σ α) (state : σ) :
    let ended := run self (logged choose ask) maxRounds (State.start key width parallelism seeds)
      (state, [])
    findValue self (picking choose ask) key width parallelism seeds state =
      (ended.1.hit, ended.2.1) := by
  have agree : Agree (fun _ => True) (Fine self (fun _ => True) fun _ => True)
      (fun state (noted : σ × List (Round α)) => noted.1 = state)
      (picking choose ask) (logged choose ask) := by
    refine ⟨?_, ?_, ?_⟩
    · rintro _ noted probes rfl _
      rfl
    · rintro _ noted probes rfl _
      rfl
    · intro _ _ _ _ _ _ _
      refine ⟨trivial, ?_⟩
      rintro (value | contacts) _
      · trivial
      · exact fun _ _ _ => trivial
  have seeded : ∀ seed ∈ seeds, (fun _ => True) seed := fun _ _ => trivial
  obtain ⟨same, left, _⟩ := find_value_agree agree key width parallelism seeded state (state, []) rfl
  exact Prod.ext same left.symm

/-- A value found more often than every other is the one a search returns. -/
theorem hit_of_strict {search : State} {value : Octets}
    (strict : ∀ rival, rival ≠ value → search.found.count rival < search.found.count value) :
    search.hit.map Hit.value = some value := by
  rw [State.hit, majority_of_strict strict]
  rfl

/-- Values found in another order are found, and repaired, all the same. -/
theorem hit_of_perm {first second : State} (found : first.found.Perm second.found)
    (repair : first.lacking.closest = second.lacking.closest) :
    first.hit.isSome = second.hit.isSome ∧ first.hit.map Hit.repair = second.hit.map Hit.repair := by
  by_cases none : first.found = []
  · have absent : second.found = [] := List.nil_perm.mp (none ▸ found)
    rw [State.hit, State.hit, none, absent]
    exact ⟨rfl, rfl⟩
  · have also : second.found ≠ [] := fun absent => none (List.perm_nil.mp (absent ▸ found))
    obtain ⟨value, won⟩ := Option.isSome_iff_exists.mp (majority_isSome none)
    obtain ⟨other, wins⟩ := Option.isSome_iff_exists.mp (majority_isSome also)
    rw [State.hit, State.hit, won, wins, repair]
    exact ⟨rfl, rfl⟩

end ValueSearch

/-- The seeds of a search, and the contacts that anyone names in any answer. -/
def Mentioned (answers : Contact → Query → Option Reply) (seeds : List Contact)
    (contact : Contact) : Prop :=
  contact ∈ seeds ∨ ∃ teller query, ∃ reply ∈ answers teller query,
    contact ∈ (Message.response ⟨0, reply⟩).contacts

/-- When every contact has its answer to every query, and no name comes with two endpoints, the order
in which the outcomes of the rounds are collected is of no account. A search for contacts probes the
same contacts in every round and finds the same; so does a search for a value, which repairs the same
contact and returns the same value, if one was found more often than every other in its last round. -/
theorem collecting_order_immaterial {σ τ : Type} (self target : Ident) (width parallelism : Nat)
    (seeds : List Contact) (answers : Contact → Query → Option Reply)
    (clear : Unambiguous (Mentioned answers seeds)) (one : Query → Ask σ Reply)
    (other : Query → Ask τ Reply)
    (collects : ∀ query, Collects (fun contact => answers contact query) (one query))
    (collectsToo : ∀ query, Collects (fun contact => answers contact query) (other query))
    (state : σ) (twin : τ) :
    let search := NodeSearch.search self (logged Reply.contacts? (one (.findNode target))) target
      width parallelism seeds (state, [])
    let searchToo := NodeSearch.search self (logged Reply.contacts? (other (.findNode target)))
      target width parallelism seeds (twin, [])
    let start := ValueSearch.State.start target width parallelism seeds
    let query := Query.findValue target.octets
    let reading := ValueSearch.run self (logged Reply.finding? (one query)) maxRounds start (state, [])
    let readingToo :=
      ValueSearch.run self (logged Reply.finding? (other query)) maxRounds start (twin, [])
    let hit := (findValue self (picking Reply.finding? (one query)) target width parallelism seeds
      state).1
    let hitToo := (findValue self (picking Reply.finding? (other query)) target width parallelism
      seeds twin).1
    let values := ValueSearch.decisive Reply.finding? reading.2.2
    (search.2.2.map Round.probes = searchToo.2.2.map Round.probes ∧
      (findNodes self (picking Reply.contacts? (one (.findNode target))) target width parallelism
          seeds state).1 =
        (findNodes self (picking Reply.contacts? (other (.findNode target))) target width parallelism
          seeds twin).1) ∧
    reading.2.2.map Round.probes = readingToo.2.2.map Round.probes ∧
      hit.isSome = hitToo.isSome ∧ hit.map Hit.repair = hitToo.map Hit.repair ∧
      ∀ value, (∀ rival, rival ≠ value → values.count rival < values.count value) →
        hit.map Hit.value = some value ∧ hitToo.map Hit.value = some value := by
  intro search searchToo start query reading readingToo hit hitToo values
  have seeded : ∀ seed ∈ seeds, Mentioned answers seeds seed := fun _ => Or.inl
  constructor
  · rw [NodeSearch.find_nodes_logged, NodeSearch.find_nodes_logged]
    refine NodeSearch.run_twins clear ?_ (collects _) (collectsToo _) maxRounds state twin
      (NodeSearch.start_twins self target width parallelism seeded) rfl
    intro contact _ contacts told named listed
    obtain ⟨reply, answered, chosen⟩ := Option.bind_eq_some_iff.mp told
    obtain rfl := Reply.eq_of_contacts chosen
    exact Or.inr ⟨contact, _, _, answered, listed⟩
  · have begun : ValueSearch.Twins (Mentioned answers seeds) self target width seeds
        (heard Reply.finding? []) (heard Reply.finding? []) start start :=
      ValueSearch.start_twins self target width parallelism seeded
    have closed : ∀ contact, Mentioned answers seeds contact → ∀ finding,
        (answers contact query).bind Reply.finding? = some finding →
        ∀ named ∈ finding.contacts, Mentioned answers seeds named := by
      intro contact _ finding told named listed
      obtain ⟨reply, answered, chosen⟩ := Option.bind_eq_some_iff.mp told
      rcases Reply.eq_of_finding chosen with ⟨value, rfl, rfl⟩ | ⟨contacts, rfl, rfl⟩
      · cases listed
      · exact Or.inr ⟨contact, _, _, answered, listed⟩
    obtain ⟨alike, found, repair⟩ := ValueSearch.run_twins clear closed (collects query)
      (collectsToo query) maxRounds state twin begun rfl
    obtain ⟨some, repaired⟩ := ValueSearch.hit_of_perm found repair
    have seen : reading.1.found = values :=
      ValueSearch.run_found Reply.finding? (one query) maxRounds state rfl rfl
    have same : hit = reading.1.hit := congrArg Prod.fst (ValueSearch.find_value_logged ..)
    have sameToo : hitToo = readingToo.1.hit := congrArg Prod.fst (ValueSearch.find_value_logged ..)
    rw [same, sameToo]
    refine ⟨alike, some, repaired, ?_⟩
    intro value strict
    rw [← seen] at strict
    refine ⟨ValueSearch.hit_of_strict strict, ValueSearch.hit_of_strict ?_⟩
    intro rival apart
    rw [← found.count_eq, ← found.count_eq]
    exact strict rival apart

/-- Five contacts. The third is silent; the first names the others, who have two values between
them. -/
def divided (contact : Contact) : Query → Option Reply
  | .findNode _ =>
    if contact = numbered 3 then none
    else some (.nodes [numbered 5, numbered 4, numbered 3, numbered 2])
  | .findValue _ =>
    if contact = numbered 1 then some (.closest [numbered 5, numbered 4, numbered 3, numbered 2])
    else if contact = numbered 3 then none
    else if contact = numbered 4 then some (.found [8])
    else some (.found [7])
  | _ => none

/-- Probes are answered in the order they are sent. -/
def inOrder (query : Query) : Ask Unit Reply :=
  fun state probes => (probes.map fun probe => (probe, divided probe query), state)

/-- The last probe of a round is answered first. -/
def inReverse (query : Query) : Ask Unit Reply :=
  fun state probes => ((probes.map fun probe => (probe, divided probe query)).reverse, state)

theorem divided_unambiguous : Unambiguous (Mentioned divided [numbered 1]) := by
  have few : ∀ contact, Mentioned divided [numbered 1] contact →
      contact ∈ [numbered 1, numbered 5, numbered 4, numbered 3, numbered 2] := by
    rintro contact (seed | ⟨teller, query, reply, answered, named⟩)
    · exact List.mem_cons.mpr (Or.inl (List.mem_singleton.mp seed))
    · apply List.mem_cons_of_mem
      cases query with
      | ping => cases answered
      | store key value => cases answered
      | findNode target =>
          rw [divided] at answered
          split_ifs at answered
          · cases answered
          · cases answered
            exact named
      | findValue key =>
          rw [divided] at answered
          split_ifs at answered
          · cases answered
            exact named
          · cases answered
          · cases answered
            cases named
          · cases answered
            cases named
  intro first second known also _ _ named
  have apart : ∀ one ∈ [numbered 1, numbered 5, numbered 4, numbered 3, numbered 2],
      ∀ other ∈ [numbered 1, numbered 5, numbered 4, numbered 3, numbered 2],
      one.id = other.id → one = other := by
    decide +kernel
  exact apart first (few first known) second (few second also) named

/-- Two of the three contacts that have a value agree on it, and in whichever order the answers come
in, it is the value that is found, and the first contact is the one to repair. -/
theorem divided_contacts_found_alike :
    let found := fun query => findNodes (Ident.ofNat 9) (picking Reply.contacts? query)
      Ident.zero 5 4 [numbered 1] ()
    let hit := fun query => findValue (Ident.ofNat 9) (picking Reply.finding? query)
      Ident.zero 5 4 [numbered 1] ()
    (found (inOrder (.findNode Ident.zero))).1 = [numbered 1, numbered 2, numbered 4, numbered 5] ∧
      (found (inReverse (.findNode Ident.zero))).1 =
        [numbered 1, numbered 2, numbered 4, numbered 5] ∧
      (hit (inOrder (.findValue Ident.zero.octets))).1 = some ⟨[7], some (numbered 1)⟩ ∧
      (hit (inReverse (.findValue Ident.zero.octets))).1.map Hit.value = some [7] ∧
      (hit (inReverse (.findValue Ident.zero.octets))).1.map Hit.repair =
        some (some (numbered 1)) := by
  intro found hit
  have collects : ∀ query, Collects (fun contact => divided contact query) (inOrder query) :=
    fun _ _ _ => List.Perm.refl _
  have collectsToo : ∀ query, Collects (fun contact => divided contact query) (inReverse query) :=
    fun _ _ _ => List.reverse_perm _
  obtain ⟨⟨_, same⟩, _, _, repair, strict⟩ := collecting_order_immaterial (Ident.ofNat 9) Ident.zero
    5 4 [numbered 1] divided divided_unambiguous inOrder inReverse collects collectsToo () ()
  have first : (found (inOrder (.findNode Ident.zero))).1 =
      [numbered 1, numbered 2, numbered 4, numbered 5] := by
    decide +kernel
  have won : (hit (inOrder (.findValue Ident.zero.octets))).1 = some ⟨[7], some (numbered 1)⟩ := by
    decide +kernel
  have votes : ValueSearch.decisive Reply.finding? (ValueSearch.run (Ident.ofNat 9)
      (logged Reply.finding? (inOrder (.findValue Ident.zero.octets))) maxRounds
      (ValueSearch.State.start Ident.zero 5 4 [numbered 1]) ((), [])).2.2 = [[7], [8], [7]] := by
    decide +kernel
  refine ⟨first, same.symm.trans first, won, (strict [7] ?_).2, repair.symm.trans ?_⟩
  · intro rival apart
    rw [votes]
    have fewer : [[7], [8], [7]].count rival ≤ 1 := by
      rw [List.count_cons_of_ne apart.symm, List.count_cons, List.count_cons_of_ne apart.symm]
      split_ifs <;> simp
    exact fewer.trans_lt (by decide)
  · exact congrArg (Option.map Hit.repair) won

end Lookup
end XorOverlay
