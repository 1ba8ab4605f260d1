import Mathlib
import XorOverlay.Proofs.Lookup.Reordering
import XorOverlay.Proofs.Node.Errands

/-!
What a search for a value comes to. The first round that brings a value is the last: the value that
occurs most often in it is returned, the first of equals, and the nearest contact that answered
without a value, in this round or an earlier one, is named for repair. A search that ends with
nothing to show before its rounds are used up has heard from each of the closest contacts it knows,
but for those that failed, that it has no value.
-/

namespace XorOverlay

set_option autoImplicit false

namespace Lookup

variable {σ α : Type}

/-- The outcomes of a round are those of its probes. -/
def Direct (ask : Ask σ α) : Prop :=
  ∀ state probes, ∀ outcome ∈ (ask state probes).1, outcome.1 ∈ probes

/-- The values that a round brought, in the order they came in. -/
def Round.values (round : Round Reply) : List Octets :=
  round.outcomes.filterMap fun outcome =>
    match outcome.2 with
    | some (.found value) => some value
    | _ => none

/-- The contacts that answered with contacts instead of a value. -/
def lackers (log : List (Round Reply)) : List Contact :=
  (log.flatMap Round.outcomes).filterMap fun outcome =>
    match outcome.2 with
    | some (.closest _) => some outcome.1
    | _ => none

/-- The place of a repair: the contact without the value that is nearest to the key, if any is. -/
def NearestLacker (key : Ident) (lacking : List Contact) : Option Contact → Prop
  | none => lacking = []
  | some peer => peer ∈ lacking ∧
      ∀ other ∈ lacking, peer.id.distance key ≤ other.id.distance key

namespace ValueSearch

theorem values_eq (round : Round Reply) :
    (picked Reply.finding? round.outcomes).filterMap value? = round.values := by
  rw [picked, List.filterMap_map]
  apply List.filterMap_congr
  rintro ⟨contact, _ | reply⟩ _
  · rfl
  · cases reply with
    | pong id => rfl
    | stored accepted => rfl
    | nodes contacts => rfl
    | found value => rfl
    | closest contacts => rfl

theorem lackers_eq (log : List (Round Reply)) :
    (heard Reply.finding? log).filterMap lacks? = lackers log := by
  rw [heard, picked, List.filterMap_map]
  apply List.filterMap_congr
  rintro ⟨contact, _ | reply⟩ _
  · rfl
  · cases reply with
    | pong id => rfl
    | stored accepted => rfl
    | nodes contacts => rfl
    | found value => rfl
    | closest contacts => rfl

theorem lackers_append (log : List (Round Reply)) (round : Round Reply) :
    lackers (log ++ [round]) = lackers log ++
      (picked Reply.finding? round.outcomes).filterMap lacks? := by
  rw [← lackers_eq, heard_append, List.filterMap_append, lackers_eq]

/-- What every round with probes keeps, as long as nothing was found, holds, of the rounds noted down by
then, of a search that has found what a search ends with, and has the same candidates. -/
theorem run_reaches {self : Ident} {choose : α → Option Finding} {ask : Ask σ α}
    {motive : List (Round α) → State → Prop}
    (keeps : ∀ log (search : State) state, search.found = [] → search.frontier.probes ≠ [] →
      motive log search →
      motive (log ++ [⟨search.frontier.probes, (ask state search.frontier.probes).1⟩])
        ((picked choose (ask state search.frontier.probes).1).foldl (absorb self)
          { search with frontier := search.frontier.launch }))
    (rounds : Nat) {search : State} (state : σ) (log : List (Round α)) (fresh : search.found = [])
    (start : motive log search) :
    let ended := run self (logged choose ask) rounds search (state, log)
    ended.2.2.length ≤ log.length + rounds ∧ ∃ last, motive ended.2.2 last ∧
      ended.1.found = last.found ∧ ended.1.lacking = last.lacking ∧
        ended.1.frontier.candidates = last.frontier.candidates := by
  induction rounds generalizing search state log with
  | zero => exact ⟨le_rfl, search, start, rfl, rfl, rfl⟩
  | succ rounds ih =>
      have after := fun busy => keeps log search state fresh busy start
      rw [run]
      dsimp only [logged]
      split_ifs with idle done
      · exact ⟨Nat.le_add_right _ _, search, start, rfl, rfl,
          Frontier.launch_idle (List.isEmpty_iff.mp idle)⟩
      · refine ⟨?_, _, after (mt List.isEmpty_iff.mpr idle), rfl, rfl, rfl⟩
        rw [List.length_append, List.length_singleton]
        omega
      · rw [Bool.or_eq_true, not_or, Bool.not_eq_true', Bool.not_eq_false, List.isEmpty_iff] at done
        obtain ⟨length, reached⟩ := ih (ask state search.frontier.probes).2 _ done.1
          (after (mt List.isEmpty_iff.mpr idle))
        refine ⟨length.trans ?_, reached⟩
        rw [List.length_append, List.length_singleton]
        omega

/-- A search for a value, as far as the rounds noted down tell: its candidates are what the outcomes
leave, the contacts that lack the value are on its list, and no round but the last has a value. -/
structure Recorded (own key : Ident) (width : Nat) (seeds : List Contact)
    (log : List (Round Reply)) (search : State) : Prop where
  follows : NodeSearch.Follows own key width seeds (reports (heard Reply.finding? log))
    search.frontier.candidates
  accounted : (∀ round ∈ log, round.Complete) →
    NodeSearch.Accounted (reports (heard Reply.finding? log)) search.frontier.candidates
  lacking : search.lacking.Tracks key 1 (lackers log) []
  reached : ∀ contact ∈ lackers log, contact.endpoint.isSome = true
  found : ∃ before last, log = before ++ last ∧ last.length ≤ 1 ∧
    (∀ round ∈ before, round.values = []) ∧ search.found = last.flatMap Round.values

variable {own key : Ident} {width : Nat} {seeds : List Contact} {log : List (Round Reply)}
  {search : State}

theorem start_recorded (own key : Ident) (width parallelism : Nat) (seeds : List Contact) :
    Recorded own key width seeds [] (State.start key width parallelism seeds) where
  follows := NodeSearch.start_follows own key width parallelism seeds
  accounted := by
    intro _ id asked
    rw [State.start, Frontier.start, (Candidates.push_all_frame _ _).1] at asked
    cases asked
  lacking := Candidates.empty_tracks key 1
  reached := nofun
  found := ⟨[], [], rfl, Nat.zero_le _, nofun, rfl⟩

/-- Only contacts that can be sent to are probed. -/
theorem probes_reached {outcomes : List (Contact × Option (List Contact))} {frontier : Frontier}
    (follows : NodeSearch.Follows own key width seeds outcomes frontier.candidates) :
    ∀ probe ∈ frontier.probes, probe.endpoint.isSome = true := by
  intro probe chosen
  have survives := NodeSearch.probes_survive follows probe chosen
  have usable := Candidates.firsts_subset _ (List.mem_of_mem_filter survives)
  exact (List.mem_filter.mp usable).2

theorem round_recorded (recorded : Recorded own key width seeds log search)
    (fresh : search.found = []) {brought : List (Contact × Option Reply)}
    (direct : ∀ outcome ∈ brought, outcome.1 ∈ search.frontier.probes) :
    Recorded own key width seeds (log ++ [⟨search.frontier.probes, brought⟩])
      ((picked Reply.finding? brought).foldl (absorb own)
        { search with frontier := search.frontier.launch }) where
  follows := by
    rw [heard_append, reports, picked, List.map_append, absorb_all_frontier]
    exact NodeSearch.absorb_all_follows (NodeSearch.launch_follows recorded.follows) _
  accounted := by
    intro complete
    rw [List.forall_mem_append, List.forall_mem_singleton] at complete
    rw [heard_append, reports, picked, List.map_append, absorb_all_frontier]
    apply NodeSearch.round_accounted (recorded.accounted complete.1)
    intro probe chosen
    obtain ⟨outcome, among, rfl⟩ := complete.2 probe chosen
    exact ⟨_, List.mem_map_of_mem (List.mem_map_of_mem among), rfl⟩
  lacking := by
    rw [absorb_all_lacking, lackers_append]
    exact Candidates.push_all_tracks recorded.lacking _
  reached := by
    rw [lackers_append]
    refine List.forall_mem_append.mpr ⟨recorded.reached, ?_⟩
    intro contact lacking
    obtain ⟨⟨asked, _ | value | contacts⟩, among, named⟩ := List.mem_filterMap.mp lacking
    · cases named
    · cases named
    · obtain rfl := Option.some.inj named
      obtain ⟨outcome, inRound, same⟩ := List.mem_map.mp among
      rw [← congrArg Prod.fst same]
      exact probes_reached recorded.follows _ (direct outcome inRound)
  found := by
    obtain ⟨before, last, rfl, _, none, found⟩ := recorded.found
    refine ⟨before ++ last, [⟨search.frontier.probes, brought⟩], rfl, le_rfl, ?_, ?_⟩
    · refine List.forall_mem_append.mpr ⟨none, ?_⟩
      rw [fresh] at found
      exact List.flatMap_eq_nil_iff.mp found.symm
    · rw [absorb_all_found, fresh, List.nil_append, List.flatMap_singleton, ← values_eq]

theorem run_recorded {ask : Ask σ Reply} (direct : Direct ask) (own key : Ident)
    (width parallelism : Nat) (seeds : List Contact) (state : σ) :
    let ended := run own (logged Reply.finding? ask) maxRounds
      (State.start key width parallelism seeds) (state, [])
    Recorded own key width seeds ended.2.2 ended.1 := by
  intro ended
  obtain ⟨_, last, recorded, found, lacking, candidates⟩ :=
    run_reaches (motive := Recorded own key width seeds)
      (fun _ search state fresh _ recorded =>
        round_recorded recorded fresh (direct state search.frontier.probes))
      maxRounds state [] rfl (start_recorded own key width parallelism seeds)
  exact {
    follows := candidates ▸ recorded.follows
    accounted := candidates ▸ recorded.accounted
    lacking := lacking ▸ recorded.lacking
    reached := recorded.reached
    found := found ▸ recorded.found }

/-- A search for a value ends with a value, or when all of its closest candidates have been asked, or
after the last round. -/
theorem run_ends (choose : α → Option Finding) (self : Ident) (ask : Ask σ α) (rounds : Nat)
    (search : State) (wide : 0 < search.frontier.candidates.width)
    (busy : 0 < search.frontier.parallelism) (state : σ) (log : List (Round α)) :
    let ended := run self (logged choose ask) rounds search (state, log)
    ended.1.found ≠ [] ∨ ended.1.frontier.candidates.allContacted = true ∨
      ended.2.2.length = log.length + rounds := by
  induction rounds generalizing search state log with
  | zero => exact Or.inr (Or.inr rfl)
  | succ rounds ih =>
      have frame := NodeSearch.absorb_all_frame self
        (reports (picked choose (ask state search.frontier.probes).1)) search.frontier.launch
      have launched : search.frontier.launch.candidates.width =
          search.frontier.candidates.width := by
        rw [Frontier.launch, Candidates.mark_all]
      have later := ih ((picked choose (ask state search.frontier.probes).1).foldl (absorb self)
          { search with frontier := search.frontier.launch })
        (by rw [absorb_all_frontier, frame.2.1, launched]; exact wide)
        (by rw [absorb_all_frontier, frame.2.2]; exact busy)
        (ask state search.frontier.probes).2
        (log ++ [⟨search.frontier.probes, (ask state search.frontier.probes).1⟩])
      rw [run]
      dsimp only [logged]
      split_ifs with idle done
      · right; left
        dsimp only
        rw [Frontier.launch_idle (List.isEmpty_iff.mp idle)]
        exact Frontier.done_of_idle wide busy (List.isEmpty_iff.mp idle)
      · rw [Bool.or_eq_true, Bool.not_eq_true', List.isEmpty_eq_false_iff] at done
        exact done.imp_right Or.inl
      · refine later.imp_right (Or.imp_right fun length => length.trans ?_)
        rw [List.length_append, List.length_singleton]
        omega

/-- The contact a search names for repair is the nearest that answered without a value. -/
theorem repair_nearest (recorded : Recorded own key width seeds log search) :
    NearestLacker key (lackers log) search.lacking.closest.head? := by
  obtain ⟨all, perm, ascending, closest⟩ := Candidates.closest_tracks recorded.lacking
  have listed : ∀ contact ∈ lackers log, ∃ other ∈ all, other.id = contact.id := by
    intro contact lacking
    obtain ⟨other, kept, named⟩ := (Candidates.survivors_named (lackers log) [] contact.id).mpr
      ⟨List.not_mem_nil, contact,
        List.mem_filter.mpr ⟨lacking, recorded.reached contact lacking⟩, rfl⟩
    exact ⟨other, perm.mem_iff.mpr kept, named⟩
  rw [closest]
  cases all with
  | nil =>
      refine List.eq_nil_iff_forall_not_mem.mpr ?_
      intro contact lacking
      obtain ⟨_, none, _⟩ := listed contact lacking
      cases none
  | cons nearest rest =>
      refine ⟨Candidates.survivors_subset _ _ (perm.mem_iff.mp List.mem_cons_self), ?_⟩
      intro contact lacking
      obtain ⟨other, among, named⟩ := listed contact lacking
      rw [← named]
      rcases List.mem_cons.mp among with rfl | later
      · exact le_rfl
      · exact (List.rel_of_pairwise_cons ascending later).le

/-- A search has a hit exactly if some round brought a value; and then the round is the last, and the
hit is the value elected by it. -/
theorem hit_elected (recorded : Recorded own key width seeds log search) :
    (search.hit.isSome = true ↔ ∃ round ∈ log, round.values ≠ []) ∧
      ∀ hit, search.hit = some hit → ∃ before last, log = before ++ [last] ∧
        (∀ round ∈ before, round.values = []) ∧ Elected last.values hit.value := by
  obtain ⟨before, last, rfl, short, none, found⟩ := recorded.found
  have elected : ∀ hit, search.hit = some hit → ∃ final, last = [final] ∧
      Elected final.values hit.value := by
    intro hit won
    obtain ⟨value, majority, rfl⟩ := Option.map_eq_some_iff.mp won
    rw [found] at majority
    cases last with
    | nil => cases majority
    | cons final rest =>
        obtain rfl := List.eq_nil_of_length_eq_zero (Nat.le_zero.mp (Nat.le_of_succ_le_succ short))
        rw [List.flatMap_singleton] at majority
        exact ⟨final, rfl, majority_elected majority⟩
  refine ⟨⟨?_, ?_⟩, ?_⟩
  · intro some
    obtain ⟨hit, won⟩ := Option.isSome_iff_exists.mp some
    obtain ⟨final, rfl, early, late, votes, _⟩ := elected hit won
    refine ⟨final, List.mem_append_right _ (List.mem_singleton_self final), ?_⟩
    rw [votes]
    exact List.append_ne_nil_of_right_ne_nil _ (List.cons_ne_nil _ _)
  · rintro ⟨round, noted, brought⟩
    have final : round ∈ last :=
      (List.mem_append.mp noted).resolve_left fun old => brought (none round old)
    rw [State.hit, Option.isSome_map, found]
    exact majority_isSome fun empty => brought (List.flatMap_eq_nil_iff.mp empty round final)
  · intro hit won
    obtain ⟨final, rfl, elects⟩ := elected hit won
    exact ⟨before, final, rfl, none, elects⟩

/-- Whoever reported something, in rounds without values, answered with contacts. -/
theorem lacking_of_reported {contact : Contact} {contacts : List Contact}
    (none : ∀ round ∈ log, round.values = [])
    (answered : (contact, some contacts) ∈ reports (heard Reply.finding? log)) :
    contact ∈ lackers log := by
  obtain ⟨⟨asked, finding⟩, among, equal⟩ := List.mem_map.mp answered
  obtain ⟨rfl, told⟩ := Prod.mk.inj equal
  obtain ⟨finding, rfl, _⟩ := Option.bind_eq_some_iff.mp told
  cases finding with
  | found value =>
      obtain ⟨outcome, inLog, same⟩ := List.mem_map.mp among
      obtain ⟨round, noted, inRound⟩ := List.mem_flatMap.mp inLog
      have counted : value ∈ round.values := by
        rw [← values_eq]
        exact List.mem_filterMap.mpr ⟨_, List.mem_map_of_mem inRound, same ▸ rfl⟩
      rw [none round noted] at counted
      cases counted
  | closest named =>
      rw [← lackers_eq]
      exact List.mem_filterMap.mpr ⟨_, among, rfl⟩

/-- A search without a hit has no values of its last round. -/
theorem found_nil_of_missed {search : State} (missed : search.hit = none) : search.found = [] := by
  by_contra voted
  have hit : search.hit.isSome = true := by
    rw [State.hit, Option.isSome_map]
    exact majority_isSome voted
  rw [missed] at hit
  cases hit

/-- When a search without a hit has asked all of its closest candidates, each of them has answered
without a value. -/
theorem closest_lack (recorded : Recorded own key width seeds log search)
    (missed : search.hit = none) (asked : search.frontier.candidates.allContacted = true)
    (complete : ∀ round ∈ log, round.Complete) :
    let outcomes := reports (heard Reply.finding? log)
    ∃ all, all.Perm (Candidates.survivors (seeds ++ reported own outcomes) (failures outcomes)) ∧
      Ascending key all ∧ ∀ contact ∈ all.take width, contact ∈ lackers log := by
  intro outcomes
  obtain ⟨hits, _⟩ := hit_elected recorded
  have quiet : ∀ round ∈ log, round.values = [] := by
    intro round noted
    by_contra brought
    have hit := hits.mpr ⟨round, noted, brought⟩
    rw [missed] at hit
    cases hit
  obtain ⟨all, perm, ascending, closest⟩ := Candidates.closest_tracks recorded.follows
  refine ⟨all, perm, ascending, ?_⟩
  rw [← closest]
  intro contact listed
  obtain ⟨contacts, answered⟩ := NodeSearch.answered_of_closest own key width seeds recorded.follows
    (recorded.accounted complete) asked contact listed
  exact lacking_of_reported quiet answered

end ValueSearch
end Lookup

namespace Scene

open Lookup

theorem call_all_direct {ε : Type} (caller : Caller ε) (query : Query) :
    Direct (callAll caller query) := by
  intro scene probes
  induction probes generalizing scene with
  | nil => exact nofun
  | cons probe rest ih =>
      intro outcome among
      rw [call_all_cons] at among
      rcases List.mem_append.mp among with first | later
      · cases called : (caller probe query scene).1 with
        | answered reply =>
            rw [called] at first
            exact List.mem_singleton.mp first ▸ List.mem_cons_self
        | failed =>
            rw [called] at first
            exact List.mem_singleton.mp first ▸ List.mem_cons_self
        | lost =>
            rw [called] at first
            cases first
      · exact List.mem_cons_of_mem _ (ih _ outcome later)

/-- A node that searches the value of a key has one exactly if a round of its search brings one. The
round is then the last. The value is the one that occurs most often in it, of equals the one that came
in first. If any contact answered without a value, one errand is ordered, which sends the nearest of
them to the key one query, to store the value, and nothing else; otherwise nothing is ordered. A search
that ends without a value before its rounds are used up has an answer without a value of each of the
contacts nearest to the key, of the seeds and all that were reported, the node itself and those that
failed apart. -/
theorem value_search_settled {ε : Type} (ask : Ask (Scene ε) Reply) (direct : Direct ask)
    (key : Ident) (seeds : List Contact) (scene : Scene ε) (wide : 0 < scene.node.width)
    (busy : 0 < scene.node.parallelism) :
    let searched := scene.searchValue ask key seeds
    let ended := ValueSearch.run scene.node.id (logged Reply.finding? ask) maxRounds
      (ValueSearch.State.start key scene.node.width scene.node.parallelism seeds) (scene, [])
    let left := ended.2.1
    let log := ended.2.2
    let outcomes := ValueSearch.reports (heard Reply.finding? log)
    (searched.1.isSome = true ↔ ∃ round ∈ log, round.values ≠ []) ∧
      (∀ value, searched.1 = some value →
        (∃ before last, log = before ++ [last] ∧ (∀ round ∈ before, round.values = []) ∧
          Elected last.values value) ∧
        ∃ repair, NearestLacker key (lackers log) repair ∧
          (repair = none → searched.2 = left) ∧
          ∀ peer, repair = some peer → searched.2 = left.order ⟨peer, key.octets, value⟩ ∧
            ∃ endpoint, peer.endpoint = some endpoint ∧ ∀ carrier : Carrier ε,
              Sends carrier left ⟨peer, key.octets, value⟩
                ⟨endpoint, .store key.octets value⟩) ∧
      (searched.1 = none → searched.2 = left ∧
        (log.length < maxRounds → (∀ round ∈ log, round.Complete) →
          ∃ all, all.Perm (Candidates.survivors (seeds ++ reported scene.node.id outcomes)
              (failures outcomes)) ∧
            Ascending key all ∧ ∀ contact ∈ all.take scene.node.width, contact ∈ lackers log)) ∧
      ∀ carrier, Direct (callAll (call carrier) (.findValue key.octets) : Ask (Scene ε) Reply) ∧
        scene.lookupValue carrier key seeds =
          scene.searchValue (callAll (call carrier) (.findValue key.octets)) key seeds := by
  have recorded := ValueSearch.run_recorded direct scene.node.id key scene.node.width
    scene.node.parallelism seeds scene
  have begun := Candidates.push_all_frame seeds (Candidates.empty key scene.node.width)
  have ends := ValueSearch.run_ends Reply.finding? scene.node.id ask maxRounds
    (ValueSearch.State.start key scene.node.width scene.node.parallelism seeds)
    (begun.2.symm ▸ wide) busy scene []
  rw [searchValue, ValueSearch.find_value_logged]
  dsimp only at recorded ends ⊢
  generalize ValueSearch.run scene.node.id (logged Reply.finding? ask) maxRounds
    (ValueSearch.State.start key scene.node.width scene.node.parallelism seeds) (scene, []) = ended
    at recorded ends ⊢
  obtain ⟨search, left, log⟩ := ended
  dsimp only at recorded ends ⊢
  obtain ⟨some, elected⟩ := ValueSearch.hit_elected recorded
  rw [Option.isSome_map]
  refine ⟨some, ?_, ?_, fun carrier =>
    ⟨call_all_direct (call carrier) _, lookup_value_eq carrier key seeds scene⟩⟩
  · intro winner won
    obtain ⟨hit, found, rfl⟩ := Option.map_eq_some_iff.mp won
    obtain ⟨value, _, rfl⟩ := Option.map_eq_some_iff.mp found
    have nearest := ValueSearch.repair_nearest recorded
    refine ⟨elected _ found, _, nearest, ?_, ?_⟩
    · intro none
      rw [found, none]
      simp [mapNode]
    · intro peer repair
      rw [repair] at nearest
      obtain ⟨endpoint, lives⟩ :=
        Option.isSome_iff_exists.mp (recorded.reached peer nearest.1)
      refine ⟨?_, endpoint, lives, fun carrier => order_sends carrier left ?_⟩
      · rw [found, repair]
        rfl
      · rw [Errand.posting?, lives]
        rfl
  · intro none
    have absent : search.hit = Option.none := Option.map_eq_none_iff.mp none
    refine ⟨?_, ?_⟩
    · rw [absent]
      simp [mapNode]
    · intro early complete
      rw [List.length_nil, Nat.zero_add] at ends
      have fresh := ValueSearch.found_nil_of_missed absent
      have done := (ends.resolve_left fun voted => voted fresh).resolve_right early.ne
      exact ValueSearch.closest_lack recorded absent done complete

/-- The first contact names three others. The nearest of them has no value, the next two have one
each. -/
def undecided : Ask (Scene Unit) Reply :=
  fun scene probes =>
    (probes.map fun probe =>
      (probe,
        if probe = numbered 4 then some (.closest [numbered 3, numbered 2, numbered 1])
        else if probe = numbered 1 then some (.closest [])
        else if probe = numbered 2 then some (.found [8])
        else some (.found [7])), scene)

/-- Every request is taken to be one to store a value, and granted. -/
def granting : Carrier Unit :=
  fun scene _ request => (.ok ⟨request.tag, .stored true⟩, scene)

/-- Of two values found once the one that came in first is returned, and it is sent to the contact
nearest to the key, which had none. -/
theorem tie_won_by_first :
    let scene : Scene Unit :=
      ⟨Node.start Settings.default (Ident.ofNat 9) (.v4 1 9) (.expiring (Expiring.empty 10)) 0, 0, ()⟩
    let searched := scene.searchValue undecided Ident.zero [numbered 4]
    let log := (ValueSearch.run scene.node.id (logged Reply.finding? undecided) maxRounds
      (ValueSearch.State.start Ident.zero scene.node.width scene.node.parallelism [numbered 4])
      (scene, [])).2.2
    Direct undecided ∧ granting.Adds ∧ searched.1 = some [8] ∧
      searched.2.node.errands = [⟨numbered 1, Ident.zero.octets, [8]⟩] ∧ log.length = 2 ∧
      (∃ before last, log = before ++ [last] ∧ (∀ round ∈ before, round.values = []) ∧
        Elected last.values [8]) ∧
      [⟨.v4 1 1, .store Ident.zero.octets [8]⟩] <+: searched.2.posts granting errandLimit := by
  intro scene searched log
  have direct : Direct undecided := by
    intro scene probes outcome among
    obtain ⟨probe, chosen, rfl⟩ := List.mem_map.mp among
    exact chosen
  have adds : granting.Adds := fun _ _ _ => List.prefix_rfl
  have due : searched.2.node.errands = [⟨numbered 1, Ident.zero.octets, [8]⟩] := by
    decide +kernel
  have found : searched.1 = some [8] := by decide +kernel
  obtain ⟨_, elected, _⟩ := value_search_settled undecided direct Ident.zero [numbered 4] scene
    (by decide) (by decide)
  obtain ⟨elects, repair, _, spared, repaired⟩ := elected [8] found
  refine ⟨direct, adds, found, due, by decide +kernel, elects, ?_⟩
  generalize ended : (ValueSearch.run scene.node.id (logged Reply.finding? undecided) maxRounds
    (ValueSearch.State.start Ident.zero scene.node.width scene.node.parallelism [numbered 4])
    (scene, [])).2.1 = left at spared repaired
  have idle : left.node.errands = [] := by
    rw [← ended]
    decide +kernel
  cases repair with
  | none =>
      have busy := due
      rw [show searched.2 = left from spared rfl, idle] at busy
      cases busy
  | some peer =>
      obtain ⟨ordered, endpoint, lives, sends⟩ := repaired peer rfl
      have errands : searched.2.node.errands =
          left.node.errands ++ [⟨peer, Ident.zero.octets, [8]⟩] :=
        congrArg (fun scene => scene.node.errands) ordered
      rw [due, idle] at errands
      obtain rfl : numbered 1 = peer := congrArg Errand.dest (List.singleton_inj.mp errands)
      obtain rfl := Option.some.inj lives
      have settled := (sends granting).settled adds (by rw [idle]; decide)
      rw [idle] at settled
      rw [show searched.2 = left.order ⟨numbered 1, Ident.zero.octets, [8]⟩ from ordered]
      exact settled

end Scene
end XorOverlay
