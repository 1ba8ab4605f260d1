import Mathlib
import XorOverlay.Lookup.NodeSearch
import XorOverlay.Proofs.Lookup.Agreement
import XorOverlay.Proofs.Node.Probing

/-!
Where a search for contacts ends. The outcomes of all rounds, kept beside the search, say what it
has for candidates at any time. A search that ends because all of its closest candidates have been
asked has therefore found the closest of everyone it heard of, except for those that failed, and has
an answer of each of them.
-/

namespace XorOverlay

set_option autoImplicit false

namespace Lookup

/-- The contacts that answers reported, the searching node itself apart. -/
def reported (self : Ident) (outcomes : List (Contact × Option (List Contact))) : List Contact :=
  outcomes.flatMap fun outcome =>
    (outcome.2.getD []).filter fun contact => contact.id != self

/-- The names of the contacts whose probes failed. -/
def failures (outcomes : List (Contact × Option (List Contact))) : List Ident :=
  (outcomes.filter fun outcome => outcome.2.isNone).map fun outcome => outcome.1.id

theorem failures_append (first second : List (Contact × Option (List Contact))) :
    failures (first ++ second) = failures first ++ failures second := by
  simp [failures]

variable {σ α β : Type}

/-- What one round asked and what it brought. -/
structure Round (α : Type) where
  probes : List Contact
  outcomes : List (Contact × Option α)

/-- Every probe was answered or failed. -/
def Round.Complete (round : Round α) : Prop :=
  ∀ probe ∈ round.probes, ∃ outcome ∈ round.outcomes, outcome.1 = probe

instance (round : Round α) : Decidable round.Complete :=
  inferInstanceAs (Decidable
    (∀ probe ∈ round.probes, ∃ outcome ∈ round.outcomes, outcome.1 = probe))

/-- What is picked from all that the rounds brought. -/
def heard (choose : α → Option β) (log : List (Round α)) : List (Contact × Option β) :=
  picked choose (log.flatMap Round.outcomes)

/-- Asks, notes down the round, and passes on what is picked from it. -/
def logged (choose : α → Option β) (ask : Ask σ α) : Ask (σ × List (Round α)) β :=
  fun noted probes =>
    let (outcomes, state) := ask noted.1 probes
    (picked choose outcomes, state, noted.2 ++ [⟨probes, outcomes⟩])

theorem heard_append (choose : α → Option β) (log : List (Round α)) (round : Round α) :
    heard choose (log ++ [round]) = heard choose log ++ picked choose round.outcomes := by
  simp [heard, picked]

namespace Frontier

variable {frontier : Frontier}

theorem launch_idle (idle : frontier.probes = []) :
    frontier.launch.candidates = frontier.candidates := by
  rw [launch, idle]
  rfl

/-- A search that may send probes and has none to send has asked all of its closest candidates. -/
theorem done_of_idle (wide : 0 < frontier.candidates.width) (busy : 0 < frontier.parallelism)
    (idle : frontier.probes = []) : frontier.candidates.allContacted = true := by
  have positive : frontier.probeCount ≠ 0 := by
    unfold probeCount
    split_ifs <;> omega
  exact List.isEmpty_iff.mpr ((List.take_eq_nil_iff.mp idle).resolve_left positive)

end Frontier

namespace NodeSearch

/-- The candidates are what the seeds and the outcomes so far leave. -/
def Follows (self target : Ident) (width : Nat) (seeds : List Contact)
    (outcomes : List (Contact × Option (List Contact))) (candidates : Candidates) : Prop :=
  candidates.Tracks target width (seeds ++ reported self outcomes) (failures outcomes)

variable {self target : Ident} {width : Nat} {seeds : List Contact} {frontier : Frontier}
  {outcomes : List (Contact × Option (List Contact))}

theorem start_follows (self target : Ident) (width parallelism : Nat) (seeds : List Contact) :
    Follows self target width seeds []
      (Frontier.start target width parallelism seeds).candidates := by
  have tracks := Candidates.push_all_tracks (Candidates.empty_tracks target width) seeds
  simpa [Follows, Frontier.start, reported, failures] using tracks

theorem absorb_follows (follows : Follows self target width seeds outcomes frontier.candidates)
    (outcome : Contact × Option (List Contact)) :
    Follows self target width seeds (outcomes ++ [outcome])
      (absorb self frontier outcome).candidates := by
  obtain ⟨contact, _ | contacts⟩ := outcome
  · have tracks := Candidates.remove_tracks follows contact.id
    simpa [Follows, reported, failures, absorb, Frontier.fail] using tracks
  · have tracks := Candidates.push_all_tracks follows
      (contacts.filter fun contact => contact.id != self)
    simpa [Follows, reported, failures, absorb, Frontier.fold] using tracks

theorem absorb_all_follows (follows : Follows self target width seeds outcomes frontier.candidates)
    (brought : List (Contact × Option (List Contact))) :
    Follows self target width seeds (outcomes ++ brought)
      (brought.foldl (absorb self) frontier).candidates := by
  induction brought generalizing outcomes frontier with
  | nil => simpa using follows
  | cons outcome rest ih => simpa using ih (absorb_follows follows outcome)

theorem launch_follows (follows : Follows self target width seeds outcomes frontier.candidates) :
    Follows self target width seeds outcomes frontier.launch.candidates :=
  Candidates.mark_all_tracks follows frontier.probes

/-- Only contacts that were seen, can be sent to, and did not fail are probed. -/
theorem probes_survive (follows : Follows self target width seeds outcomes frontier.candidates) :
    ∀ probe ∈ frontier.probes,
      probe ∈ Candidates.survivors (seeds ++ reported self outcomes) (failures outcomes) := by
  apply Frontier.probes_within
  intro entry held
  obtain ⟨_, _, ⟨all, perm, _, ranked⟩, _⟩ := follows
  rw [ranked] at held
  obtain ⟨contact, member, rfl⟩ := List.mem_map.mp held
  exact perm.mem_iff.mp member

/-- The contacts asked so far have failed, or are candidates that have answered. -/
def Accounted (outcomes : List (Contact × Option (List Contact))) (candidates : Candidates) :
    Prop :=
  ∀ id ∈ candidates.contacted, id ∈ failures outcomes ∨
    ∃ entry ∈ candidates.ranked, entry.contact.id = id ∧
      ∃ contacts, (entry.contact, some contacts) ∈ outcomes

theorem absorb_all_stays (self : Ident) (brought : List (Contact × Option (List Contact)))
    {entry : Ranked} (held : entry ∈ frontier.candidates.ranked) :
    entry ∈ (brought.foldl (absorb self) frontier).candidates.ranked ∨
      entry.contact.id ∈ failures brought := by
  induction brought generalizing frontier with
  | nil => exact Or.inl held
  | cons outcome rest ih =>
      obtain ⟨contact, _ | contacts⟩ := outcome
      · by_cases same : entry.contact.id = contact.id
        · exact Or.inr (by simp [failures, same])
        · have kept : entry ∈ (absorb self frontier (contact, none)).candidates.ranked :=
            List.mem_filter.mpr ⟨held, bne_iff_ne.mpr same⟩
          exact (ih kept).imp_right (List.mem_cons_of_mem _)
      · exact ih (Candidates.mem_push_all_of_mem held _)

theorem absorb_all_frame (self : Ident) (brought : List (Contact × Option (List Contact)))
    (frontier : Frontier) :
    (brought.foldl (absorb self) frontier).candidates.contacted = frontier.candidates.contacted ∧
      (brought.foldl (absorb self) frontier).candidates.width = frontier.candidates.width ∧
      (brought.foldl (absorb self) frontier).parallelism = frontier.parallelism := by
  induction brought generalizing frontier with
  | nil => exact ⟨rfl, rfl, rfl⟩
  | cons outcome rest ih =>
      rw [List.foldl_cons, (ih _).1, (ih _).2.1, (ih _).2.2]
      obtain ⟨contact, _ | contacts⟩ := outcome
      · exact ⟨rfl, rfl, rfl⟩
      · exact ⟨(Candidates.push_all_frame _ _).1, (Candidates.push_all_frame _ _).2, rfl⟩

theorem absorb_all_last (self : Ident) (brought : List (Contact × Option (List Contact)))
    (frontier : Frontier) :
    (brought.foldl (absorb self) frontier).lastIds = frontier.lastIds := by
  induction brought generalizing frontier with
  | nil => rfl
  | cons outcome rest ih =>
      rw [List.foldl_cons, ih]
      obtain ⟨contact, _ | contacts⟩ := outcome
      · rfl
      · rfl

/-- A round in which every probe has an outcome accounts for its probes. -/
theorem round_accounted (accounted : Accounted outcomes frontier.candidates)
    {brought : List (Contact × Option (List Contact))}
    (complete : ∀ probe ∈ frontier.probes, ∃ outcome ∈ brought, outcome.1 = probe) :
    Accounted (outcomes ++ brought)
      (brought.foldl (absorb self) frontier.launch).candidates := by
  have settled : ∀ entry ∈ frontier.candidates.ranked,
      (∃ contacts, (entry.contact, some contacts) ∈ outcomes ++ brought) →
      entry.contact.id ∈ failures (outcomes ++ brought) ∨
        ∃ held ∈ (brought.foldl (absorb self) frontier.launch).candidates.ranked,
          held.contact.id = entry.contact.id ∧
            ∃ contacts, (held.contact, some contacts) ∈ outcomes ++ brought := by
    intro entry held answered
    have launched : entry ∈ frontier.launch.candidates.ranked := by
      rw [Frontier.launch, Candidates.mark_all]
      exact held
    rw [failures_append]
    rcases absorb_all_stays self brought launched with stays | failed
    · exact Or.inr ⟨entry, stays, rfl, answered⟩
    · exact Or.inl (List.mem_append_right _ failed)
  intro id asked
  rw [(absorb_all_frame _ _ _).1, Frontier.launch, Candidates.mark_all] at asked
  rcases List.mem_append.mp asked with now | before
  · -- The probe is a candidate, and its outcome is an answer or a failure.
    obtain ⟨probe, chosen, rfl⟩ := List.mem_map.mp (List.mem_reverse.mp now)
    obtain ⟨⟨contact, result⟩, among, rfl⟩ := complete probe chosen
    have listed : frontier.candidates.Within fun known =>
        ∃ entry ∈ frontier.candidates.ranked, entry.contact = known :=
      fun entry held => ⟨entry, held, rfl⟩
    obtain ⟨entry, held, rfl⟩ := Frontier.probes_within listed contact chosen
    cases result with
    | none =>
        left
        rw [failures_append]
        apply List.mem_append_right
        exact List.mem_map.mpr ⟨_, List.mem_filter.mpr ⟨among, rfl⟩, rfl⟩
    | some contacts => exact settled entry held ⟨contacts, List.mem_append_right _ among⟩
  · rcases accounted id before with failed | ⟨entry, held, rfl, contacts, answered⟩
    · left
      rw [failures_append]
      exact List.mem_append_left _ failed
    · exact settled entry held ⟨contacts, List.mem_append_left _ answered⟩

/-- What every round with probes keeps holds, of the rounds noted down by then, of a search that has the
candidates a search ends with. -/
theorem run_reaches {choose : α → Option (List Contact)} {ask : Ask σ α}
    {motive : List (Round α) → Frontier → Prop}
    (keeps : ∀ log (frontier : Frontier) state, frontier.probes ≠ [] → motive log frontier →
      motive (log ++ [⟨frontier.probes, (ask state frontier.probes).1⟩])
        ((picked choose (ask state frontier.probes).1).foldl (absorb self) frontier.launch))
    (rounds : Nat) {frontier : Frontier} (state : σ) (log : List (Round α))
    (start : motive log frontier) :
    let ended := run self (logged choose ask) rounds frontier (state, log)
    ended.2.2.length ≤ log.length + rounds ∧ ∃ last, motive ended.2.2 last ∧
      ended.1.candidates = last.candidates := by
  induction rounds generalizing frontier state log with
  | zero => exact ⟨le_rfl, frontier, start, rfl⟩
  | succ rounds ih =>
      have after := fun busy => keeps log frontier state busy start
      rw [run]
      dsimp only [logged]
      split_ifs with idle done
      · exact ⟨Nat.le_add_right _ _, frontier, start,
          Frontier.launch_idle (List.isEmpty_iff.mp idle)⟩
      · refine ⟨?_, _, after (mt List.isEmpty_iff.mpr idle), rfl⟩
        rw [List.length_append, List.length_singleton]
        omega
      · obtain ⟨length, reached⟩ := ih (ask state frontier.probes).2 _
          (after (mt List.isEmpty_iff.mpr idle))
        refine ⟨length.trans ?_, reached⟩
        rw [List.length_append, List.length_singleton]
        omega

/-- What every round keeps holds at the end of a search, of the rounds noted down by then. -/
theorem run_keeps {choose : α → Option (List Contact)} {ask : Ask σ α}
    {motive : List (Round α) → Candidates → Prop}
    (keeps : ∀ log (frontier : Frontier) state, motive log frontier.candidates →
      motive (log ++ [⟨frontier.probes, (ask state frontier.probes).1⟩])
        ((picked choose (ask state frontier.probes).1).foldl (absorb self)
          frontier.launch).candidates)
    (rounds : Nat) {frontier : Frontier} (state : σ) (log : List (Round α))
    (start : motive log frontier.candidates) :
    motive (run self (logged choose ask) rounds frontier (state, log)).2.2
      (run self (logged choose ask) rounds frontier (state, log)).1.candidates := by
  obtain ⟨_, last, holds, same⟩ :=
    run_reaches (motive := fun log frontier => motive log frontier.candidates)
      (fun log frontier state _ => keeps log frontier state) rounds state log start
  rw [same]
  exact holds

variable (choose : α → Option (List Contact)) (self target : Ident) (width parallelism : Nat)
  (seeds : List Contact) (ask : Ask σ α) (state : σ)

theorem search_follows :
    let ended := search self (logged choose ask) target width parallelism seeds (state, [])
    Follows self target width seeds (heard choose ended.2.2) ended.1.candidates := by
  refine run_keeps (motive := fun log => Follows self target width seeds (heard choose log)) ?_
    maxRounds state [] ?_
  · intro log frontier state follows
    rw [heard_append]
    exact absorb_all_follows (launch_follows follows) _
  · exact start_follows self target width parallelism seeds

theorem search_accounted :
    let ended := search self (logged choose ask) target width parallelism seeds (state, [])
    (∀ round ∈ ended.2.2, round.Complete) →
      Accounted (heard choose ended.2.2) ended.1.candidates := by
  refine run_keeps (motive := fun log candidates => (∀ round ∈ log, round.Complete) →
    Accounted (heard choose log) candidates) ?_ maxRounds state [] ?_
  · intro log frontier state accounted complete
    rw [List.forall_mem_append, List.forall_mem_singleton] at complete
    rw [heard_append]
    apply round_accounted (accounted complete.1)
    intro probe chosen
    obtain ⟨outcome, among, rfl⟩ := complete.2 probe chosen
    exact ⟨_, List.mem_map_of_mem among, rfl⟩
  · intro _ id asked
    rw [Frontier.start, (Candidates.push_all_frame _ _).1] at asked
    cases asked

theorem run_ends (rounds : Nat) (frontier : Frontier) (wide : 0 < frontier.candidates.width)
    (busy : 0 < frontier.parallelism) (state : σ) (log : List (Round α)) :
    let ended := run self (logged choose ask) rounds frontier (state, log)
    ended.1.candidates.allContacted = true ∨ ended.2.2.length = log.length + rounds := by
  induction rounds generalizing frontier state log with
  | zero => exact Or.inr rfl
  | succ rounds ih =>
      have frame := absorb_all_frame self
        (picked choose (ask state frontier.probes).1) frontier.launch
      have launched : frontier.launch.candidates.width = frontier.candidates.width := by
        rw [Frontier.launch, Candidates.mark_all]
      have later := ih _ (frame.2.1.trans launched ▸ wide) (frame.2.2 ▸ busy)
        (ask state frontier.probes).2
        (log ++ [⟨frontier.probes, (ask state frontier.probes).1⟩])
      rw [run]
      dsimp only
      split_ifs with idle done
      · left
        rw [Frontier.launch_idle (List.isEmpty_iff.mp idle)]
        exact Frontier.done_of_idle wide busy (List.isEmpty_iff.mp idle)
      · exact Or.inl done
      · refine later.imp_right fun length => length.trans ?_
        rw [List.length_append, List.length_singleton]
        omega

/-- A search ends when all of its closest candidates have been asked, or after the last round. -/
theorem search_ends (wide : 0 < width) (busy : 0 < parallelism) :
    let ended := search self (logged choose ask) target width parallelism seeds (state, [])
    ended.1.candidates.allContacted = true ∨ ended.2.2.length = maxRounds := by
  have begun := Candidates.push_all_frame seeds (Candidates.empty target width)
  have ends := run_ends choose self ask maxRounds (Frontier.start target width parallelism seeds)
    (begun.2.symm ▸ wide) busy state []
  rw [List.length_nil, Nat.zero_add] at ends
  exact ends

/-- Noting down the rounds does not change what a search finds. -/
theorem find_nodes_logged :
    (findNodes self (picking choose ask) target width parallelism seeds state).1 =
      (search self (logged choose ask) target width parallelism seeds
        (state, [])).1.candidates.closest := by
  have agree : Agree (fun _ => True) (Fine self fun _ => True)
      (fun state (noted : σ × List (Round α)) => noted.1 = state)
      (picking choose ask) (logged choose ask) := by
    refine ⟨?_, ?_, ?_⟩
    · rintro _ noted probes rfl _
      rfl
    · rintro _ noted probes rfl _
      rfl
    · exact fun _ _ _ _ _ _ _ => ⟨trivial, fun _ _ _ _ _ => trivial⟩
  exact (find_nodes_agree agree target width parallelism (fun _ _ => trivial) state (state, [])
    rfl).1

/-- Whoever is among the closest candidates, has been asked, and is accounted for, has answered. -/
theorem answered_of_asked {outcomes : List (Contact × Option (List Contact))}
    {candidates : Candidates} (follows : Follows self target width seeds outcomes candidates)
    (accounted : Accounted outcomes candidates) {contact : Contact}
    (listed : contact ∈ candidates.closest) (contacted : contact.id ∈ candidates.contacted) :
    ∃ contacts, (contact, some contacts) ∈ outcomes := by
  obtain ⟨_, _, ⟨all, perm, ascending, ranked⟩, _⟩ := follows
  have member : contact ∈ all := by
    obtain ⟨entry, taken, rfl⟩ := List.mem_map.mp listed
    have held := List.mem_of_mem_take taken
    rw [ranked] at held
    obtain ⟨known, among, rfl⟩ := List.mem_map.mp held
    exact among
  rcases accounted contact.id contacted with failed | ⟨entry, held, named, answered⟩
  · exact (Candidates.mem_survivors_failed (perm.mem_iff.mp member) failed).elim
  · rw [ranked] at held
    obtain ⟨known, among, rfl⟩ := List.mem_map.mp held
    have same : known = contact :=
      List.inj_on_of_nodup_map (Ascending.ids_nodup ascending) among member named
    exact same ▸ answered

theorem answered_of_closest {outcomes : List (Contact × Option (List Contact))}
    {candidates : Candidates} (follows : Follows self target width seeds outcomes candidates)
    (accounted : Accounted outcomes candidates) (asked : candidates.allContacted = true) :
    ∀ contact ∈ candidates.closest, ∃ contacts, (contact, some contacts) ∈ outcomes := by
  intro contact listed
  refine answered_of_asked self target width seeds follows accounted listed ?_
  have none := List.filter_eq_nil_iff.mp (List.isEmpty_iff.mp asked) contact listed
  simpa using none

end NodeSearch

/-- What a search for contacts finds are the first, in ascending distance to the target, of the seeds
and the contacts that answers reported, but for those that failed or answered with something else;
and when it ends because all of its closest candidates have been asked, all of them have answered. -/
theorem converged_search_exact {σ : Type} (self target : Ident) (width parallelism : Nat)
    (seeds : List Contact) (ask : Ask σ Reply) (state : σ) :
    let found := (findNodes self (picking Reply.contacts? ask) target width parallelism seeds state).1
    let ended := NodeSearch.search self (logged Reply.contacts? ask) target width parallelism seeds
      (state, [])
    let outcomes := heard Reply.contacts? ended.2.2
    (∃ all, all.Perm (Candidates.survivors (seeds ++ reported self outcomes) (failures outcomes)) ∧
        Ascending target all ∧ found = all.take width) ∧
      (ended.1.candidates.allContacted = true → (∀ round ∈ ended.2.2, round.Complete) →
        ∀ contact ∈ found, ∃ round ∈ ended.2.2, ∃ contacts,
          (contact, some (.nodes contacts)) ∈ round.outcomes) := by
  intro found ended outcomes
  have same : found = ended.1.candidates.closest :=
    NodeSearch.find_nodes_logged Reply.contacts? self target width parallelism seeds ask state
  have follows := NodeSearch.search_follows Reply.contacts? self target width parallelism seeds ask
    state
  refine ⟨?_, ?_⟩
  · rw [same]
    exact Candidates.closest_tracks follows
  · intro asked complete contact listed
    rw [same] at listed
    have accounted := NodeSearch.search_accounted Reply.contacts? self target width parallelism
      seeds ask state complete
    obtain ⟨contacts, answered⟩ := NodeSearch.answered_of_closest self target width seeds follows
      accounted asked contact listed
    obtain ⟨⟨_, reply⟩, among, equal⟩ := List.mem_map.mp answered
    obtain ⟨round, noted, inRound⟩ := List.mem_flatMap.mp among
    obtain ⟨rfl, picked⟩ := Prod.mk.inj equal
    obtain ⟨reply, rfl, chosen⟩ := Option.bind_eq_some_iff.mp picked
    rw [Reply.eq_of_contacts chosen] at inRound
    exact ⟨round, noted, contacts, inRound⟩

/-- The contact with a small number for its name. -/
def numbered (number : Nat) : Contact :=
  ⟨Ident.ofNat number, some (.v4 1 (UInt16.ofNat number))⟩

/-- The first contact reports three others, of which one fails and one answers with a pong. -/
def reporting : Ask Unit Reply :=
  fun state probes =>
    (probes.map fun probe =>
      (probe,
        if probe = numbered 1 then some (.nodes [numbered 4, numbered 3, numbered 2])
        else if probe = numbered 2 then some (.pong (Ident.ofNat 2))
        else if probe = numbered 3 then none
        else some (.nodes [numbered 1, numbered 3])), state)

/-- Two contacts are found, and both have answered. -/
theorem search_among_reports :
    let found := (findNodes (Ident.ofNat 9) (picking Reply.contacts? reporting) Ident.zero 2 3
      [numbered 1] ()).1
    let ended := NodeSearch.search (Ident.ofNat 9) (logged Reply.contacts? reporting) Ident.zero 2 3
      [numbered 1] ((), [])
    found = [numbered 1, numbered 4] ∧ ended.1.candidates.allContacted = true ∧
      (∀ round ∈ ended.2.2, round.Complete) ∧
      ∀ contact ∈ found, ∃ round ∈ ended.2.2, ∃ contacts,
        (contact, some (.nodes contacts)) ∈ round.outcomes := by
  obtain ⟨_, answered⟩ := converged_search_exact (Ident.ofNat 9) Ident.zero 2 3 [numbered 1]
    reporting ()
  refine ⟨?_, ?_, ?_, answered ?_ ?_⟩
  · decide +kernel
  · decide +kernel
  · decide +kernel
  · decide +kernel
  · decide +kernel

end Lookup
end XorOverlay
