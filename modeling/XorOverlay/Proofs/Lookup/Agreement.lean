import Mathlib
import XorOverlay.Lookup.NodeSearch
import XorOverlay.Lookup.ValueSearch
import XorOverlay.Proofs.Lookup.CandidateSet

/-!
Searches that see the same. Two searches for one target whose probes bring the same outcomes, round
after round, take the same course, whatever states their probes leave behind. A search only ever
probes contacts it was started with or that were reported to it, so what holds of those holds of
every contact it probes and of every contact it finds.
-/

namespace XorOverlay

set_option autoImplicit false

namespace Candidates

theorem mem_push {contact : Contact} {candidates : Candidates} {entry : Ranked}
    (held : entry ∈ (candidates.push contact).ranked) :
    entry.contact = contact ∨ entry ∈ candidates.ranked := by
  unfold push at held
  split at held
  · exact Or.inr held
  · simp only at held
    split_ifs at held
    · exact Or.inr held
    · rcases List.mem_cons.mp ((Ranked.insert_perm _ _).mem_iff.mp held) with rfl | old
      · exact Or.inl rfl
      · exact Or.inr old

def Within (known : Contact → Prop) (candidates : Candidates) : Prop :=
  ∀ entry ∈ candidates.ranked, known entry.contact

variable {known : Contact → Prop} {candidates : Candidates}

theorem push_within {contact : Contact} (within : candidates.Within known)
    (added : known contact) : (candidates.push contact).Within known := by
  intro entry held
  rcases mem_push held with same | old
  · rw [same]
    exact added
  · exact within entry old

theorem push_all_within {contacts : List Contact} (within : candidates.Within known)
    (added : ∀ contact ∈ contacts, known contact) : (candidates.pushAll contacts).Within known := by
  unfold pushAll
  induction contacts generalizing candidates with
  | nil => exact within
  | cons contact contacts ih =>
      rw [List.forall_mem_cons] at added
      exact ih (push_within within added.1) added.2

theorem remove_within (within : candidates.Within known) (id : Ident) :
    (candidates.remove id).Within known :=
  fun entry held => within entry (List.mem_of_mem_filter held)

theorem closest_within (within : candidates.Within known) :
    ∀ contact ∈ candidates.closest, known contact := by
  intro contact listed
  obtain ⟨entry, taken, rfl⟩ := List.mem_map.mp listed
  exact within entry (List.mem_of_mem_take taken)

end Candidates

namespace Lookup

variable {known : Contact → Prop}

namespace Frontier

theorem start_within {seeds : List Contact} (target : Ident) (width parallelism : Nat)
    (seeded : ∀ seed ∈ seeds, known seed) :
    (start target width parallelism seeds).candidates.Within known := by
  refine Candidates.push_all_within ?_ seeded
  intro entry held
  exact (List.not_mem_nil held).elim

theorem probes_within {frontier : Frontier} (within : frontier.candidates.Within known) :
    ∀ probe ∈ frontier.probes, known probe := by
  intro probe chosen
  exact Candidates.closest_within within probe
    (List.mem_of_mem_filter (List.mem_of_mem_take chosen))

theorem launch_within {frontier : Frontier} (within : frontier.candidates.Within known) :
    frontier.launch.candidates.Within known := by
  intro entry held
  rw [launch, Candidates.mark_all] at held
  exact within entry held

theorem fold_within {frontier : Frontier} {self : Ident} {contacts : List Contact}
    (within : frontier.candidates.Within known)
    (reported : ∀ contact ∈ contacts, contact.id ≠ self → known contact) :
    (frontier.fold self contacts).candidates.Within known := by
  apply Candidates.push_all_within within
  intro contact kept
  obtain ⟨listed, foreign⟩ := List.mem_filter.mp kept
  exact reported contact listed (bne_iff_ne.mp foreign)

end Frontier

/-- Two ways of asking bring the same outcomes from related states, which stay related; they are
outcomes of contacts that may be asked, and what these brought is fine. -/
structure Agree {σ τ α : Type} (known : Contact → Prop) (fine : α → Prop) (linked : σ → τ → Prop)
    (ask : Ask σ α) (other : Ask τ α) : Prop where
  same : ∀ state twin probes, linked state twin → (∀ probe ∈ probes, known probe) →
    (ask state probes).1 = (other twin probes).1
  stays : ∀ state twin probes, linked state twin → (∀ probe ∈ probes, known probe) →
    linked (ask state probes).2 (other twin probes).2
  fair : ∀ state twin probes, linked state twin → (∀ probe ∈ probes, known probe) →
    ∀ outcome ∈ (ask state probes).1, known outcome.1 ∧ ∀ brought, outcome.2 = some brought →
      fine brought

variable {σ τ : Type} {self : Ident} {linked : σ → τ → Prop}

namespace NodeSearch

/-- All contacts of a report may be asked, the searching node itself apart. -/
def Fine (self : Ident) (known : Contact → Prop) (contacts : List Contact) : Prop :=
  ∀ contact ∈ contacts, contact.id ≠ self → known contact

theorem absorb_all_within {outcomes : List (Contact × Option (List Contact))} {frontier : Frontier}
    (within : frontier.candidates.Within known)
    (fair : ∀ outcome ∈ outcomes, known outcome.1 ∧ ∀ brought, outcome.2 = some brought →
      Fine self known brought) :
    (outcomes.foldl (absorb self) frontier).candidates.Within known := by
  induction outcomes generalizing frontier with
  | nil => exact within
  | cons outcome outcomes ih =>
      rw [List.forall_mem_cons] at fair
      refine ih ?_ fair.2
      obtain ⟨contact, _ | contacts⟩ := outcome
      · exact Candidates.remove_within within contact.id
      · exact Frontier.fold_within within (fair.1.2 contacts rfl)

theorem run_agrees {ask : Ask σ (List Contact)} {other : Ask τ (List Contact)}
    (agree : Agree known (Fine self known) linked ask other) (rounds : Nat) {frontier : Frontier}
    {state : σ} {twin : τ} (start : linked state twin)
    (within : frontier.candidates.Within known) :
    (run self ask rounds frontier state).1 = (run self other rounds frontier twin).1 ∧
      linked (run self ask rounds frontier state).2 (run self other rounds frontier twin).2 ∧
      (run self ask rounds frontier state).1.candidates.Within known := by
  -- A round starts from one frontier on both sides, so the same contacts are probed; that they may
  -- be asked is what carries the induction.
  induction rounds generalizing frontier state twin with
  | zero => exact ⟨rfl, start, within⟩
  | succ rounds ih =>
      have probed := Frontier.probes_within within
      have launched := Frontier.launch_within within
      have same := agree.same state twin frontier.probes start probed
      have stays := agree.stays state twin frontier.probes start probed
      have folded := absorb_all_within launched
        (agree.fair state twin frontier.probes start probed)
      rw [run, run]
      simp only [← same]
      split_ifs
      · exact ⟨rfl, start, launched⟩
      · exact ⟨rfl, stays, folded⟩
      · exact ih stays folded

theorem find_nodes_agree {ask : Ask σ (List Contact)} {other : Ask τ (List Contact)}
    (agree : Agree known (Fine self known) linked ask other) (target : Ident)
    (width parallelism : Nat) {seeds : List Contact} (seeded : ∀ seed ∈ seeds, known seed)
    (state : σ) (twin : τ)
    (start : linked state twin) :
    (findNodes self ask target width parallelism seeds state).1 =
        (findNodes self other target width parallelism seeds twin).1 ∧
      linked (findNodes self ask target width parallelism seeds state).2
        (findNodes self other target width parallelism seeds twin).2 ∧
      ∀ contact ∈ (findNodes self ask target width parallelism seeds state).1, known contact := by
  obtain ⟨same, stays, within⟩ := run_agrees agree maxRounds start
    (Frontier.start_within target width parallelism seeded)
  refine ⟨?_, stays, Candidates.closest_within within⟩
  exact congrArg (fun frontier : Frontier => frontier.candidates.closest) same

end NodeSearch

namespace ValueSearch

def Fine (self : Ident) (known : Contact → Prop) (fit : Octets → Prop) : Finding → Prop
  | .found value => fit value
  | .closest contacts => NodeSearch.Fine self known contacts

structure Clean (known : Contact → Prop) (fit : Octets → Prop) (search : State) : Prop where
  within : search.frontier.candidates.Within known
  lacking : search.lacking.Within known
  found : ∀ value ∈ search.found, fit value

variable {fit : Octets → Prop}

theorem absorb_all_clean {outcomes : List (Contact × Option Finding)} {search : State}
    (clean : Clean known fit search)
    (fair : ∀ outcome ∈ outcomes, known outcome.1 ∧ ∀ brought, outcome.2 = some brought →
      Fine self known fit brought) :
    Clean known fit (outcomes.foldl (absorb self) search) := by
  induction outcomes generalizing search with
  | nil => exact clean
  | cons outcome outcomes ih =>
      rw [List.forall_mem_cons] at fair
      refine ih ?_ fair.2
      obtain ⟨contact, _ | value | contacts⟩ := outcome
      · exact ⟨Candidates.remove_within clean.within contact.id, clean.lacking, clean.found⟩
      · refine ⟨clean.within, clean.lacking, ?_⟩
        intro held among
        rcases List.mem_append.mp among with old | new
        · exact clean.found held old
        · rw [List.mem_singleton.mp new]
          exact fair.1.2 _ rfl
      · exact ⟨Frontier.fold_within clean.within (fair.1.2 _ rfl),
          Candidates.push_within clean.lacking fair.1.1, clean.found⟩

theorem run_agrees {ask : Ask σ Finding} {other : Ask τ Finding}
    (agree : Agree known (Fine self known fit) linked ask other) (rounds : Nat) {search : State}
    {state : σ} {twin : τ} (start : linked state twin) (clean : Clean known fit search) :
    (run self ask rounds search state).1 = (run self other rounds search twin).1 ∧
      linked (run self ask rounds search state).2 (run self other rounds search twin).2 ∧
      Clean known fit (run self ask rounds search state).1 := by
  induction rounds generalizing search state twin with
  | zero => exact ⟨rfl, start, clean⟩
  | succ rounds ih =>
      have probed := Frontier.probes_within clean.within
      have launched : Clean known fit { search with frontier := search.frontier.launch } :=
        ⟨Frontier.launch_within clean.within, clean.lacking, clean.found⟩
      have same := agree.same state twin search.frontier.probes start probed
      have stays := agree.stays state twin search.frontier.probes start probed
      have folded := absorb_all_clean launched
        (agree.fair state twin search.frontier.probes start probed)
      rw [run, run]
      simp only [← same]
      split_ifs
      · exact ⟨rfl, start, launched⟩
      · exact ⟨rfl, stays, folded⟩
      · exact ih stays folded

end ValueSearch

theorem mem_vote {value : Octets} {tally : List (Octets × Nat)} {entry : Octets × Nat}
    (counted : entry ∈ vote value tally) :
    entry.1 = value ∨ ∃ old ∈ tally, old.1 = entry.1 := by
  induction tally with
  | nil =>
      rw [List.mem_singleton.mp counted]
      exact Or.inl rfl
  | cons first rest ih =>
      rw [vote] at counted
      split_ifs at counted with same
      · rcases List.mem_cons.mp counted with rfl | later
        · exact Or.inl same
        · exact Or.inr ⟨entry, List.mem_cons_of_mem _ later, rfl⟩
      · rcases List.mem_cons.mp counted with rfl | later
        · exact Or.inr ⟨_, List.mem_cons_self, rfl⟩
        · rcases ih later with new | ⟨old, among, equal⟩
          · exact Or.inl new
          · exact Or.inr ⟨old, List.mem_cons_of_mem _ among, equal⟩

theorem mem_tally {values : List Octets} {tally : List (Octets × Nat)} {entry : Octets × Nat}
    (counted : entry ∈ values.foldl (fun tally value => vote value tally) tally) :
    entry.1 ∈ values ∨ ∃ old ∈ tally, old.1 = entry.1 := by
  induction values generalizing tally with
  | nil => exact Or.inr ⟨entry, counted, rfl⟩
  | cons first rest ih =>
      rcases ih counted with later | ⟨old, among, equal⟩
      · exact Or.inl (List.mem_cons_of_mem _ later)
      · rcases mem_vote among with new | ⟨older, inTally, same⟩
        · rw [← equal, new]
          exact Or.inl List.mem_cons_self
        · exact Or.inr ⟨older, inTally, same.trans equal⟩

theorem mem_leader {tally : List (Octets × Nat)} {leader : Option (Octets × Nat)}
    {entry : Octets × Nat}
    (leads : tally.foldl
      (fun leader (entry : Octets × Nat) =>
        match leader with
        | none => some entry
        | some best => if best.2 < entry.2 then some entry else some best)
      leader = some entry) :
    entry ∈ tally ∨ leader = some entry := by
  induction tally generalizing leader with
  | nil => exact Or.inr leads
  | cons first rest ih =>
      rcases ih leads with later | taken
      · exact Or.inl (List.mem_cons_of_mem _ later)
      · cases leader with
        | none =>
            rw [← Option.some.inj taken]
            exact Or.inl List.mem_cons_self
        | some best =>
            simp only at taken
            split_ifs at taken
            · rw [← Option.some.inj taken]
              exact Or.inl List.mem_cons_self
            · exact Or.inr taken

theorem mem_of_majority {values : List Octets} {value : Octets}
    (won : majority values = some value) : value ∈ values := by
  obtain ⟨entry, leads, rfl⟩ := Option.map_eq_some_iff.mp won
  rcases mem_leader leads with counted | none
  · rcases mem_tally counted with voted | ⟨old, absent, _⟩
    · exact voted
    · exact (List.not_mem_nil absent).elim
  · cases none

namespace ValueSearch

variable {fit : Octets → Prop}

/-- Related searches for a value find the same, and repair the same. -/
theorem find_value_agree {ask : Ask σ Finding} {other : Ask τ Finding}
    (agree : Agree known (Fine self known fit) linked ask other) (key : Ident)
    (width parallelism : Nat) {seeds : List Contact} (seeded : ∀ seed ∈ seeds, known seed)
    (state : σ) (twin : τ) (start : linked state twin) :
    (findValue self ask key width parallelism seeds state).1 =
        (findValue self other key width parallelism seeds twin).1 ∧
      linked (findValue self ask key width parallelism seeds state).2
        (findValue self other key width parallelism seeds twin).2 ∧
      ∀ hit, (findValue self ask key width parallelism seeds state).1 = some hit →
        fit hit.value ∧ ∀ peer, hit.repair = some peer → known peer := by
  have begun : Clean known fit (State.start key width parallelism seeds) := by
    refine ⟨Frontier.start_within key width parallelism seeded, ?_, ?_⟩
    · intro entry held
      exact (List.not_mem_nil held).elim
    · intro value held
      exact (List.not_mem_nil held).elim
  obtain ⟨same, stays, clean⟩ := run_agrees agree maxRounds start begun
  refine ⟨congrArg State.hit same, stays, ?_⟩
  intro hit found
  obtain ⟨value, won, rfl⟩ := Option.map_eq_some_iff.mp found
  refine ⟨clean.found value (mem_of_majority won), ?_⟩
  intro peer named
  exact Candidates.closest_within clean.lacking peer (List.mem_of_mem_head? named)

end ValueSearch

end Lookup
end XorOverlay
