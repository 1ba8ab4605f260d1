import Mathlib
import XorOverlay.Proofs.Lookup.Respondents

/-!
A search of a node for its own name. The searching node drops itself from all reports, so only a seed
can bring its own name into the search. Nobody is closer to that name, so a seed called by it is the
first to be asked, and the first that is found unless it fails.
-/

namespace XorOverlay

set_option autoImplicit false

theorem Ident.distance_self (id : Ident) : id.distance id = 0 := by
  simp [distance, offset, toNat]

/-- A contact named like the target is the first in ascending distance. -/
theorem Ascending.named_leads {target : Ident} {all : List Contact}
    (ascending : Ascending target all) {contact : Contact} (among : contact ∈ all)
    (named : contact.id = target) : ∃ rest, all = contact :: rest := by
  cases all with
  | nil => cases among
  | cons first rest =>
      rcases List.mem_cons.mp among with rfl | behind
      · exact ⟨rest, rfl⟩
      · have closer := (List.pairwise_cons.mp ascending).1 contact behind
        rw [named, Ident.distance_self] at closer
        exact (Nat.not_lt_zero _ closer).elim

namespace Candidates

variable {aim : Ident} {count : Nat} {seen : List Contact} {failed : List Ident}
  {candidates : Candidates}

/-- Whoever is seen under the name that is searched, and can be asked, leads the candidates unless it
failed. -/
theorem aim_leads (tracks : candidates.Tracks aim count seen failed) (wide : 0 < count)
    (named : ∃ contact ∈ seen.filter (fun contact => contact.endpoint.isSome), contact.id = aim)
    (fit : aim ∉ failed) :
    ∃ nearest rest, candidates.closest = nearest :: rest ∧ nearest.id = aim ∧
      nearest.endpoint.isSome = true := by
  obtain ⟨all, perm, ascending, closest⟩ := closest_tracks tracks
  obtain ⟨nearest, survives, same⟩ := (survivors_named seen failed aim).mpr ⟨fit, named⟩
  have usable := firsts_subset _ (List.mem_of_mem_filter survives)
  obtain ⟨rest, rfl⟩ := ascending.named_leads (perm.mem_iff.mpr survives) same
  obtain ⟨count, rfl⟩ := Nat.exists_eq_succ_of_ne_zero wide.ne'
  exact ⟨nearest, rest.take count, closest, same, (List.mem_filter.mp usable).2⟩

end Candidates

namespace Lookup

variable {σ α : Type}

namespace NodeSearch

variable {choose : α → Option (List Contact)} {self target : Ident} {width parallelism : Nat}
  {seeds : List Contact} {ask : Ask σ α} {state : σ}

/-- What is probed in the first round is asked in the course of the search. -/
theorem asked_at_once {contact : Contact}
    (probed : contact ∈ (Frontier.start target width parallelism seeds).probes) :
    Asked (search self (logged choose ask) target width parallelism seeds (state, [])).2.2
      contact := by
  have some : (Frontier.start target width parallelism seeds).probes.isEmpty = false :=
    List.isEmpty_eq_false_iff.mpr (List.ne_nil_of_mem probed)
  rw [search, show maxRounds = 49 + 1 from rfl, run]
  dsimp only
  rw [some, if_neg Bool.false_ne_true]
  split_ifs
  · exact ⟨_, List.mem_singleton_self _, probed⟩
  · refine run_keeps (motive := fun log _ => Asked log contact) ?_ 49 _ _
      ⟨_, List.mem_singleton_self _, probed⟩
    rintro log frontier state ⟨round, noted, sent⟩
    exact ⟨round, List.mem_append_left _ noted, sent⟩

/-- Only seeds are seen under the name of the searching node. -/
theorem seen_named (self : Ident) (seeds : List Contact)
    (outcomes : List (Contact × Option (List Contact))) :
    (∃ contact ∈ seeds ++ reported self outcomes, contact.id = self) ↔
      ∃ seed ∈ seeds, seed.id = self := by
  refine ⟨?_, fun ⟨seed, given, named⟩ => ⟨seed, List.mem_append_left _ given, named⟩⟩
  rintro ⟨contact, seen, named⟩
  rcases List.mem_append.mp seen with given | heard
  · exact ⟨contact, given, named⟩
  · obtain ⟨_, _, kept⟩ := List.mem_flatMap.mp heard
    exact (bne_iff_ne.mp (List.mem_filter.mp kept).2 named).elim

/-- The searching node is asked only if a seed has its name. -/
theorem asked_named {contact : Contact}
    (asked : Asked (search self (logged choose ask) target width parallelism seeds (state, [])).2.2
      contact) (own : contact.id = self) : ∃ seed ∈ seeds, seed.id = self := by
  let motive : List (Round α) → Candidates → Prop := fun log candidates =>
    Follows self target width seeds (heard choose log) candidates ∧
      ∀ contact, Asked log contact → contact.id = self → ∃ seed ∈ seeds, seed.id = self
  have round : ∀ log (frontier : Frontier) state, motive log frontier.candidates →
      motive (log ++ [⟨frontier.probes, (ask state frontier.probes).1⟩])
        ((picked choose (ask state frontier.probes).1).foldl (absorb self)
          frontier.launch).candidates := by
    rintro log frontier state ⟨follows, named⟩
    refine ⟨?_, ?_⟩
    · rw [heard_append]
      exact absorb_all_follows (launch_follows follows) _
    · rintro contact ⟨round, noted, sent⟩ own
      rcases List.mem_append.mp noted with before | now
      · exact named contact ⟨round, before, sent⟩ own
      · obtain rfl := List.mem_singleton.mp now
        exact (seen_named self seeds _).mp
          ⟨contact, Candidates.survivors_subset _ _ (probes_survive follows contact sent), own⟩
  exact (run_keeps round maxRounds state [] ⟨start_follows self target width parallelism seeds,
    nofun⟩).2 contact asked own

end NodeSearch

section Homing

variable (own : Ident) (width parallelism : Nat) {seeds : List Contact}
  (lives : ∀ seed ∈ seeds, seed.endpoint.isSome = true) (choose : α → Option (List Contact))
  (ask : Ask σ α) (state : σ)
include lives

/-- In a search for its own name a node asks itself exactly if a seed has that name and it may ask
anyone. -/
theorem own_asked_iff :
    let ended := NodeSearch.search own (logged choose ask) own width parallelism seeds (state, [])
    (∃ contact, Asked ended.2.2 contact ∧ contact.id = own ∧ contact.endpoint.isSome = true) ↔
      (∃ seed ∈ seeds, seed.id = own) ∧ 0 < width ∧ 0 < parallelism := by
  intro ended
  have begun : (Frontier.start own width parallelism seeds).candidates.Tracks own width seeds [] :=
    Candidates.push_all_tracks (Candidates.empty_tracks own width) seeds
  constructor
  · rintro ⟨contact, asked, named, _⟩
    have busy : (Frontier.start own width parallelism seeds).probes ≠ [] := by
      intro idle
      obtain ⟨round, noted, _⟩ := asked
      rw [NodeSearch.log_idle idle] at noted
      cases noted
    refine ⟨NodeSearch.asked_named asked named, Nat.pos_of_ne_zero ?_, Nat.pos_of_ne_zero ?_⟩
    · rintro rfl
      obtain ⟨all, _, _, closest⟩ := Candidates.closest_tracks begun
      apply busy
      rw [Frontier.probes, Candidates.uncontacted, closest, List.take_zero, List.filter_nil,
        List.take_nil]
    · rintro rfl
      exact busy (Frontier.probes_idle own width seeds)
  · rintro ⟨named, wide, busy⟩
    rw [← List.filter_eq_self.mpr lives] at named
    obtain ⟨nearest, rest, closest, same, linked⟩ :=
      Candidates.aim_leads begun wide named List.not_mem_nil
    exact ⟨nearest, NodeSearch.asked_at_once (Frontier.leader_probed busy closest), same, linked⟩

/-- In a search for its own name a node finds itself exactly if a seed has that name and it did not fail
when it was asked. -/
theorem own_found_iff :
    let ended := NodeSearch.search own (logged choose ask) own width parallelism seeds (state, [])
    (∃ contact ∈ ended.1.candidates.closest, contact.id = own) ↔
      (∃ seed ∈ seeds, seed.id = own) ∧ 0 < width ∧ own ∉ failures (heard choose ended.2.2) := by
  intro ended
  have follows : NodeSearch.Follows own own width seeds (heard choose ended.2.2)
      ended.1.candidates :=
    NodeSearch.search_follows choose own own width parallelism seeds ask state
  constructor
  · rintro ⟨contact, found, named⟩
    obtain ⟨all, perm, _, closest⟩ := Candidates.closest_tracks follows
    rw [closest] at found
    have survives := perm.mem_iff.mp (List.mem_of_mem_take found)
    refine ⟨(NodeSearch.seen_named own seeds _).mp
      ⟨contact, Candidates.survivors_subset _ _ survives, named⟩, Nat.pos_of_ne_zero ?_, ?_⟩
    · rintro rfl
      cases found
    · rw [← named]
      exact Candidates.mem_survivors_failed survives
  · rintro ⟨⟨seed, given, same⟩, wide, fit⟩
    have seen : seed ∈ (seeds ++ reported own (heard choose ended.2.2)).filter
        fun contact => contact.endpoint.isSome :=
      List.mem_filter.mpr ⟨List.mem_append_left _ given, lives seed given⟩
    obtain ⟨nearest, rest, closest, named, _⟩ :=
      Candidates.aim_leads follows wide ⟨seed, seen, same⟩ fit
    exact ⟨nearest, closest ▸ List.mem_cons_self, named⟩

end Homing
end Lookup
end XorOverlay
