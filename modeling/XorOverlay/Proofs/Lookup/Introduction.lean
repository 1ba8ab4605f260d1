import Mathlib
import XorOverlay.Proofs.Lookup.Informed

/-!
A search that is introduced to everyone by the first contact it asks. Whoever is asked names all
others, so from the second round on the closest candidates are all contacts there are. They change
once, between the first round and the second; the second round probes a few of those left, and the
third all that are still left then, however many they are.
-/

namespace XorOverlay

set_option autoImplicit false

namespace Lookup

/-- Everyone names all others. -/
def introductions (all probes : List Contact) : List (Contact × Option (List Contact)) :=
  probes.map fun probe => (probe, some (all.filter fun contact => contact.id != probe.id))

/-- Asks contacts that name all others, and keeps who was asked. -/
def introducing (all : List Contact) : Ask (List Contact) (List Contact) :=
  fun asked probes => (introductions all probes, asked ++ probes)

namespace NodeSearch

/-- Contacts that a search from one of them is to find: no more than it looks for, and not the
searching node itself. -/
structure Circle (own target : Ident) (width : Nat) (all : List Contact) (seed : Contact) :
    Prop where
  ascending : Ascending target all
  lives : ∀ contact ∈ all, contact.endpoint.isSome = true
  foreign : ∀ contact ∈ all, contact.id ≠ own
  few : all.length ≤ width
  seeded : seed ∈ all

/-- Where a search in a circle stands between two rounds. -/
structure Stands (own target : Ident) (width : Nat) (all : List Contact) (seed : Contact)
    (outcomes : List (Contact × Option (List Contact))) (frontier : Frontier)
    (asked : List Contact) : Prop where
  follows : Follows own target width [seed] outcomes frontier.candidates
  informs : Informs own all outcomes
  inside : asked ⊆ all
  noted : ∀ id ∈ frontier.candidates.contacted, ∃ contact ∈ asked, contact.id = id

/-- The frontier after a round of introductions. -/
def introduced (own : Ident) (all : List Contact) (frontier : Frontier) : Frontier :=
  (introductions all frontier.probes).foldl (absorb own) frontier.launch

variable {own target : Ident} {width : Nat} {all : List Contact} {seed : Contact}
  {outcomes : List (Contact × Option (List Contact))} {frontier : Frontier}
  {asked : List Contact}

theorem run_introducing (own : Ident) (all : List Contact) (rounds : Nat) (frontier : Frontier)
    (asked : List Contact) :
    run own (introducing all) (rounds + 1) frontier asked =
      if frontier.probes.isEmpty then (frontier.launch, asked)
      else if (introduced own all frontier).candidates.allContacted then
        (introduced own all frontier, asked ++ frontier.probes)
      else run own (introducing all) rounds (introduced own all frontier)
        (asked ++ frontier.probes) :=
  rfl

theorem introduced_contacted (own : Ident) (all : List Contact) (frontier : Frontier) :
    (introduced own all frontier).candidates.contacted =
      (frontier.probes.map Contact.id).reverse ++ frontier.candidates.contacted := by
  rw [introduced, (absorb_all_frame _ _ _).1, Frontier.launch, Candidates.mark_all]

theorem introduced_last (own : Ident) (all : List Contact) (frontier : Frontier) :
    (introduced own all frontier).lastIds = frontier.candidates.closestIds :=
  absorb_all_last own _ frontier.launch

theorem introduced_parallelism (own : Ident) (all : List Contact) (frontier : Frontier) :
    (introduced own all frontier).parallelism = frontier.parallelism :=
  (absorb_all_frame own _ frontier.launch).2.2

theorem introductions_inform (own : Ident) (all probes : List Contact) :
    Informs own all (introductions all probes) := by
  intro outcome among
  obtain ⟨probe, _, rfl⟩ := List.mem_map.mp among
  exact ⟨_, rfl, fun contact named _ => List.mem_of_mem_filter named⟩

section Round

variable (circle : Circle own target width all seed)
  (stands : Stands own target width all seed outcomes frontier asked)
include circle stands

theorem tracks_of_stands :
    seed :: reported own outcomes ⊆ all ∧
      frontier.candidates.Tracks target width (seed :: reported own outcomes) [] := by
  obtain ⟨none, inside⟩ := informs_reported stands.informs
  have follows := stands.follows
  rw [Follows, none] at follows
  exact ⟨List.cons_subset.mpr ⟨circle.seeded, inside⟩, follows⟩

theorem closest_inside : frontier.candidates.closest ⊆ all := by
  obtain ⟨inside, tracks⟩ := tracks_of_stands circle stands
  obtain ⟨known, perm, _, closest⟩ := Candidates.closest_tracks tracks
  rw [closest]
  intro contact taken
  exact inside (Candidates.survivors_subset _ _ (perm.mem_iff.mp (List.mem_of_mem_take taken)))

theorem probes_inside : frontier.probes ⊆ all := by
  intro probe chosen
  apply closest_inside circle stands
  exact List.mem_of_mem_filter (List.mem_of_mem_take chosen)

theorem introduced_stands :
    Stands own target width all seed (outcomes ++ introductions all frontier.probes)
      (introduced own all frontier) (asked ++ frontier.probes) := by
  refine ⟨absorb_all_follows (launch_follows stands.follows) _, ?_, ?_, ?_⟩
  · exact List.forall_mem_append.mpr ⟨stands.informs, introductions_inform own all _⟩
  · exact List.append_subset.mpr ⟨stands.inside, probes_inside circle stands⟩
  · intro id contacted
    rw [introduced_contacted] at contacted
    rcases List.mem_append.mp contacted with now | before
    · obtain ⟨probe, chosen, rfl⟩ := List.mem_map.mp (List.mem_reverse.mp now)
      exact ⟨probe, List.mem_append_right _ chosen, rfl⟩
    · obtain ⟨contact, old, named⟩ := stands.noted id before
      exact ⟨contact, List.mem_append_left _ old, named⟩

/-- Once everyone has been named, the closest candidates are all there are. -/
theorem closest_surveyed (surveyed : all ⊆ seed :: reported own outcomes) :
    frontier.candidates.closest = all := by
  obtain ⟨inside, tracks⟩ := tracks_of_stands circle stands
  have few := List.take_of_length_le circle.few
  rw [Candidates.closest_informed tracks circle.ascending circle.lives inside
    (few.symm ▸ surveyed), few]

/-- When all of the closest candidates have been asked, everyone has. -/
theorem asked_all (surveyed : all ⊆ seed :: reported own outcomes)
    (done : frontier.candidates.uncontacted = []) : all ⊆ asked := by
  intro contact member
  have contacted : contact.id ∈ frontier.candidates.contacted := by
    rw [← closest_surveyed circle stands surveyed] at member
    simpa using List.filter_eq_nil_iff.mp done contact member
  obtain ⟨other, known, named⟩ := stands.noted contact.id contacted
  have same : other = contact :=
    List.inj_on_of_nodup_map circle.ascending.ids_nodup (stands.inside known) member named
  exact same ▸ known

end Round

/-- The end of a search in a circle: everyone is found, and everyone was asked. -/
def Found (all : List Contact) (ended : Frontier × List Contact) : Prop :=
  ended.1.candidates.closest = all ∧ all ⊆ ended.2

theorem surveyed_later (surveyed : all ⊆ seed :: reported own outcomes)
    (brought : List (Contact × Option (List Contact))) :
    all ⊆ seed :: reported own (outcomes ++ brought) := by
  rw [reported, List.flatMap_append]
  exact List.Subset.trans surveyed (List.subset_append_left (seed :: reported own outcomes) _)

section Rounds

variable (circle : Circle own target width all seed)
  (stands : Stands own target width all seed outcomes frontier asked)
  (surveyed : all ⊆ seed :: reported own outcomes)
include circle stands surveyed

theorem found_of_done (done : frontier.candidates.allContacted = true) :
    Found all (frontier, asked) :=
  ⟨closest_surveyed circle stands surveyed,
    asked_all circle stands surveyed (List.isEmpty_iff.mp done)⟩

theorem found_of_idle (idle : frontier.candidates.uncontacted = []) :
    Found all (frontier.launch, asked) := by
  have none : frontier.probes = [] := by rw [Frontier.probes, idle, List.take_nil]
  have same : frontier.launch.candidates = frontier.candidates := by
    rw [Frontier.launch, none]
    rfl
  rw [Found, same]
  exact found_of_done circle stands surveyed (List.isEmpty_iff.mpr idle)

/-- A round that begins with the closest candidates of the round before asks all that are left. -/
theorem steady_round_finds (steady : frontier.lastIds = all.map Contact.id) (rounds : Nat) :
    Found all (run own (introducing all) (rounds + 1) frontier asked) := by
  have closest := closest_surveyed circle stands surveyed
  have tracks := (tracks_of_stands circle stands).2
  have count : frontier.probeCount = width := by
    rw [Frontier.probeCount, Candidates.closestIds, closest, steady, if_pos rfl, tracks.width]
  have probes : frontier.probes = frontier.candidates.uncontacted := by
    rw [Frontier.probes, count, List.take_of_length_le]
    refine le_trans (List.length_filter_le _ _) ?_
    rw [closest]
    exact circle.few
  have later := introduced_stands circle stands
  have named := surveyed_later surveyed (introductions all frontier.probes)
  have done : (introduced own all frontier).candidates.allContacted = true := by
    rw [Candidates.allContacted, List.isEmpty_iff, Candidates.uncontacted,
      closest_surveyed circle later named, List.filter_eq_nil_iff]
    intro contact member
    rw [introduced_contacted, probes]
    by_cases before : contact.id ∈ frontier.candidates.contacted
    · simp [before]
    · have left : contact ∈ frontier.candidates.uncontacted :=
        List.mem_filter.mpr ⟨closest.symm ▸ member, by simpa using before⟩
      simp [List.mem_map_of_mem left]
  rw [run_introducing]
  split_ifs with idle
  · exact found_of_idle circle stands surveyed (probes ▸ List.isEmpty_iff.mp idle)
  · exact found_of_done circle later named done

/-- Once everyone has been named, two rounds are enough. -/
theorem surveyed_rounds_find (busy : 0 < frontier.parallelism) (wide : 0 < width)
    (rounds : Nat) :
    Found all (run own (introducing all) (rounds + 2) frontier asked) := by
  have later := introduced_stands circle stands
  have named := surveyed_later surveyed (introductions all frontier.probes)
  rw [run_introducing]
  split_ifs with idle done
  · have positive : frontier.probeCount ≠ 0 := by
      have tracks := (tracks_of_stands circle stands).2
      rw [Frontier.probeCount, tracks.width]
      split_ifs <;> omega
    have none := (List.take_eq_nil_iff.mp (List.isEmpty_iff.mp idle)).resolve_left positive
    exact found_of_idle circle stands surveyed none
  · exact found_of_done circle later named done
  · refine steady_round_finds circle later named ?_ rounds
    rw [introduced_last, Candidates.closestIds, closest_surveyed circle stands surveyed]

end Rounds

theorem start_probes {parallelism : Nat} (lives : seed.endpoint.isSome = true)
    (busy : 0 < parallelism) (wide : 0 < width) :
    (Frontier.start target width parallelism [seed]).probes = [seed] := by
  have alone : Ascending target [seed] := List.pairwise_singleton _ _
  have whole : [seed].take width = [seed] := List.take_of_length_le wide
  have closest := @Frontier.start_closest target width [seed] parallelism alone
    (List.forall_mem_singleton.mpr lives)
  rw [whole] at closest
  have changed : (Frontier.start target width parallelism [seed]).candidates.closestIds ≠ [] := by
    rw [Candidates.closestIds, closest]
    exact List.cons_ne_nil _ _
  have nobody : (Frontier.start target width parallelism [seed]).candidates.contacted = [] :=
    (Candidates.push_all_frame [seed] (Candidates.empty target width)).1
  have count : (Frontier.start target width parallelism [seed]).probeCount = parallelism :=
    if_neg changed
  rw [Frontier.probes, count, Candidates.uncontacted, closest, nobody]
  exact List.take_of_length_le busy

/-- A search that begins with one contact of a circle finds all of them, and asks all of them. -/
theorem find_nodes_introduced (circle : Circle own target width all seed) {parallelism : Nat}
    (busy : 0 < parallelism) :
    (findNodes own (introducing all) target width parallelism [seed] [seed]).1 = all ∧
      all ⊆ (findNodes own (introducing all) target width parallelism [seed] [seed]).2 := by
  have wide : 0 < width := (List.length_pos_of_mem circle.seeded).trans_le circle.few
  have stands : Stands own target width all seed []
      (Frontier.start target width parallelism [seed]) [seed] := by
    refine ⟨start_follows own target width parallelism [seed], nofun,
      List.cons_subset.mpr ⟨circle.seeded, List.nil_subset _⟩, ?_⟩
    have nobody := (Candidates.push_all_frame [seed] (Candidates.empty target width)).1
    intro id contacted
    rw [Frontier.start, nobody] at contacted
    cases contacted
  have probes := @start_probes target width seed parallelism (circle.lives seed circle.seeded)
    busy wide
  have later := introduced_stands circle stands
  -- The first contact asked names everyone but itself.
  have surveyed : all ⊆ seed :: reported own
      ([] ++ introductions all (Frontier.start target width parallelism [seed]).probes) := by
    intro contact member
    rw [probes]
    by_cases same : contact.id = seed.id
    · rw [List.inj_on_of_nodup_map circle.ascending.ids_nodup member circle.seeded same]
      exact List.mem_cons_self
    · exact List.mem_cons_of_mem _ (by simp [introductions, reported, member, same,
        circle.foreign contact member])
  have ended : Found all (run own (introducing all) (47 + 3)
      (Frontier.start target width parallelism [seed]) [seed]) := by
    rw [run_introducing]
    split_ifs with idle done
    · rw [probes] at idle
      cases idle
    · exact found_of_done circle later surveyed done
    · refine surveyed_rounds_find circle later surveyed ?_ wide 47
      rw [introduced_parallelism]
      exact busy
  exact ended

end NodeSearch
end Lookup
end XorOverlay
