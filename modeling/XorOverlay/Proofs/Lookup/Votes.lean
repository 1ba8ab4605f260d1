import Mathlib
import XorOverlay.Proofs.Lookup.Informed
import XorOverlay.Proofs.Entries

/-!
Counting votes. A tally has one entry for every value that was seen, with the number of times it
was seen, in the order in which the values were seen first. So the value with the most votes was seen
as often as any other, and first of those that were; and a value seen more often than every other is
the one with the most votes, in whatever order they came in.
-/

namespace XorOverlay.Lookup

set_option autoImplicit false

/-- One entry for every value, with the times it occurs. -/
structure Tallied (values : List Octets) (tally : List (Octets × Nat)) : Prop where
  distinct : (tally.map Prod.fst).Nodup
  counted : ∀ value, tally.lookup value =
    if value ∈ values then some (values.count value) else none

theorem keys_vote (value : Octets) (tally : List (Octets × Nat)) :
    (vote value tally).map Prod.fst =
      if value ∈ tally.map Prod.fst then tally.map Prod.fst
      else tally.map Prod.fst ++ [value] := by
  induction tally with
  | nil => rfl
  | cons first rest ih =>
      rw [vote]
      by_cases here : first.1 = value
      · simp [here]
      · have there : value ≠ first.1 := Ne.symm here
        rw [if_neg here, List.map_cons, ih]
        simp only [List.map_cons, List.mem_cons, there, false_or]
        split_ifs <;> rfl

theorem lookup_vote (value other : Octets) (tally : List (Octets × Nat)) :
    (vote value tally).lookup other =
      if other = value then some ((tally.lookup value).getD 0 + 1) else tally.lookup other := by
  induction tally with
  | nil =>
      rw [vote, List.lookup_cons]
      by_cases same : other = value
      · simp [same]
      · simp [same, beq_false_of_ne same]
  | cons first rest ih =>
      obtain ⟨seen, count⟩ := first
      rw [vote]
      by_cases here : seen = value
      · subst here
        rw [if_pos rfl, List.lookup_cons, List.lookup_cons, List.lookup_cons]
        by_cases same : other = seen
        · simp [same]
        · simp [same, beq_false_of_ne same]
      · rw [if_neg here, List.lookup_cons, List.lookup_cons, List.lookup_cons, ih,
          beq_false_of_ne (Ne.symm here)]
        by_cases same : other = seen
        · simp [same, here]
        · simp [beq_false_of_ne same]

theorem vote_tallied {values : List Octets} {tally : List (Octets × Nat)}
    (tallied : Tallied values tally) (value : Octets) :
    Tallied (values ++ [value]) (vote value tally) := by
  constructor
  · rw [keys_vote]
    split_ifs with known
    · exact tallied.distinct
    · exact List.nodup_append.mpr ⟨tallied.distinct, List.nodup_singleton _, by
        rintro key among _ new rfl
        exact known (List.mem_singleton.mp new ▸ among)⟩
  · intro other
    rw [lookup_vote, tallied.counted, tallied.counted]
    by_cases same : other = value
    · subst same
      by_cases known : other ∈ values
      · simp [known]
      · simp [known, List.count_eq_zero_of_not_mem known]
    · have apart : value ≠ other := Ne.symm same
      simp [same, apart]

theorem tally_tallied (values : List Octets) :
    Tallied values (values.foldl (fun tally value => vote value tally) []) := by
  induction values using List.reverseRecOn with
  | nil => exact ⟨List.nodup_nil, fun _ => rfl⟩
  | append_singleton values value ih =>
      rw [List.foldl_concat]
      exact vote_tallied ih value

theorem tally_counts {values : List Octets} {entry : Octets × Nat}
    (listed : entry ∈ values.foldl (fun tally value => vote value tally) []) :
    values.count entry.1 = entry.2 := by
  have tallied := tally_tallied values
  have found := (lookup_iff_mem tallied.distinct entry.1 entry.2).mpr listed
  rw [tallied.counted] at found
  split_ifs at found
  exact Option.some.inj found

/-- Nothing in a tally, and nothing that led before, has more votes than the leader. -/
theorem leader_greatest {tally : List (Octets × Nat)} {leader : Option (Octets × Nat)}
    {best : Octets × Nat}
    (leads : tally.foldl
      (fun leader (entry : Octets × Nat) =>
        match leader with
        | none => some entry
        | some best => if best.2 < entry.2 then some entry else some best)
      leader = some best) :
    (∀ entry ∈ tally, entry.2 ≤ best.2) ∧ ∀ old, leader = some old → old.2 ≤ best.2 := by
  induction tally generalizing leader with
  | nil =>
      refine ⟨nofun, ?_⟩
      rintro old rfl
      rw [Option.some.inj leads]
  | cons first rest ih =>
      obtain ⟨later, before⟩ := ih leads
      rw [List.forall_mem_cons]
      cases leader with
      | none => exact ⟨⟨before first rfl, later⟩, nofun⟩
      | some held =>
          simp only at before
          split_ifs at before with less
          · refine ⟨⟨before first rfl, later⟩, ?_⟩
            rintro old same
            obtain rfl := Option.some.inj same
            exact less.le.trans (before first rfl)
          · refine ⟨⟨(not_lt.mp less).trans (before held rfl), later⟩, ?_⟩
            rintro old same
            exact before old same

/-- The value with the most votes occurs as often as any other. -/
theorem majority_greatest {values : List Octets} {value : Octets}
    (won : majority values = some value) (rival : Octets) :
    values.count rival ≤ values.count value := by
  obtain ⟨entry, leads, rfl⟩ := Option.map_eq_some_iff.mp won
  have tallied := tally_tallied values
  have listed : entry ∈ values.foldl (fun tally value => vote value tally) [] :=
    (mem_leader leads).resolve_right nofun
  by_cases seen : rival ∈ values
  · have found := tallied.counted rival
    rw [if_pos seen, lookup_iff_mem tallied.distinct] at found
    have less := (leader_greatest leads).1 _ found
    rw [tally_counts listed]
    exact less
  · rw [List.count_eq_zero_of_not_mem seen]
    exact Nat.zero_le _

/-- Whatever comes before the leader of a tally has fewer votes, and so has what led before, if the
lead was taken over from it. -/
theorem leader_first {tally : List (Octets × Nat)} {leader : Option (Octets × Nat)}
    {best : Octets × Nat}
    (leads : tally.foldl
      (fun leader (entry : Octets × Nat) =>
        match leader with
        | none => some entry
        | some best => if best.2 < entry.2 then some entry else some best)
      leader = some best) :
    leader = some best ∨ ∃ before after, tally = before ++ best :: after ∧
      (∀ entry ∈ before, entry.2 < best.2) ∧ ∀ old, leader = some old → old.2 < best.2 := by
  induction tally generalizing leader with
  | nil => exact Or.inl leads
  | cons first rest ih =>
      have later := ih leads
      cases leader with
      | none =>
          rcases later with same | ⟨before, after, rfl, fewer, beaten⟩
          · rw [Option.some.inj same]
            exact Or.inr ⟨[], rest, rfl, nofun, nofun⟩
          · exact Or.inr ⟨first :: before, after, rfl,
              List.forall_mem_cons.mpr ⟨beaten first rfl, fewer⟩, nofun⟩
      | some held =>
          simp only at later
          split_ifs at later with less
          · rcases later with same | ⟨before, after, rfl, fewer, beaten⟩
            · obtain rfl := Option.some.inj same
              exact Or.inr ⟨[], rest, rfl, nofun, fun old same => Option.some.inj same ▸ less⟩
            · refine Or.inr ⟨first :: before, after, rfl,
                List.forall_mem_cons.mpr ⟨beaten first rfl, fewer⟩, ?_⟩
              rintro old same
              rw [← Option.some.inj same]
              exact less.trans (beaten first rfl)
          · refine later.imp_right ?_
            rintro ⟨before, after, rfl, fewer, beaten⟩
            have behind := (not_lt.mp less).trans_lt (beaten held rfl)
            exact ⟨first :: before, after, rfl, List.forall_mem_cons.mpr ⟨behind, fewer⟩, beaten⟩

/-- Values keep their places in a tally, whatever is seen after them. -/
theorem keys_tally_prefix (values : List Octets) (tally : List (Octets × Nat)) :
    tally.map Prod.fst <+:
      (values.foldl (fun tally value => vote value tally) tally).map Prod.fst := by
  induction values generalizing tally with
  | nil => exact List.prefix_rfl
  | cons value rest ih =>
      refine List.IsPrefix.trans ?_ (ih (vote value tally))
      rw [keys_vote]
      split_ifs
      · exact List.prefix_rfl
      · exact List.prefix_append _ _

/-- A value that occurs as often as any other, and was seen first of those that do. -/
def Elected (values : List Octets) (value : Octets) : Prop :=
  ∃ early late, values = early ++ value :: late ∧
    (∀ rival ∈ early, values.count rival < values.count value) ∧
    ∀ rival, values.count rival ≤ values.count value

theorem majority_elected {values : List Octets} {value : Octets}
    (won : majority values = some value) : Elected values value := by
  obtain ⟨early, late, rfl, unseen⟩ := List.eq_append_cons_of_mem (mem_of_majority won)
  refine ⟨early, late, rfl, ?_, majority_greatest won⟩
  obtain ⟨entry, leads, rfl⟩ := Option.map_eq_some_iff.mp won
  obtain ⟨before, after, split, fewer, _⟩ := (leader_first leads).resolve_left nofun
  have listed : entry ∈ before ++ entry :: after := List.mem_append_right _ List.mem_cons_self
  -- The values seen before the first vote for the winner are those that stand before it.
  have tallied := tally_tallied early
  have absent : entry.1 ∉ (early.foldl (fun tally value => vote value tally) []).map Prod.fst := by
    intro known
    obtain ⟨old, among, same⟩ := List.mem_map.mp known
    rcases mem_tally among with voted | ⟨_, none, _⟩
    · exact unseen (same ▸ voted)
    · cases none
  obtain ⟨more, keys⟩ : ∃ more, (early.foldl (fun tally value => vote value tally) []).map Prod.fst ++
      entry.1 :: more = before.map Prod.fst ++ entry.1 :: after.map Prod.fst := by
    obtain ⟨more, keys⟩ := keys_tally_prefix late
      (vote entry.1 (early.foldl (fun tally value => vote value tally) []))
    refine ⟨more, ?_⟩
    rw [keys_vote, if_neg absent, List.append_assoc, List.singleton_append] at keys
    rw [keys, ← List.map_cons, ← List.map_append, ← split, List.foldl_append, List.foldl_cons]
  have distinct := (tally_tallied (early ++ entry.1 :: late)).distinct
  rw [split, List.map_append, List.map_cons, List.nodup_middle, List.nodup_cons] at distinct
  have ahead : before.map Prod.fst =
      (early.foldl (fun tally value => vote value tally) []).map Prod.fst :=
    ((List.append_cons_inj_of_notMem (fun known => distinct.1 (List.mem_append_left _ known))
      fun known => distinct.1 (List.mem_append_right _ known)).mp keys.symm).1
  intro rival voted
  have seen : rival ∈ before.map Prod.fst := by
    rw [ahead]
    have found := tallied.counted rival
    rw [if_pos voted, lookup_iff_mem tallied.distinct] at found
    exact List.mem_map_of_mem found
  obtain ⟨other, earlier, rfl⟩ := List.mem_map.mp seen
  rw [tally_counts (split ▸ List.mem_append_left _ earlier), tally_counts (split ▸ listed)]
  exact fewer other earlier

/-- A value that occurs more often than every other has the majority. -/
theorem majority_of_strict {values : List Octets} {value : Octets}
    (strict : ∀ rival, rival ≠ value → values.count rival < values.count value) :
    majority values = some value := by
  have voted : values ≠ [] := by
    rintro rfl
    exact absurd (strict (0 :: value) (List.cons_ne_self 0 value)) (lt_irrefl 0)
  obtain ⟨winner, won⟩ := Option.isSome_iff_exists.mp (majority_isSome voted)
  by_cases same : winner = value
  · exact same ▸ won
  · have less := strict winner same
    exact absurd (majority_greatest won value) (not_le.mpr less)

end XorOverlay.Lookup
