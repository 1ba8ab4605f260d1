import Mathlib
import XorOverlay.Lookup.Frontier
import XorOverlay.Proofs.Routing.Nearest

/-!
What a lookup has for candidates. Contacts are pushed and names removed in any order; at any time
the candidates are the contacts that were pushed with an endpoint, each name as it was pushed first,
but for the names that were removed, in ascending distance to the target.
-/

namespace XorOverlay.Candidates

set_option autoImplicit false

/-- One contact of each name, the first. -/
def firsts : List Contact → List Contact
  | [] => []
  | contact :: rest => contact :: (firsts rest).filter fun other => other.id != contact.id

/-- The contacts seen so far that can be asked, each name once, but for those that failed. -/
def survivors (seen : List Contact) (failed : List Ident) : List Contact :=
  (firsts (seen.filter fun contact => contact.endpoint.isSome)).filter
    fun contact => !failed.contains contact.id

theorem firsts_named (contacts : List Contact) (id : Ident) :
    (∃ contact ∈ firsts contacts, contact.id = id) ↔ ∃ contact ∈ contacts, contact.id = id := by
  induction contacts with
  | nil => rfl
  | cons contact rest ih =>
      simp only [firsts, List.exists_mem_cons_iff]
      by_cases same : contact.id = id
      · simp [same]
      · have kept : (∃ other ∈ (firsts rest).filter fun other => other.id != contact.id,
            other.id = id) ↔ ∃ other ∈ firsts rest, other.id = id := by
          constructor
          · rintro ⟨other, member, named⟩
            exact ⟨other, List.mem_of_mem_filter member, named⟩
          · rintro ⟨other, member, rfl⟩
            exact ⟨other, List.mem_filter.mpr ⟨member, bne_iff_ne.mpr (Ne.symm same)⟩, rfl⟩
        rw [kept, ih]

theorem firsts_append (contacts : List Contact) (contact : Contact) :
    firsts (contacts ++ [contact]) =
      if ∃ known ∈ contacts, known.id = contact.id then firsts contacts
      else firsts contacts ++ [contact] := by
  induction contacts with
  | nil => simp [firsts]
  | cons first rest ih =>
      rw [List.cons_append, firsts, ih, firsts]
      simp only [List.exists_mem_cons_iff]
      by_cases behind : ∃ known ∈ rest, known.id = contact.id
      · simp [behind]
      · by_cases same : first.id = contact.id
        · simp [behind, same, List.filter_append]
        · simp [behind, same, Ne.symm same, List.filter_append]

theorem mem_survivors_failed {seen : List Contact} {failed : List Ident} {contact : Contact}
    (member : contact ∈ survivors seen failed) : contact.id ∉ failed := by
  simpa using (List.mem_filter.mp member).2

theorem survivors_named (seen : List Contact) (failed : List Ident) (id : Ident) :
    (∃ known ∈ survivors seen failed, known.id = id) ↔ id ∉ failed ∧
      ∃ known ∈ seen.filter (fun contact => contact.endpoint.isSome), known.id = id := by
  rw [← firsts_named (seen.filter fun contact => contact.endpoint.isSome)]
  constructor
  · rintro ⟨known, member, rfl⟩
    exact ⟨mem_survivors_failed member, known, (List.mem_filter.mp member).1, rfl⟩
  · rintro ⟨fit, known, member, rfl⟩
    exact ⟨known, List.mem_filter.mpr ⟨member, by simpa using fit⟩, rfl⟩

/-- Seeing a contact without an endpoint, or one whose name failed or is there, changes nothing. -/
theorem survivors_skip {seen : List Contact} {failed : List Ident} {contact : Contact}
    (idle : contact.endpoint.isNone = true ∨ contact.id ∈ failed ∨
      ∃ known ∈ survivors seen failed, known.id = contact.id) :
    survivors (seen ++ [contact]) failed = survivors seen failed := by
  rw [survivors_named] at idle
  unfold survivors
  rw [List.filter_append]
  cases lives : contact.endpoint with
  | none => simp [lives]
  | some endpoint =>
      have kept : [contact].filter (fun contact => contact.endpoint.isSome) = [contact] := by
        simp [lives]
      rw [kept, firsts_append]
      split_ifs with known
      · rfl
      · have out : contact.id ∈ failed := by
          rw [lives] at idle
          exact (idle.resolve_left nofun).resolve_right fun old => known old.2
        simp [List.filter_append, out]

theorem survivors_gain {seen : List Contact} {failed : List Ident} {contact : Contact}
    (lives : contact.endpoint.isSome = true) (fit : contact.id ∉ failed)
    (fresh : ∀ known ∈ survivors seen failed, known.id ≠ contact.id) :
    survivors (seen ++ [contact]) failed = survivors seen failed ++ [contact] := by
  have unknown : ¬∃ known ∈ seen.filter (fun contact => contact.endpoint.isSome),
      known.id = contact.id := by
    intro known
    obtain ⟨old, member, same⟩ := (survivors_named seen failed contact.id).mpr ⟨fit, known⟩
    exact fresh old member same
  have kept : [contact].filter (fun contact => contact.endpoint.isSome) = [contact] := by
    simp [lives]
  unfold survivors
  rw [List.filter_append, kept, firsts_append, if_neg unknown, List.filter_append]
  simp [fit]

theorem survivors_fail (seen : List Contact) (failed : List Ident) (id : Ident) :
    survivors seen (failed ++ [id]) =
      (survivors seen failed).filter fun contact => contact.id != id := by
  unfold survivors
  rw [List.filter_filter]
  apply List.filter_congr
  intro contact _
  by_cases same : contact.id = id
  · simp [same]
  · simp [same]

/-- The candidates are those of the contacts seen that did not fail, closest first. -/
structure Tracks (aim : Ident) (count : Nat) (seen : List Contact) (failed : List Ident)
    (candidates : Candidates) : Prop where
  target : candidates.target = aim
  width : candidates.width = count
  ranked : ∃ all, all.Perm (survivors seen failed) ∧ Ascending aim all ∧
    candidates.ranked = all.map (Ranked.around aim)
  removed : ∀ id, id ∈ candidates.removed ↔ id ∈ failed

variable {aim : Ident} {count : Nat} {seen : List Contact} {failed : List Ident}
  {candidates : Candidates}

theorem empty_tracks (aim : Ident) (count : Nat) :
    (empty aim count).Tracks aim count [] [] :=
  ⟨rfl, rfl, ⟨[], List.Perm.refl _, List.Pairwise.nil, rfl⟩, fun _ => Iff.rfl⟩

theorem push_tracks (tracks : candidates.Tracks aim count seen failed) (contact : Contact) :
    (candidates.push contact).Tracks aim count (seen ++ [contact]) failed := by
  obtain ⟨target, width, ⟨all, perm, ascending, ranked⟩, removed⟩ := tracks
  unfold push
  rw [target]
  dsimp only
  split_ifs with unfit known
  · have idle : contact.endpoint.isNone = true ∨ contact.id ∈ failed := by
      simpa [removed] using unfit
    refine ⟨target, width, ⟨all, ?_, ascending, ranked⟩, removed⟩
    rw [survivors_skip (idle.imp_right Or.inl)]
    exact perm
  · have old : ∃ known ∈ survivors seen failed, known.id = contact.id := by
      obtain ⟨entry, member, same⟩ := List.any_eq_true.mp known
      rw [ranked] at member
      obtain ⟨known, among, rfl⟩ := List.mem_map.mp member
      exact ⟨known, perm.mem_iff.mp among, beq_iff_eq.mp same⟩
    refine ⟨target, width, ⟨all, ?_, ascending, ranked⟩, removed⟩
    rw [survivors_skip (Or.inr (Or.inr old))]
    exact perm
  · have fresh : ∀ known ∈ all, known.id ≠ contact.id := by
      intro old among same
      apply known
      rw [ranked, List.any_eq_true]
      exact ⟨_, List.mem_map_of_mem among, beq_iff_eq.mpr same⟩
    have fit : contact.endpoint.isSome = true ∧ contact.id ∉ failed := by
      simpa [removed, Option.isSome_iff_ne_none] using unfit
    obtain ⟨longer, inserted, permLonger, sorted⟩ := Ranked.insert_ascending ascending fresh
    refine ⟨rfl, width, ⟨longer, ?_, sorted, ?_⟩, removed⟩
    · rw [survivors_gain fit.1 fit.2 fun known member => fresh known (perm.mem_iff.mpr member)]
      exact permLonger.trans ((perm.cons contact).trans (List.perm_append_singleton _ _).symm)
    · rw [← inserted, ← ranked]

theorem mem_push_of_mem {entry : Ranked} (held : entry ∈ candidates.ranked) (contact : Contact) :
    entry ∈ (candidates.push contact).ranked := by
  unfold push
  dsimp only
  split_ifs
  · exact held
  · exact held
  · exact (Ranked.insert_perm _ _).mem_iff.mpr (List.mem_cons_of_mem _ held)

theorem mem_push_all_of_mem {entry : Ranked} (held : entry ∈ candidates.ranked)
    (contacts : List Contact) : entry ∈ (candidates.pushAll contacts).ranked := by
  unfold pushAll
  induction contacts generalizing candidates with
  | nil => exact held
  | cons contact rest ih => exact ih (mem_push_of_mem held contact)

theorem push_all_frame (contacts : List Contact) (candidates : Candidates) :
    (candidates.pushAll contacts).contacted = candidates.contacted ∧
      (candidates.pushAll contacts).width = candidates.width := by
  unfold pushAll
  induction contacts generalizing candidates with
  | nil => exact ⟨rfl, rfl⟩
  | cons contact rest ih =>
      rw [List.foldl_cons, (ih _).1, (ih _).2]
      unfold push
      dsimp only
      split_ifs
      · exact ⟨rfl, rfl⟩
      · exact ⟨rfl, rfl⟩
      · exact ⟨rfl, rfl⟩

theorem push_all_tracks (tracks : candidates.Tracks aim count seen failed)
    (contacts : List Contact) :
    (candidates.pushAll contacts).Tracks aim count (seen ++ contacts) failed := by
  unfold pushAll
  induction contacts generalizing candidates seen with
  | nil => simpa using tracks
  | cons contact rest ih => simpa using ih (push_tracks tracks contact)

theorem remove_tracks (tracks : candidates.Tracks aim count seen failed) (id : Ident) :
    (candidates.remove id).Tracks aim count seen (failed ++ [id]) := by
  obtain ⟨target, width, ⟨all, perm, ascending, ranked⟩, removed⟩ := tracks
  refine ⟨target, width, ⟨all.filter fun contact => contact.id != id, ?_, ?_, ?_⟩, ?_⟩
  · rw [survivors_fail]
    exact perm.filter _
  · exact List.Pairwise.filter _ ascending
  · unfold remove
    rw [ranked, List.filter_map]
    rfl
  · intro other
    simp [remove, removed, or_comm]

/-- Marking contacts as asked changes nothing else. -/
theorem mark_all (probes : List Contact) (candidates : Candidates) :
    probes.foldl (fun known contact => known.markContacted contact.id) candidates =
      { candidates with
        contacted := (probes.map Contact.id).reverse ++ candidates.contacted } := by
  induction probes generalizing candidates with
  | nil => rfl
  | cons probe probes ih =>
      rw [List.foldl_cons, ih]
      simp [markContacted]

theorem mark_all_tracks (tracks : candidates.Tracks aim count seen failed) (probes : List Contact) :
    (probes.foldl (fun known contact => known.markContacted contact.id) candidates).Tracks aim
      count seen failed := by
  rw [mark_all]
  exact ⟨tracks.target, tracks.width, tracks.ranked, tracks.removed⟩

/-- The closest candidates are the first of the survivors in ascending distance. -/
theorem closest_tracks (tracks : candidates.Tracks aim count seen failed) :
    ∃ all, all.Perm (survivors seen failed) ∧ Ascending aim all ∧
      candidates.closest = all.take count := by
  obtain ⟨_, width, ⟨all, perm, ascending, ranked⟩, _⟩ := tracks
  refine ⟨all, perm, ascending, ?_⟩
  unfold closest
  rw [ranked, width, List.map_take, Ranked.contact_around]

end XorOverlay.Candidates
