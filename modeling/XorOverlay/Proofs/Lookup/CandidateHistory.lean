import Mathlib
import XorOverlay.Proofs.Lookup.Reordering
import XorOverlay.Proofs.Routing.Halving

/-!
Candidates over their history. Contacts are pushed, names are removed and marked as asked, in any
order and any number of times. The candidates are then told by three lists alone: the contacts that
were pushed, of which the first with an endpoint counts for each name; the names removed, each for
good, whether its contact was pushed before or is pushed again later; and the names marked. Unless a
name was pushed under two endpoints, the order of all these is of no account.
-/

namespace XorOverlay.Candidates

set_option autoImplicit false

open Lookup (numbered)

/-- A change of the candidates: contacts were reported, a name failed to answer, or one was asked. -/
inductive Change where
  | push (contacts : List Contact)
  | remove (id : Ident)
  | markContacted (id : Ident)

def change (candidates : Candidates) : Change → Candidates
  | .push contacts => candidates.pushAll contacts
  | .remove id => candidates.remove id
  | .markContacted id => candidates.markContacted id

/-- The candidates after changes, made one after another. -/
def after (changes : List Change) (candidates : Candidates) : Candidates :=
  changes.foldl change candidates

namespace Change

/-- The contacts that a change pushes, in order, whether they can be asked or not. -/
def pushes : Change → List Contact
  | .push contacts => contacts
  | _ => []

def removes : Change → List Ident
  | .remove id => [id]
  | _ => []

def marks : Change → List Ident
  | .markContacted id => [id]
  | _ => []

end Change

/-- The contacts that some changes push. -/
def pushed (changes : List Change) : List Contact :=
  changes.flatMap Change.pushes

/-- The names that some changes remove. -/
def dropped (changes : List Change) : List Ident :=
  changes.flatMap Change.removes

/-- The names that some changes mark as asked. -/
def marked (changes : List Change) : List Ident :=
  changes.flatMap Change.marks

/-- The first contact with a name, of those that have an endpoint. -/
def firstReachable? (id : Ident) (contacts : List Contact) : Option Contact :=
  (contacts.filter fun contact => contact.endpoint.isSome).find? fun contact => contact.id == id

theorem mem_firsts_iff (contacts : List Contact) (contact : Contact) :
    contact ∈ firsts contacts ↔
      contacts.find? (fun other => other.id == contact.id) = some contact := by
  induction contacts with
  | nil => simp [firsts]
  | cons first rest ih =>
      rw [firsts, List.mem_cons, List.mem_filter, ih, List.find?_cons]
      by_cases same : first.id = contact.id
      · simp [same, eq_comm]
      · have other : contact ≠ first := fun equal => same (congrArg Contact.id equal.symm)
        simp [beq_false_of_ne same, Ne.symm same, other]

/-- Whoever survives was the first to be seen under its name that could be asked. -/
theorem first_of_survives {seen : List Contact} {failed : List Ident} {contact : Contact}
    (member : contact ∈ survivors seen failed) :
    firstReachable? contact.id seen = some contact :=
  (mem_firsts_iff _ contact).mp (List.mem_of_mem_filter member)

variable {aim : Ident} {count : Nat} {seen : List Contact} {failed : List Ident}
  {candidates : Candidates}

/-- The candidates, without their places around the target, are the survivors in ascending distance. -/
theorem stored_tracks (tracks : candidates.Tracks aim count seen failed) :
    candidates.ranked = (candidates.ranked.map Ranked.contact).map (Ranked.around aim) ∧
      Ascending aim (candidates.ranked.map Ranked.contact) ∧
      (candidates.ranked.map Ranked.contact).Perm (survivors seen failed) := by
  obtain ⟨_, _, ⟨all, perm, ascending, ranked⟩, _⟩ := tracks
  have stored : candidates.ranked.map Ranked.contact = all := by
    rw [ranked, Ranked.contact_around]
  rw [stored]
  exact ⟨ranked, ascending, perm⟩

theorem change_tracks (tracks : candidates.Tracks aim count seen failed) (made : Change) :
    (candidates.change made).Tracks aim count (seen ++ made.pushes) (failed ++ made.removes) := by
  cases made with
  | push contacts =>
      simpa [change, Change.pushes, Change.removes] using push_all_tracks tracks contacts
  | remove id => simpa [change, Change.pushes, Change.removes] using remove_tracks tracks id
  | markContacted id =>
      -- Contacts are marked by their names alone.
      have kept := mark_all_tracks tracks [⟨id, none⟩]
      simpa [change, Change.pushes, Change.removes] using kept

theorem after_tracks (tracks : candidates.Tracks aim count seen failed) (changes : List Change) :
    (candidates.after changes).Tracks aim count (seen ++ pushed changes)
      (failed ++ dropped changes) := by
  induction changes generalizing candidates seen failed with
  | nil => simpa [after, pushed, dropped] using tracks
  | cons made rest ih =>
      have later := ih (change_tracks tracks made)
      rwa [List.append_assoc, List.append_assoc] at later

theorem change_contacted (candidates : Candidates) (made : Change) (id : Ident) :
    id ∈ (candidates.change made).contacted ↔ id ∈ candidates.contacted ∨ id ∈ made.marks := by
  cases made with
  | push contacts =>
      rw [change, (push_all_frame contacts candidates).1]
      exact (or_iff_left List.not_mem_nil).symm
  | remove other => exact (or_iff_left List.not_mem_nil).symm
  | markContacted other =>
      rw [change, markContacted, List.mem_cons, Change.marks, List.mem_singleton, or_comm]

theorem after_contacted (candidates : Candidates) (changes : List Change) (id : Ident) :
    id ∈ (candidates.after changes).contacted ↔
      id ∈ candidates.contacted ∨ id ∈ marked changes := by
  induction changes generalizing candidates with
  | nil => exact (or_iff_left List.not_mem_nil).symm
  | cons made rest ih =>
      change id ∈ ((candidates.change made).after rest).contacted ↔ _
      rw [ih, change_contacted, or_assoc, marked, marked, List.flatMap_cons, List.mem_append]

section Recall

variable (target : Ident) (width : Nat) (changes : List Change)

/-- Candidates that began with nothing follow what was pushed and removed. -/
theorem recalled : ((empty target width).after changes).Tracks target width (pushed changes)
    (dropped changes) :=
  after_tracks (empty_tracks target width) changes

theorem uncontacted_recalled :
    ((empty target width).after changes).uncontacted =
      ((empty target width).after changes).closest.filter
        fun contact => contact.id ∉ marked changes := by
  unfold uncontacted
  apply List.filter_congr
  intro contact _
  have asked := after_contacted (empty target width) changes contact.id
  rw [Bool.eq_iff_iff]
  simpa [empty] using not_congr asked

end Recall

/-- The candidates of a lookup are told by its history. They are kept in strictly ascending distance
to the target, each name at most once. A name is among them exactly if it was pushed with an endpoint
and never removed, before or after that, and its contact is the first that was pushed with one. The
closest are the first of them, and the uncontacted those of the closest that were never marked. As the
order is never lost, the place of a further entry may be found by halving. Histories that push the same
contacts, no name under two endpoints, remove the same names and mark the same names leave the same
closest and the same uncontacted candidates. -/
theorem pushed_kept_unless_removed (target : Ident) (width : Nat) :
    (∀ changes : List Change,
      let reached := (empty target width).after changes
      let stored := reached.ranked.map Ranked.contact
      (reached.ranked = stored.map (Ranked.around target) ∧ Ascending target stored ∧
        (stored.map Contact.id).Nodup) ∧
      (∀ id, id ∈ stored.map Contact.id ↔
        (∃ contact ∈ pushed changes, contact.id = id ∧ contact.endpoint.isSome = true) ∧
          id ∉ dropped changes) ∧
      (∀ contact ∈ stored, firstReachable? contact.id (pushed changes) = some contact) ∧
      reached.closest = stored.take width ∧
      reached.uncontacted = reached.closest.filter (fun contact => contact.id ∉ marked changes) ∧
      (reached.allContacted = true ↔ ∀ contact ∈ reached.closest, contact.id ∈ marked changes) ∧
      ∀ entry : Ranked, reached.ranked.insertIdx (entry.place reached.ranked) entry =
        entry.insert reached.ranked) ∧
    ∀ first second : List Change, Unambiguous (fun contact => contact ∈ pushed first) →
      (∀ contact, contact ∈ pushed first ↔ contact ∈ pushed second) →
      (∀ id, id ∈ dropped first ↔ id ∈ dropped second) →
      (∀ id, id ∈ marked first ↔ id ∈ marked second) →
      ((empty target width).after first).closest = ((empty target width).after second).closest ∧
        ((empty target width).after first).uncontacted =
          ((empty target width).after second).uncontacted := by
  constructor
  · intro changes reached stored
    have tracks := recalled target width changes
    obtain ⟨placed, ascending, perm⟩ := stored_tracks tracks
    have unasked := uncontacted_recalled target width changes
    refine ⟨⟨placed, ascending, ascending.ids_nodup⟩, ?_, ?_, ?_, unasked, ?_, ?_⟩
    · intro id
      have named := survivors_named (pushed changes) (dropped changes) id
      rw [(perm.map Contact.id).mem_iff, List.mem_map, named, and_comm]
      simp only [List.mem_filter, and_assoc, and_comm]
    · exact fun contact member => first_of_survives (perm.mem_iff.mp member)
    · rw [closest, tracks.width, List.map_take]
    · rw [allContacted, List.isEmpty_iff, unasked, List.filter_eq_nil_iff]
      exact forall₂_congr fun contact _ => by simp
    · intro entry
      apply Ranked.insertIdx_place
      rw [placed]
      exact Ranked.ordered_around ascending
  · intro first second clear same gone asked
    have tracks := recalled target width first
    have copies := recalled target width second
    have ranked := ranked_of_same clear (fun _ member => member) tracks copies same gone
    have near : ((empty target width).after first).closest =
        ((empty target width).after second).closest := by
      rw [closest, closest, ranked, tracks.width, copies.width]
    refine ⟨near, ?_⟩
    rw [uncontacted_recalled, uncontacted_recalled, near]
    apply List.filter_congr
    intro contact _
    exact decide_eq_decide.mpr (not_congr (asked contact.id))

/-- The first contact is removed between two pushes of it, and the second is first pushed without an
endpoint. The other history makes the same changes in another order, and one of them twice. -/
theorem shuffled_changes_agree :
    let first := [.push [numbered 5, numbered 1], .remove (Ident.ofNat 1),
      .push [numbered 1, numbered 3, ⟨Ident.ofNat 2, none⟩, numbered 2],
      .markContacted (Ident.ofNat 2)]
    let second := [.markContacted (Ident.ofNat 2), .remove (Ident.ofNat 1),
      .push [numbered 2, numbered 3], .remove (Ident.ofNat 1),
      .push [⟨Ident.ofNat 2, none⟩, numbered 1, numbered 5, numbered 3]]
    Unambiguous (fun contact => contact ∈ pushed first) ∧
      (∀ contact, contact ∈ pushed first ↔ contact ∈ pushed second) ∧
      (∀ id, id ∈ dropped first ↔ id ∈ dropped second) ∧
      (∀ id, id ∈ marked first ↔ id ∈ marked second) ∧
      ((empty Ident.zero 2).after first).closest = [numbered 2, numbered 3] ∧
      ((empty Ident.zero 2).after second).closest = [numbered 2, numbered 3] ∧
      ((empty Ident.zero 2).after first).uncontacted = [numbered 3] ∧
      ((empty Ident.zero 2).after second).uncontacted = [numbered 3] := by
  intro first second
  have clear : Unambiguous fun contact => contact ∈ pushed first := by
    have apart : ∀ one ∈ pushed first, ∀ other ∈ pushed first, one.endpoint.isSome = true →
        other.endpoint.isSome = true → one.id = other.id → one = other := by
      decide +kernel
    exact fun one other member also => apart one member other also
  have contained : pushed first ⊆ pushed second ∧ pushed second ⊆ pushed first := by
    decide +kernel
  have same : ∀ contact, contact ∈ pushed first ↔ contact ∈ pushed second :=
    fun _ => ⟨fun member => contained.1 member, fun member => contained.2 member⟩
  have gone : ∀ id, id ∈ dropped first ↔ id ∈ dropped second := by
    simp [first, second, dropped, Change.removes]
  have asked : ∀ id, id ∈ marked first ↔ id ∈ marked second := fun _ => Iff.rfl
  obtain ⟨closest, uncontacted⟩ :=
    (pushed_kept_unless_removed Ident.zero 2).2 first second clear same gone asked
  have near : ((empty Ident.zero 2).after first).closest = [numbered 2, numbered 3] := by
    decide +kernel
  have unasked : ((empty Ident.zero 2).after first).uncontacted = [numbered 3] := by
    decide +kernel
  exact ⟨clear, same, gone, asked, near, closest ▸ near, unasked, uncontacted ▸ unasked⟩

end XorOverlay.Candidates
