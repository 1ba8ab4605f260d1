import Mathlib
import XorOverlay.Proofs.BigEndian
import XorOverlay.Proofs.Node.Callers

/-!
What publishing and refreshing keep. What every call keeps, every search keeps and every list of
calls. Publishing writes to the node's own store besides, under the key and with the value that are
published; sweeping writes nothing but what is listed. So much, and no more, has to be known of
something that is not kept by writing to the store at large, nor by a report to the quorum.
-/

namespace XorOverlay

set_option autoImplicit false

namespace Scene

variable {ε : Type} {caller : Caller ε} {inv : Scene ε → Prop} {scene : Scene ε}

section Calls

variable (calls : ∀ scene dest query, inv scene → inv (caller dest query scene).2)
include calls

/-- A caller is of one mind with itself. -/
theorem self_parallel : Parallel caller caller (fun scene twin => scene = twin ∧ inv scene) none
    (fun _ => True) (fun _ => True) fun _ => True where
  node := by
    rintro scene _ ⟨rfl, _⟩
    rfl
  clock := by
    rintro scene _ ⟨rfl, _⟩
    rfl
  named := fun _ _ _ id none => (Option.not_mem_none id none).elim
  call := by
    rintro scene _ dest query ⟨rfl, good⟩ _ _
    exact ⟨rfl, ⟨rfl, calls scene dest query good⟩, fun _ _ =>
      ⟨fun _ _ _ => trivial, fun _ _ => trivial, fun _ _ _ => trivial⟩⟩

theorem call_all_keeps (good : inv scene) (query : Query) (dests : List Contact) :
    inv (callAll caller query scene dests).2 := by
  have fits : query.Fits fun _ => True := by
    cases query with
    | store key value => exact ⟨trivial, trivial⟩
    | ping => trivial
    | findNode target => trivial
    | findValue key => trivial
  exact ((self_parallel calls).callAll query fits (fun _ _ => Or.inl trivial) ⟨rfl, good⟩).2.1.2

theorem lookup_keeps (good : inv scene) (target : Ident) (seeds : List Contact) :
    inv (scene.lookupBy caller target seeds).2 :=
  ((self_parallel calls).lookup ⟨rfl, good⟩ target fun _ _ => trivial).2.1.2

theorem bootstrap_keeps (good : inv scene) (seeds : List Endpoint) :
    inv (scene.bootstrapBy caller seeds).2 :=
  ((self_parallel calls).bootstrap ⟨rfl, good⟩ (fun _ _ => trivial)
    fun _ _ => Option.some_ne_none _).2.1.2

/-- A search for a value keeps what its calls keep, and the repair it may order. -/
theorem lookup_value_keeps (orders : ∀ scene errands, inv scene →
      inv (scene.mapNode fun node => { node with errands := node.errands ++ errands }))
    (good : inv scene) (key : Ident) (seeds : List Contact) :
    inv (scene.lookupValueBy caller key seeds).2 := by
  have fine : ∀ dest reply finding, Reply.finding? reply = some finding →
      Credible none (fun _ => True) (fun _ => True) dest reply →
        Lookup.ValueSearch.Fine scene.node.id (fun _ => True) (fun _ => True) finding := by
    intro dest reply finding _ _
    cases finding with
    | found value => trivial
    | closest contacts => exact fun _ _ _ => trivial
  obtain ⟨_, ⟨_, after⟩, _⟩ := Lookup.ValueSearch.find_value_agree
    ((self_parallel calls).agree Reply.finding? (.findValue key.octets) trivial fine) key
    scene.node.width scene.node.parallelism (fun contact (_ : contact ∈ seeds) => trivial) scene
    scene ⟨rfl, good⟩
  exact orders _ _ after

theorem refresh_toward_keeps (good : inv scene) (target : Ident) :
    inv (scene.refreshTowardBy caller target) := by
  unfold refreshTowardBy
  dsimp only
  split_ifs
  · exact good
  · exact lookup_keeps calls good target _

theorem targets_keep (good : inv scene) (targets : List Ident) :
    inv (targets.foldl (refreshTowardBy caller) scene) := by
  induction targets generalizing scene with
  | nil => exact good
  | cons target targets ih => exact ih (refresh_toward_keeps calls good target)

theorem publish_keeps (key : Ident) (value : Octets)
    (writes : ∀ scene, inv scene →
      inv (scene.mapNode fun node => node.keep scene.clock key.octets value))
    (good : inv scene) : inv (scene.publishBy caller key value).2 := by
  unfold publishBy
  dsimp only
  have searched := lookup_keeps calls good key (scene.node.neighbours key scene.node.width)
  split_ifs
  · exact good
  · exact call_all_keeps calls (writes _ searched) _ _
  · exact call_all_keeps calls searched _ _

/-- A sweep keeps what its calls keep, and the writes of what it reads from its list. -/
theorem republish_keeps {items : List Listed}
    (writes : ∀ item ∈ items, ∀ start later entry, inv start → inv later →
      item.read start.clock = .ok entry →
      inv (later.mapNode fun node => node.keep later.clock entry.1 entry.2))
    (good : inv scene) : inv (scene.republishBy caller items) := by
  induction items generalizing scene with
  | nil => exact good
  | cons item items ih =>
      rw [List.forall_mem_cons] at writes
      rw [republishBy]
      cases read : item.read scene.clock with
      | error failure => exact good
      | ok entry =>
          dsimp only
          split
          · next key named =>
              refine ih writes.2 (publish_keeps calls key entry.2 ?_ good)
              intro later kept
              rw [← Ident.octets_of_ok named]
              exact writes.1 scene later entry good kept read
          · exact ih writes.2 good

theorem refresh_keeps (draw : Nat → Nat)
    (culls : inv scene → inv (scene.mapNode fun node =>
      { node with store := node.store.cull scene.clock }))
    (writes : ∀ begun, inv begun → ∀ item ∈ begun.node.store.listing begun.clock,
      ∀ start later entry, inv start → inv later → item.read start.clock = .ok entry →
      inv (later.mapNode fun node => node.keep later.clock entry.1 entry.2))
    (good : inv scene) : inv (scene.refreshBy caller draw) := by
  unfold refreshBy
  dsimp only
  split_ifs
  · exact good
  · have begun := targets_keep calls (culls good)
      (refreshTargets draw (scene.mapNode fun node =>
        { node with store := node.store.cull scene.clock }))
    exact republish_keeps calls (writes _ begun) begun

theorem run_errand_keeps
    (leaves : ∀ rest, inv scene → inv (scene.mapNode fun node => { node with errands := rest }))
    (good : inv scene) : inv (scene.runErrandBy caller) := by
  unfold runErrandBy
  split
  · exact good
  · exact calls _ _ _ (leaves _ good)

end Calls

end Scene
end XorOverlay
