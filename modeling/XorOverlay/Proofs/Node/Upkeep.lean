import Mathlib
import XorOverlay.Proofs.Node.Callers

/-!
What all operations of a node keep. An operation changes its scene by calls and by a few changes of
the node itself. What each of these keeps, as long as only known contacts are called and only fit
octets are sent, every operation keeps: it goes by the same caller twice, from the same scene.
-/

namespace XorOverlay

set_option autoImplicit false

namespace Scene

variable {ε : Type} {scene : Scene ε}

/-- A list of calls keeps what each of them keeps. -/
theorem each_keeps {α : Type} {call : Contact → Scene ε → Called α × Scene ε}
    (inv : Scene ε → Prop) (known : Contact → Prop) (fine : Contact → α → Prop)
    (keeps : ∀ dest scene, inv scene → known dest → inv (call dest scene).2 ∧
      ∀ value, (call dest scene).1 = .answered value → fine dest value)
    {dests : List Contact} (all : ∀ dest ∈ dests, known dest) (start : inv scene) :
    inv (each call dests scene).2 ∧ ∀ outcome ∈ (each call dests scene).1,
      known outcome.1 ∧ ∀ brought, outcome.2 = some brought → fine outcome.1 brought := by
  induction dests generalizing scene with
  | nil => exact ⟨start, fun _ none => (List.not_mem_nil none).elim⟩
  | cons dest dests ih =>
      rw [List.forall_mem_cons] at all
      have made := keeps dest scene start all.1
      rw [each]
      generalize call dest scene = result at made ⊢
      obtain ⟨called, next⟩ := result
      obtain ⟨last, others⟩ := ih all.2 made.1
      -- An answer and a failure are both reported; a lost call leaves no outcome behind.
      cases called with
      | answered value =>
          refine ⟨last, ?_⟩
          intro outcome listed
          rcases List.mem_cons.mp listed with rfl | later
          · refine ⟨all.1, ?_⟩
            intro brought same
            rw [← Option.some.inj same]
            exact made.2 value rfl
          · exact others outcome later
      | failed =>
          refine ⟨last, ?_⟩
          intro outcome listed
          rcases List.mem_cons.mp listed with rfl | later
          · refine ⟨all.1, ?_⟩
            intro brought none
            cases none
          · exact others outcome later
      | lost => exact ⟨last, others⟩

/-- A search whose calls keep something is of one mind with itself, and its calls keep that. -/
theorem agree_of_keeps {α : Type} {call : Contact → Scene ε → Called α × Scene ε}
    {inv : Scene ε → Prop} {known : Contact → Prop} {fine : α → Prop}
    (keeps : ∀ dest scene, inv scene → known dest → inv (call dest scene).2 ∧
      ∀ value, (call dest scene).1 = .answered value → fine value) :
    Lookup.Agree known fine (fun first second : Scene ε => first = second ∧ inv first)
      (fun scene probes => each call probes scene)
      (fun scene probes => each call probes scene) := by
  refine ⟨?_, ?_, ?_⟩
  · rintro state _ probes ⟨rfl, _⟩ _
    rfl
  · rintro state _ probes ⟨rfl, good⟩ all
    exact ⟨rfl, (each_keeps inv known (fun _ => fine) keeps all good).1⟩
  · rintro state _ probes ⟨rfl, good⟩ all
    exact (each_keeps inv known (fun _ => fine) keeps all good).2

/-- What a carrier keeps, and the numbering of a call and what is learnt from its answer, a call
keeps. -/
theorem call_retains {carrier : Carrier ε} {inv : Scene ε → Prop}
    (carries : ∀ scene dest request, inv scene → inv (carrier scene dest request).2)
    (numbered : ∀ scene tag, inv scene →
      inv (scene.mapNode fun node => { node with lastTag := tag }))
    (welcomed : ∀ scene peer node, inv scene → scene.node.welcome? scene.clock peer = some node →
      inv { scene with node := node })
    (forgotten : ∀ scene id, inv scene → inv (scene.mapNode fun node => node.forget id))
    (good : inv scene) (dest : Contact) (query : Query) : inv (scene.call carrier dest query).2 := by
  unfold call
  split
  · exact good
  · next endpoint _ =>
      let tag := scene.node.lastTag + 1
      let sending := scene.mapNode fun node => { node with lastTag := tag }
      have carried := carries sending endpoint ⟨tag, scene.node.contact, query⟩
        (numbered scene tag good)
      dsimp only
      generalize carrier sending endpoint ⟨tag, scene.node.contact, query⟩ = result at carried ⊢
      obtain ⟨failure | response, later⟩ := result
      · exact forgotten later dest.id carried
      · dsimp only
        split
        · next node taken => exact welcomed later _ node carried taken
        · exact carried

/-- Something about scenes that calls keep, and the changes an operation makes to the node besides.
Only known contacts are called, but a seed may be pinged as well; whom an answer names is known, and
so is whoever answers a ping. -/
structure Upkeep (carrier : Carrier ε) (inv : Scene ε → Prop) (known seed : Contact → Prop)
    (fit : Octets → Prop) : Prop where
  call : ∀ scene dest query, inv scene → (known dest ∨ seed dest ∧ query = .ping) →
    query.Fits fit → inv (scene.call carrier dest query).2 ∧
      ∀ reply, (scene.call carrier dest query).1 = .answered reply →
        (∀ contact ∈ named reply, known contact) ∧ (∀ value, reply = .found value → fit value) ∧
          ∀ id, reply = .pong id → known ⟨id, dest.endpoint⟩
  near : ∀ scene target count, inv scene →
    ∀ contact ∈ scene.node.neighbours target count, known contact
  read : ∀ scene key, inv scene → inv (scene.readOwn key).2
  keep : ∀ scene now key value, inv scene → fit key → fit value →
    inv (scene.mapNode fun node => node.keep now key value)
  report : ∀ scene now latency success, inv scene →
    inv (scene.mapNode fun node => node.report now latency success)
  cull : ∀ scene now, inv scene →
    inv (scene.mapNode fun node => { node with store := node.store.cull now })
  repair : ∀ scene peer key value, inv scene → known peer → fit key → fit value →
    inv (scene.mapNode fun node => { node with errands := node.errands ++ [⟨peer, key, value⟩] })
  errand : ∀ scene errand rest, inv scene → scene.node.errands = errand :: rest →
    known errand.dest ∧ fit errand.key ∧ fit errand.value ∧
      inv (scene.mapNode fun node => { node with errands := rest })
  listed : ∀ scene now, inv scene → ∀ item ∈ scene.node.store.listing now, fit item.value
  names : ∀ key : Ident, fit key.octets

namespace Upkeep

variable {carrier : Carrier ε} {inv : Scene ε → Prop} {known seed : Contact → Prop}
  {fit : Octets → Prop} (upkeep : Upkeep carrier inv known seed fit)
include upkeep

/-- Calls that keep something take every operation the course it takes, and keep that. -/
theorem conduct : Conduct (Scene.call carrier) (Scene.call carrier)
    (fun scene twin => scene = twin ∧ inv scene) none known seed fit where
  node := by
    rintro scene _ ⟨rfl, _⟩
    rfl
  clock := by
    rintro scene _ ⟨rfl, _⟩
    rfl
  named := fun _ _ _ id none => (Option.not_mem_none id none).elim
  call := by
    rintro scene _ dest query ⟨rfl, good⟩ met fits
    obtain ⟨after, heard⟩ := upkeep.call scene dest query good met fits
    refine ⟨rfl, ⟨rfl, after⟩, ?_⟩
    intro reply answered
    obtain ⟨told, found, pong⟩ := heard reply answered
    exact ⟨fun contact named _ => told contact named, found, fun id same _ => pong id same⟩
  near := by
    rintro scene _ target count ⟨rfl, good⟩
    exact upkeep.near scene target count good
  read := by
    rintro scene _ key ⟨rfl, good⟩
    exact ⟨rfl, upkeep.read scene key good⟩
  keep := by
    rintro scene _ now key value ⟨rfl, good⟩ fitKey fitValue
    exact ⟨rfl, upkeep.keep scene now key value good fitKey fitValue⟩
  report := by
    rintro scene _ now latency success ⟨rfl, good⟩
    exact ⟨rfl, upkeep.report scene now latency success good⟩
  cull := by
    rintro scene _ now ⟨rfl, good⟩
    exact ⟨rfl, upkeep.cull scene now good⟩
  repair := by
    rintro scene _ (_ | ⟨peer, key, value⟩) ⟨rfl, good⟩ ordered
    · simpa [mapNode] using good
    · obtain ⟨met, fitKey, fitValue⟩ := ordered _ rfl
      exact ⟨rfl, upkeep.repair scene peer key value good met fitKey fitValue⟩
  errand := by
    rintro scene _ errand rest ⟨rfl, good⟩ due
    obtain ⟨met, fitKey, fitValue, left⟩ := upkeep.errand scene errand rest good due
    exact ⟨met, fitKey, fitValue, rfl, left⟩
  listed := by
    rintro scene _ now ⟨rfl, good⟩
    exact upkeep.listed scene now good
  names := upkeep.names

theorem get (good : inv scene) (key : String) : inv (scene.get carrier key).2 := by
  rw [get_by_call]
  exact (upkeep.conduct.get ⟨rfl, good⟩ key).2

theorem storeAll {dests : List Contact} (good : inv scene) (met : ∀ dest ∈ dests, known dest)
    {key value : Octets} (fitKey : fit key) (fitValue : fit value) :
    inv (each (fun dest scene => scene.storeAt carrier dest key value) dests scene).2 := by
  rw [store_all_by_call]
  exact (upkeep.conduct.storeAll ⟨rfl, good⟩ met fitKey fitValue).2.2

theorem set (good : inv scene) (key : String) {value : Octets} (fitValue : fit value) :
    inv (scene.set carrier key value).2 := by
  rw [set_by_call]
  exact (upkeep.conduct.set ⟨rfl, good⟩ key fitValue).2

theorem bootstrap (good : inv scene) {seeds : List Endpoint}
    (sown : ∀ endpoint ∈ seeds, seed ⟨Ident.zero, some endpoint⟩) :
    inv (scene.bootstrap carrier seeds).2 := by
  rw [bootstrap_by_call]
  exact (upkeep.conduct.bootstrap ⟨rfl, good⟩ sown fun _ _ => Option.some_ne_none _).2.1.2

theorem refresh (good : inv scene) (draw : Nat → Nat) : inv (scene.refresh carrier draw) := by
  rw [refresh_by_call]
  exact (upkeep.conduct.refresh ⟨rfl, good⟩ draw).2

theorem runErrand (good : inv scene) : inv (scene.runErrand carrier) := by
  rw [run_errand_by_call]
  exact (upkeep.conduct.runErrand ⟨rfl, good⟩).2

end Upkeep

/-- Nothing is asked of scenes: every operation takes its course, whether its calls are noted or not. -/
theorem free_upkeep (carrier : Carrier ε) :
    Upkeep carrier (fun _ => True) (fun _ => True) (fun _ => True) fun _ => True where
  call := fun _ _ _ _ _ _ => ⟨trivial, fun _ _ =>
    ⟨fun _ _ => trivial, fun _ _ => trivial, fun _ _ => trivial⟩⟩
  near := fun _ _ _ _ _ _ => trivial
  read := fun _ _ _ => trivial
  keep := fun _ _ _ _ _ _ _ => trivial
  report := fun _ _ _ _ _ => trivial
  cull := fun _ _ _ => trivial
  repair := fun _ _ _ _ _ _ _ _ => trivial
  errand := fun _ _ _ _ _ => ⟨trivial, trivial, trivial, trivial⟩
  listed := fun _ _ _ _ _ => trivial
  names := fun _ => trivial

end Scene
end XorOverlay
