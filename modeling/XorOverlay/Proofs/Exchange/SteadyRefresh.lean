import Mathlib
import XorOverlay.Proofs.Exchange.Routes
import XorOverlay.Proofs.Node.Publishing
import XorOverlay.Proofs.Store.Rewriting

/-!
A refresh while nothing else happens. Whatever a node has been through, no key has two places in its
store. So a sweep at one instant, which drops what has expired and writes again what it lists, leaves
every key reading as it did, and what a refresh does to the table, to its peers and to the order of
entries in the store shows nowhere else.
-/

namespace XorOverlay

set_option autoImplicit false

namespace Node

variable {node : Node}

/-- What writing and reading keep of a store, requests keep. -/
theorem handle_keeps_store {fine : Store → Prop}
    (puts : ∀ store now key value, fine store → fine (store.put now key value))
    (gets : ∀ store now key, fine store → fine (store.get now key).2) (good : fine node.store)
    (now : Nanoseconds) (source : Endpoint) (request : Request) :
    fine (node.handle now source request).2.store := by
  unfold handle
  cases taken : node.welcome? now ⟨request.sender.id, some source⟩ with
  | none => exact good
  | some welcomed =>
      have same : fine welcomed.store := by
        rw [(welcome_spares taken).1]
        exact good
      show fine (welcomed.reply now request.sender.id request.query).2.store
      cases request.query with
      | ping => exact same
      | store key value => exact puts _ now key value same
      | findNode target => exact same
      | findValue key =>
          have read := gets _ now key same
          unfold reply
          dsimp only
          split
          · exact read
          · split
            · exact read
            · exact read

end Node

namespace Scene

variable {ε : Type} {carrier : Carrier ε} {first scene : Scene ε}

/-- A node whose store is sound, in fit surroundings, stays so through every operation. -/
theorem sound_upkeep {fit : ε → Prop}
    (carries : ∀ scene dest request, Store.Sound scene.node.store ∧ fit scene.outside →
      (carrier scene dest request).2.node.store.Sound ∧
        fit (carrier scene dest request).2.outside) :
    Upkeep carrier (fun scene => scene.node.store.Sound ∧ fit scene.outside) (fun _ => True)
      (fun _ => True) (fun _ => True) where
  call := by
    intro scene dest query good _ _
    refine ⟨call_retains carries (fun _ _ sound => sound) ?_ (fun _ _ sound => sound) good dest
      query, fun _ _ => ⟨fun _ _ => trivial, fun _ _ => trivial, fun _ _ => trivial⟩⟩
    intro scene peer welcomed sound taken
    refine ⟨?_, sound.2⟩
    rw [(Node.welcome_spares taken).1]
    exact sound.1
  near := fun _ _ _ _ _ _ => trivial
  read := fun scene key sound => ⟨Store.get_sound sound.1 scene.clock key.octets, sound.2⟩
  keep := fun _ now key value sound _ _ => ⟨Store.put_sound sound.1 now key value, sound.2⟩
  report := fun _ _ _ _ sound => sound
  cull := fun _ now sound => ⟨Store.cull_sound sound.1 now, sound.2⟩
  repair := fun _ _ _ _ sound _ _ _ => sound
  errand := fun _ _ _ sound _ => ⟨trivial, trivial, trivial, sound⟩
  listed := fun _ _ _ _ _ => trivial
  names := fun _ => trivial

/-- A sound store stays so through all that a node undergoes. -/
theorem undergoes_sound (undergoes : Undergoes first scene) (sound : first.node.store.Sound) :
    scene.node.store.Sound := by
  refine @undergoes_keeps ε first scene (fun node => node.store.Sound) ?_ ?_ ?_ undergoes sound
  · exact fun node now source request good => @Node.handle_keeps_store node Store.Sound
      (fun _ now key value sound => Store.put_sound sound now key value)
      (fun _ now key sound => Store.get_sound sound now key) good now source request
  · exact fun _ good => good
  · intro δ fit carrier carries operation scene good
    exact (sound_upkeep carries).operation good operation

/-- A carrier while whose requests are under way nothing happens that the node takes note of. -/
def Tranquil (carrier : Carrier ε) : Prop :=
  ∀ scene dest request, (carrier scene dest request).2.clock = scene.clock ∧
    (carrier scene dest request).2.node.store = scene.node.store ∧
    (carrier scene dest request).2.node.quorum = scene.node.quorum

/-- Keys read as in another scene at the same time, and the quorum is the same. -/
structure Alike (first scene : Scene ε) : Prop where
  clock : scene.clock = first.clock
  sound : scene.node.store.Sound
  shows : ∀ key, (scene.node.store.get first.clock key).1 = (first.node.store.get first.clock key).1
  quorum : scene.node.quorum = first.node.quorum

theorem Alike.call (tranquil : Tranquil carrier) (alike : Alike first scene) (dest : Contact)
    (query : Query) : Alike first (scene.call carrier dest query).2 := by
  refine call_retains ?_ ?_ ?_ ?_ alike dest query
  · intro scene dest request alike
    obtain ⟨clock, store, quorum⟩ := tranquil scene dest request
    exact ⟨clock.trans alike.clock, store ▸ alike.sound, store ▸ alike.shows,
      quorum.trans alike.quorum⟩
  · exact fun _ _ alike => ⟨alike.clock, alike.sound, alike.shows, alike.quorum⟩
  · intro scene peer welcomed alike taken
    rcases Node.welcome_cases taken with rfl | ⟨pushed, _, rfl⟩
    · exact alike
    · exact ⟨alike.clock, alike.sound, alike.shows, alike.quorum⟩
  · exact fun _ _ alike => ⟨alike.clock, alike.sound, alike.shows, alike.quorum⟩

/-- Writing again what could be read at the time changes nothing that can be read. -/
theorem Alike.keep (alike : Alike first scene) {key value : Octets}
    (shows : (first.node.store.get first.clock key).1 = some value) :
    Alike first (scene.mapNode fun node => node.keep scene.clock key value) := by
  have again : (scene.node.store.get scene.clock key).1 = some value := by
    rw [alike.clock, alike.shows]
    exact shows
  refine ⟨alike.clock, Store.put_sound alike.sound _ _ _, ?_, alike.quorum⟩
  intro other
  rw [← alike.shows other, ← alike.clock]
  exact Store.put_again alike.sound again other

theorem Alike.refresh (tranquil : Tranquil carrier) (alike : Alike first scene)
    (draw : Nat → Nat) :
    Alike first (scene.refresh carrier draw) := by
  rw [refresh_by_call]
  refine refresh_keeps (fun _ dest query alike => alike.call tranquil dest query) draw ?_ ?_ alike
  · intro alike
    refine ⟨alike.clock, Store.cull_sound alike.sound _, ?_, alike.quorum⟩
    intro key
    rw [← alike.shows key, ← alike.clock]
    exact Store.cull_shows le_rfl key scene.node.store
  · intro begun before item listed start later entry _ after read
    have shows := Store.shows_listed before.sound listed
    rw [before.clock, before.shows] at shows
    rw [Listed.eq_of_read read]
    exact after.keep shows

/-- Whatever a node has been through, with a store of either kind, and whoever it knows: as long as
its peers answer at once, and nothing else reaches it meanwhile, a refresh leaves every key of any
length reading as before, and the quorum as it was. -/
theorem refresh_leaves_readings (undergoes : Undergoes first scene)
    (sound : first.node.store.Sound) (tranquil : Tranquil carrier) (draw : Nat → Nat) :
    let after := scene.refresh carrier draw
    after.clock = scene.clock ∧
      (∀ key, (after.node.store.get after.clock key).1 =
        (scene.node.store.get scene.clock key).1) ∧
      after.node.quorum = scene.node.quorum := by
  intro after
  have alike : Alike scene after :=
    Alike.refresh tranquil ⟨rfl, undergoes_sound undergoes sound, fun _ => rfl, rfl⟩ draw
  refine ⟨alike.clock, ?_, alike.quorum⟩
  intro key
  rw [alike.clock]
  exact alike.shows key

/-- Everyone keeps what they are asked to keep, and knows nobody else. -/
def obliging : Carrier Unit :=
  fun scene _ request =>
    (.ok ⟨request.tag, match request.query with
      | .findNode _ => .nodes []
      | _ => .stored true⟩, scene)

/-- A full cache holds a key that is no identifier, and one that is published again. The sweep changes
the order of its entries, and nothing that can be read. -/
theorem full_cache_reads_alike :
    let first : Scene Unit := ⟨Node.start Settings.default (Ident.ofNat 5) (.v4 0x7F000001 5)
      (.adaptive (.empty 2)) 0, 0, ()⟩
    let write (key value : Octets) (scene : Scene Unit) : Scene Unit :=
      (scene.receive (.v4 0x7F000001 6) ⟨1, ⟨Ident.ofNat 6, none⟩, .store key value⟩).2
    let scene := write (Ident.ofNat 4).octets [2] (write [7] [1] first)
    let after := scene.refresh obliging fun number => number
    Undergoes first scene ∧ first.node.store.Sound ∧ Tranquil obliging ∧
      (after.node.store.get after.clock [7]).1 = some [1] ∧
      (after.node.store.get after.clock (Ident.ofNat 4).octets).1 = some [2] ∧
      after.node.store ≠ scene.node.store ∧
      after.node.quorum = scene.node.quorum := by
  intro first write scene after
  have undergoes : Undergoes first scene := .asked _ _ (.asked _ _ (.still first))
  have sound : first.node.store.Sound := Store.empty_adaptive_sound 2
  have tranquil : Tranquil obliging := fun _ _ _ => ⟨rfl, rfl, rfl⟩
  obtain ⟨_, reads, quorum⟩ := refresh_leaves_readings undergoes sound tranquil fun number => number
  have held : (scene.node.store.get scene.clock [7]).1 = some [1] ∧
      (scene.node.store.get scene.clock (Ident.ofNat 4).octets).1 = some [2] := by
    decide +kernel
  have moved : after.node.store ≠ scene.node.store := by
    decide +kernel
  exact ⟨undergoes, sound, tranquil, (reads [7]).trans held.1, (reads _).trans held.2, moved, quorum⟩

end Scene
end XorOverlay
