import Mathlib
import XorOverlay.Proofs.Node.Publishing
import XorOverlay.Proofs.Node.SearchCalls
import XorOverlay.Proofs.Store.Rewriting

/-!
The sweep of a refresh. It goes through a listing that was made as it began, and time passes as it goes.
It ends at the first item that has expired by its turn, and whatever comes after that item is left out.
What is noted of a sweep are, item by item, the calls by which a pair is published: a search for its key,
and the value to all that the search finds.
-/

namespace XorOverlay

set_option autoImplicit false

/-- Queries by which a key is published. -/
def Query.Publishes (key : Ident) : Query → Prop
  | .findNode target => target = key
  | .store other _ => other = key.octets
  | _ => False

instance (key : Ident) (query : Query) : Decidable (query.Publishes key) :=
  match query with
  | .ping => isFalse id
  | .store other _ => inferInstanceAs (Decidable (other = key.octets))
  | .findNode target => inferInstanceAs (Decidable (target = key))
  | .findValue _ => isFalse id

theorem Query.publishes_unique {query : Query} {key other : Ident} (first : query.Publishes key)
    (second : query.Publishes other) : key = other := by
  cases query with
  | ping => exact first.elim
  | store name value => exact Ident.octets_injective (Eq.trans (Eq.symm first) second)
  | findNode target => exact Eq.trans (Eq.symm first) second
  | findValue name => exact first.elim

namespace Scene

variable {ε : Type}

/-- What a refresh does before it sweeps: what has expired is dropped, and the targets are looked up. -/
def openedBy (caller : Caller ε) (draw : Nat → Nat) (scene : Scene ε) : Scene ε :=
  let culled := scene.mapNode fun node => { node with store := node.store.cull scene.clock }
  (culled.refreshTargets draw).foldl (refreshTowardBy caller) culled

theorem refresh_sweeps {scene : Scene ε} (active : scene.node.active = true) (caller : Caller ε)
    (draw : Nat → Nat) :
    scene.refreshBy caller draw =
      let begun := scene.openedBy caller draw
      begun.republishBy caller (begun.node.store.listing begun.clock) := by
  rw [refreshBy, active]
  rfl

section Course

variable {caller : Caller ε} {scene : Scene ε} {item : Listed} {items rest : List Listed}

/-- An item that can be read at its turn is published if its key is an identifier, and the sweep goes on
from there. -/
theorem republish_cons (lasts : item.Lasts scene.clock) (rest : List Listed) :
    scene.republishBy caller (item :: rest) =
      (scene.republishBy caller [item]).republishBy caller rest := by
  rw [republishBy, republishBy, lasts]
  dsimp only
  cases Ident.ofOctets item.key with
  | ok key => rfl
  | error failure => rfl

theorem republish_expired (expired : ¬item.Lasts scene.clock) (rest : List Listed) :
    scene.republishBy caller (item :: rest) = scene := by
  obtain ⟨failure, read⟩ := Listed.error_of_not_lasts expired
  rw [republishBy, read]

theorem republish_one {key : Ident} (lasts : item.Lasts scene.clock) (named : item.key = key.octets) :
    scene.republishBy caller [item] = (scene.publishBy caller key item.value).2 := by
  rw [republishBy, lasts, named]
  simp only [Ident.of_octets]
  rfl

/-- None of the items has expired when its turn in a sweep comes. -/
def Unbroken (caller : Caller ε) (items : List Listed) (scene : Scene ε) : Prop :=
  ∀ before item rest, items = before ++ item :: rest →
    item.Lasts (scene.republishBy caller before).clock

theorem unbroken_nil : Unbroken caller [] scene := by
  intro before item rest split
  exact (List.append_ne_nil_of_right_ne_nil _ (List.cons_ne_nil _ _) split.symm).elim

theorem unbroken_cons : Unbroken caller (item :: items) scene ↔
    item.Lasts scene.clock ∧ Unbroken caller items (scene.republishBy caller [item]) := by
  constructor
  · intro unbroken
    have lasts : item.Lasts scene.clock := unbroken [] item items rfl
    refine ⟨lasts, ?_⟩
    rintro before other rest rfl
    rw [← republish_cons lasts before]
    exact unbroken (item :: before) other rest rfl
  · rintro ⟨lasts, unbroken⟩ before other rest split
    cases before with
    | nil =>
        obtain ⟨rfl, rfl⟩ := List.cons.inj split
        exact lasts
    | cons first before =>
        obtain ⟨rfl, others⟩ := List.cons.inj split
        rw [republish_cons lasts before]
        exact unbroken before other rest others

/-- A sweep that gets to the end of some items goes on from there. -/
theorem republish_append (unbroken : Unbroken caller items scene) (rest : List Listed) :
    scene.republishBy caller (items ++ rest) =
      (scene.republishBy caller items).republishBy caller rest := by
  induction items generalizing scene with
  | nil => rfl
  | cons item items ih =>
      obtain ⟨lasts, unbroken⟩ := unbroken_cons.mp unbroken
      rw [List.cons_append, republish_cons lasts (items ++ rest), republish_cons lasts items,
        ih unbroken]

/-- A sweep that does not get to the end of some items does not see what comes after them. -/
theorem republish_stops (broken : ¬Unbroken caller items scene) (rest : List Listed) :
    scene.republishBy caller (items ++ rest) = scene.republishBy caller items := by
  induction items generalizing scene with
  | nil => exact (broken unbroken_nil).elim
  | cons item items ih =>
      rw [List.cons_append]
      by_cases lasts : item.Lasts scene.clock
      · rw [republish_cons lasts (items ++ rest), republish_cons lasts items]
        exact ih fun unbroken => broken (unbroken_cons.mpr ⟨lasts, unbroken⟩)
      · rw [republish_expired lasts, republish_expired lasts]

theorem unbroken_append : Unbroken caller (items ++ rest) scene ↔
    Unbroken caller items scene ∧ Unbroken caller rest (scene.republishBy caller items) := by
  induction items generalizing scene with
  | nil => exact (and_iff_right unbroken_nil).symm
  | cons item items ih =>
      rw [List.cons_append, unbroken_cons, unbroken_cons, and_assoc, ih]
      refine and_congr_right fun lasts => ?_
      rw [republish_cons lasts items]

/-- A sweep that ends before an item leaves things as they were at that item's turn. -/
theorem republish_broken (broken : ¬Unbroken caller (items ++ [item]) scene) (rest : List Listed) :
    scene.republishBy caller (items ++ item :: rest) = scene.republishBy caller items := by
  by_cases unbroken : Unbroken caller items scene
  · rw [republish_append unbroken]
    refine republish_expired (fun lasts => broken ?_) rest
    exact unbroken_append.mpr ⟨unbroken, unbroken_cons.mpr ⟨lasts, unbroken_nil⟩⟩
  · exact republish_stops unbroken _

end Course

section Aside

variable {caller : Caller ε} {inv : Scene ε → Prop}
  (calls : ∀ scene dest query, inv scene → inv (caller dest query scene).2)
  (aside : ∀ (scene : Scene ε) (store : Store), inv scene →
    inv (scene.mapNode fun node => { node with store := store }))
include calls aside

/-- What has nothing to do with the store a refresh keeps as its calls do, before its sweep. -/
theorem opened_keeps (draw : Nat → Nat) {scene : Scene ε} (good : inv scene) :
    inv (scene.openedBy caller draw) :=
  targets_keep calls (aside scene (scene.node.store.cull scene.clock) good) _

/-- And so does the sweep. -/
theorem swept_keeps (items : List Listed) {scene : Scene ε} (good : inv scene) :
    inv (scene.republishBy caller items) :=
  republish_keeps calls (fun _ _ _ later entry _ kept _ =>
    aside later (later.node.store.put later.clock entry.1 entry.2) kept) good

end Aside

section Passing

variable {caller : Caller ε}
  (ahead : ∀ scene dest query, scene.clock ≤ (caller dest query scene).2.clock)
include ahead

theorem opened_passes (draw : Nat → Nat) (scene : Scene ε) :
    scene.clock ≤ (scene.openedBy caller draw).clock := by
  let since (later : Scene ε) : Prop := scene.clock ≤ later.clock
  exact @opened_keeps ε caller since
    (fun later dest query passed => passed.trans (ahead later dest query))
    (fun _ _ passed => passed) draw scene le_rfl

theorem swept_passes (items : List Listed) (scene : Scene ε) :
    scene.clock ≤ (scene.republishBy caller items).clock := by
  let since (later : Scene ε) : Prop := scene.clock ≤ later.clock
  exact @swept_keeps ε caller since
    (fun later dest query passed => passed.trans (ahead later dest query))
    (fun _ _ passed => passed) items scene le_rfl

/-- As long as no call takes time back, items that can still be read when a sweep is over did not end
it. -/
theorem unbroken_of_lasting {items rest : List Listed} {scene : Scene ε}
    (lasting : ∀ item ∈ items,
      item.Lasts (scene.republishBy caller (items ++ rest)).clock) :
    Unbroken caller items scene := by
  induction items generalizing scene with
  | nil => exact unbroken_nil
  | cons item items ih =>
      rw [List.forall_mem_cons, List.cons_append] at lasting
      have passes : scene.clock ≤ (scene.republishBy caller (item :: (items ++ rest))).clock :=
        swept_passes ahead _ scene
      have lasts : item.Lasts scene.clock := Listed.lasts_earlier passes lasting.1
      rw [republish_cons lasts] at lasting
      exact unbroken_cons.mpr ⟨lasts, ih lasting.2⟩

/-- An item that can still be read when a sweep is over does not end it at its turn. -/
theorem unbroken_until {before after : List Listed} {item : Listed} {scene : Scene ε}
    (unbroken : Unbroken caller before scene)
    (lasts : item.Lasts (scene.republishBy caller (before ++ item :: after)).clock) :
    Unbroken caller (before ++ [item]) scene := by
  rw [republish_append unbroken, ← List.singleton_append] at lasts
  exact unbroken_append.mpr
    ⟨unbroken, unbroken_of_lasting ahead (List.forall_mem_singleton.mpr lasts)⟩

end Passing

/-- Calls have been noted since a scene, all of them such. -/
def Adds (such : Call → Prop) (scene later : Scene (ε × List Call)) : Prop :=
  ∃ made, later.outside.2 = scene.outside.2 ++ made ∧ ∀ call ∈ made, such call

section Noted

variable {such : Call → Prop} {scene later last : Scene (ε × List Call)}

theorem Adds.refl : Adds such scene scene :=
  ⟨[], (List.append_nil _).symm, nofun⟩

theorem Adds.trans (first : Adds such scene later) (second : Adds such later last) :
    Adds such scene last := by
  obtain ⟨made, noted, fit⟩ := first
  obtain ⟨more, further, fits⟩ := second
  exact ⟨made ++ more, by rw [further, noted, List.append_assoc],
    List.forall_mem_append.mpr ⟨fit, fits⟩⟩

theorem Adds.mono {wider : Call → Prop} (adds : Adds such scene later)
    (wide : ∀ call, such call → wider call) : Adds wider scene later := by
  obtain ⟨made, noted, fit⟩ := adds
  exact ⟨made, noted, fun call among => wide call (fit call among)⟩

/-- A search by its plan, and to its end: sooner than after 50 rounds it ends only if nobody may be
probed, or if nobody is left to probe. -/
def Searched (plan : Lookup.Plan) (made : List Call) : Prop :=
  ∃ log, Planned plan Reply.contacts? (.findNode plan.target) log made ∧
    (log.length = 50 ∨ plan.parallelism = 0 ∨ plan.Exhausted Reply.contacts? log)

theorem lookup_searched (caller : Caller ε) (scene : Scene (ε × List Call)) (target : Ident)
    (seeds : List Contact) :
    ∃ made, (scene.lookupBy (noting caller) target seeds).2.outside.2 = scene.outside.2 ++ made ∧
      Searched (scene.plan target seeds) made := by
  obtain ⟨_, made, noted, recounts⟩ := lookup_noted caller scene target seeds
  obtain ⟨followed, ends⟩ := (scene.plan target seeds).nodes_followed Reply.contacts?
    (callAll (noting caller) (.findNode target)) scene
  exact ⟨made, noted, ⟨_, recounts.planned followed, ends⟩⟩

theorem Searched.queries {plan : Lookup.Plan} {made : List Call} (searched : Searched plan made) :
    ∀ call ∈ made, call.query = .findNode plan.target := by
  obtain ⟨log, planned, _⟩ := searched
  exact planned.recounts.queries

/-- A publication that has somewhere to begin sends the value to everyone its search finds. -/
theorem publish_sends (caller : Caller ε) {scene : Scene ε} {key : Ident} (value : Octets)
    (route : scene.node.neighbours key scene.node.width ≠ []) :
    let looked := scene.lookupBy caller key (scene.node.neighbours key scene.node.width)
    ∃ kept : Scene ε, kept.outside = looked.2.outside ∧ (scene.publishBy caller key value).2 =
      (callAll caller (.store key.octets value) kept looked.1).2 := by
  intro looked
  unfold publishBy
  dsimp only
  rw [if_neg (mt List.isEmpty_iff.mp route)]
  refine ⟨_, ?_, rfl⟩
  split_ifs
  · rfl
  · rfl

/-- What is noted of it are a search, and the value on its way. -/
theorem publish_noted (caller : Caller ε) (scene : Scene (ε × List Call)) {key : Ident}
    (value : Octets) (route : scene.node.neighbours key scene.node.width ≠ []) :
    let nearest := scene.node.neighbours key scene.node.width
    ∃ searches stores, (scene.publishBy (noting caller) key value).2.outside.2 =
        scene.outside.2 ++ (searches ++ stores) ∧
      Searched (scene.plan key nearest) searches ∧
      (∀ call ∈ stores, call.query = .store key.octets value) ∧
      stores.map Call.dest = (scene.lookupBy (noting caller) key nearest).1 := by
  intro nearest
  obtain ⟨searches, noted, searched⟩ := lookup_searched caller scene key nearest
  obtain ⟨kept, same, published⟩ := publish_sends (noting caller) value route
  obtain ⟨stores, after, recounts⟩ := call_all_noted caller (.store key.octets value) kept
    (scene.lookupBy (noting caller) key nearest).1
  refine ⟨searches, stores, ?_, searched, recounts.queries, ?_⟩
  · rw [published, after, same, noted, List.append_assoc]
  · rw [recounts.dests, List.flatMap_singleton]

theorem publish_nowhere (caller : Caller ε) {scene : Scene ε} {key : Ident} (value : Octets)
    (nowhere : scene.node.neighbours key scene.node.width = []) :
    (scene.publishBy caller key value).2 = scene := by
  unfold publishBy
  simp only [nowhere]
  rfl

theorem publish_adds (caller : Caller ε) (scene : Scene (ε × List Call)) (key : Ident)
    (value : Octets) :
    Adds (fun call => call.query.Publishes key) scene
      (scene.publishBy (noting caller) key value).2 := by
  by_cases nowhere : scene.node.neighbours key scene.node.width = []
  · rw [publish_nowhere _ value nowhere]
    exact Adds.refl
  · obtain ⟨searches, stores, noted, searched, stored, _⟩ :=
      publish_noted caller scene value nowhere
    refine ⟨_, noted, List.forall_mem_append.mpr ⟨fun call made => ?_, fun call made => ?_⟩⟩
    · rw [searched.queries call made]
      rfl
    · rw [stored call made]
      rfl

/-- The calls of a sweep publish keys of its items. -/
theorem republish_adds (caller : Caller ε) (items : List Listed) (scene : Scene (ε × List Call)) :
    Adds (fun call => ∃ item ∈ items, ∃ key : Ident,
        item.key = key.octets ∧ call.query.Publishes key)
      scene (scene.republishBy (noting caller) items) := by
  induction items generalizing scene with
  | nil => exact Adds.refl
  | cons item items ih =>
      have rest (later : Scene (ε × List Call)) :
          Adds (fun call => ∃ listed ∈ item :: items, ∃ key : Ident,
            listed.key = key.octets ∧ call.query.Publishes key)
            later (later.republishBy (noting caller) items) :=
        (ih later).mono fun call ⟨other, among, published⟩ =>
          ⟨other, List.mem_cons_of_mem _ among, published⟩
      rw [republishBy]
      cases read : item.read scene.clock with
      | error failure => exact Adds.refl
      | ok entry =>
          dsimp only
          split
          · next key named =>
              refine Adds.trans ?_ (rest _)
              refine (publish_adds caller scene key entry.2).mono fun call publishes => ?_
              refine ⟨item, List.mem_cons_self, key, ?_, publishes⟩
              rw [← Ident.octets_of_ok named, Listed.eq_of_read read]
          · exact rest scene

/-- A sweep makes no call for a key that none of its items has. -/
theorem republish_spares (caller : Caller ε) {items : List Listed} {key : Ident}
    (apart : ∀ item ∈ items, item.key ≠ key.octets) (scene : Scene (ε × List Call)) :
    Adds (fun call => ¬call.query.Publishes key) scene
      (scene.republishBy (noting caller) items) := by
  refine (republish_adds caller items scene).mono ?_
  rintro call ⟨item, among, name, named, publishes⟩ both
  rw [Query.publishes_unique publishes both] at named
  exact apart item among named

/-- Before its sweep a refresh only asks for contacts. -/
theorem opened_adds (caller : Caller ε) (draw : Nat → Nat) (scene : Scene (ε × List Call)) :
    Adds (fun call => ∃ target, call.query = .findNode target) scene
      (scene.openedBy (noting caller) draw) := by
  have looked : ∀ (targets : List Ident) (scene : Scene (ε × List Call)),
      Adds (fun call => ∃ target, call.query = .findNode target) scene
        (targets.foldl (refreshTowardBy (noting caller)) scene) := by
    intro targets
    induction targets with
    | nil => exact fun _ => Adds.refl
    | cons target targets ih =>
        intro scene
        refine Adds.trans ?_ (ih _)
        unfold refreshTowardBy
        dsimp only
        split_ifs
        · exact Adds.refl
        · obtain ⟨made, noted, searched⟩ := lookup_searched caller scene target
            (scene.node.neighbours target scene.node.parallelism)
          exact ⟨made, noted, fun call among => ⟨target, searched.queries call among⟩⟩
  exact looked _ (scene.mapNode fun node => { node with store := node.store.cull scene.clock })

end Noted

end Scene
end XorOverlay
