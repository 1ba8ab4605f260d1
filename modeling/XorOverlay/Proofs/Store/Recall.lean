import Mathlib
import XorOverlay.Proofs.Store.Residency

/-!
An adaptive cache over a whole history. It never answers with anything but the last write of a
key, it holds every key ever written until it is full, and from then on it stays full. What it
forgets, it forgets for a new key, one for one.
-/

namespace XorOverlay

set_option autoImplicit false

namespace Adaptive

open Store (Event Ledger keysWritten)

/-- A cache that is up to date with what was written: it holds last writes only, and all of them
while there is room. -/
structure Current (ledger : Ledger) (written : Finset Octets) (cache : Adaptive) : Prop where
  sound : cache.Sound
  latest : ∀ entry ∈ cache.entries, (ledger.last entry.1).map Written.value = some entry.2
  known : ∀ key ∈ cache.keys, key ∈ written
  complete : cache.size < cache.capacity → ∀ key ∈ written, key ∈ cache.keys

namespace Current

variable {ledger later : Ledger} {written : Finset Octets} {cache next : Adaptive}
  {key value : Octets}

theorem blank (start : Nanoseconds) (capacity : Nat) :
    Current (.blank start) ∅ (empty capacity) :=
  ⟨empty_sound capacity, fun _ held => (List.not_mem_nil held).elim,
    fun _ held => (List.not_mem_nil held).elim,
    fun _ _ member => (Finset.notMem_empty _ member).elim⟩

theorem distinct (current : Current ledger written cache) : cache.keys.Nodup :=
  current.sound.keys_nodup

/-- Whatever put an entry in place, the cache is up to date with a ledger that has that write. -/
theorem admitted (current : Current ledger written cache) (admits : Admits key value cache next)
    (sound : next.Sound) (capacity : next.capacity = cache.capacity)
    (new : (later.last key).map Written.value = some value)
    (old : ∀ other, other ≠ key → later.last other = ledger.last other) :
    Current later (insert key written) next := by
  refine ⟨sound, fun entry listed => ?_, fun other listed => ?_, fun roomy other member => ?_⟩
  · rcases admits.old_entry listed with rfl | ⟨kept, apart⟩
    · exact new
    · rw [old _ apart]
      exact current.latest entry kept
  · rcases admits.old_key listed with rfl | kept
    · exact Finset.mem_insert_self _ _
    · exact Finset.mem_insert_of_mem (current.known other kept)
  · rw [admits.size_next current.sound, capacity] at roomy
    by_cases resident : key ∈ cache.keys
    · rw [if_pos resident] at roomy
      rw [(admits.keys_again current.sound resident).mem_iff]
      rcases Finset.mem_insert.mp member with rfl | earlier
      · exact resident
      · exact current.complete roomy other earlier
    · rw [if_neg resident, min_lt_iff, or_iff_left (lt_irrefl _)] at roomy
      have before := Nat.lt_of_succ_lt roomy
      rw [(admits.keys_anew resident before).mem_iff, List.mem_cons]
      exact (Finset.mem_insert.mp member).imp_right (current.complete before other)

theorem put (current : Current ledger written cache) (key value : Octets) :
    Current (ledger.step (.put key value)) (insert key written) (cache.put key value) := by
  refine current.admitted (put_admits current.sound key value) (put_sound current.sound key value)
    (put_capacity key value cache) ?_ fun other apart => ?_
  · exact congrArg (Option.map Written.value) (Function.update_self key _ ledger.last)
  · exact Function.update_of_ne apart _ ledger.last

theorem get (current : Current ledger written cache) (key : Octets) :
    Current ledger written (cache.get key).2 := by
  by_cases resident : key ∈ cache.keys
  · obtain ⟨⟨_, value⟩, held, rfl⟩ := List.mem_map.mp resident
    rw [get_resident current.sound held, ← Finset.insert_eq_of_mem (current.known _ resident)]
    exact current.admitted (put_admits current.sound _ value) (put_sound current.sound _ value)
      (put_capacity _ value cache) (current.latest _ held) fun _ _ => rfl
  · rwa [get_absent resident]

theorem size_eq_min (current : Current ledger written cache) :
    cache.size = min cache.capacity written.card := by
  have part : cache.keys.toFinset ⊆ written := fun key member =>
    current.known key (List.mem_toFinset.mp member)
  have size : cache.keys.toFinset.card = cache.size := by
    rw [List.toFinset_card_of_nodup current.distinct, size_eq]
  rcases lt_or_eq_of_le current.sound.fits with roomy | full
  · have whole : written ⊆ cache.keys.toFinset := fun key member =>
      List.mem_toFinset.mpr (current.complete roomy key member)
    rw [← Finset.Subset.antisymm part whole, size, min_eq_right roomy.le]
  · rw [full, eq_comm, min_eq_left_iff, ← full, ← size]
    exact Finset.card_le_card part

end Current

theorem get_capacity (key : Octets) (cache : Adaptive) :
    (cache.get key).2.capacity = cache.capacity := by
  unfold get
  split
  · rfl
  · split <;> rfl

/-- What reading finds is what is among the entries. -/
theorem get_iff_mem {cache : Adaptive} (sound : cache.Sound) (key value : Octets) :
    (cache.get key).1 = some value ↔ (key, value) ∈ cache.entries := by
  constructor
  · intro shown
    by_cases resident : key ∈ cache.keys
    · obtain ⟨⟨_, held⟩, listed, rfl⟩ := List.mem_map.mp resident
      rw [get_resident sound listed] at shown
      exact Option.some.inj shown ▸ listed
    · rw [get_absent resident] at shown
      cases shown
  · intro held
    rw [get_resident sound held]

theorem keys_get {cache : Adaptive} (sound : cache.Sound) (key : Octets) :
    (cache.get key).2.keys.Perm cache.keys := by
  by_cases resident : key ∈ cache.keys
  · obtain ⟨⟨_, value⟩, held, rfl⟩ := List.mem_map.mp resident
    rw [get_resident sound held]
    exact (put_admits sound _ value).keys_again sound resident
  · rw [get_absent resident]

/-- A write loses one key at most, and none but for a new key in a full cache. -/
theorem put_loses {cache : Adaptive} (sound : cache.Sound) {key lost : Octets} (value : Octets)
    (held : lost ∈ cache.keys) (gone : lost ∉ (cache.put key value).keys) :
    key ∉ cache.keys ∧ cache.size = cache.capacity ∧
      ∀ other ∈ cache.keys, other ∉ (cache.put key value).keys → other = lost := by
  have admits := put_admits sound key value
  have absent : key ∉ cache.keys := fun resident =>
    gone ((admits.keys_again sound resident).mem_iff.mpr held)
  have full : cache.size = cache.capacity :=
    (lt_or_eq_of_le sound.fits).resolve_left fun roomy =>
      gone ((admits.keys_anew absent roomy).mem_iff.mpr (List.mem_cons_of_mem _ held))
  -- Of what the full cache held all is kept but the victim.
  obtain ⟨victim, kept, before, after⟩ := admits.keys_full absent full
  have is_victim (other : Octets) (there : other ∈ cache.keys)
      (missing : other ∉ (cache.put key value).keys) : other = victim := by
    rw [after.mem_iff, List.mem_cons, not_or] at missing
    exact (List.mem_cons.mp (before.mem_iff.mp there)).resolve_right missing.2
  exact ⟨absent, full, fun other there missing =>
    (is_victim other there missing).trans (is_victim lost held gone).symm⟩

end Adaptive

namespace Store

open Adaptive (Current)

theorem contents_adaptive (now : Nanoseconds) (cache : Adaptive) :
    (Store.adaptive cache).contents now = cache.entries :=
  List.map_map.trans (List.map_id cache.entries)

theorem residents_adaptive (now : Nanoseconds) (cache : Adaptive) :
    (⟨now, .adaptive cache⟩ : Moment).residents = cache.keys :=
  congrArg (List.map Prod.fst) (contents_adaptive now cache)

theorem current_step {ledger : Ledger} {events : List Event} {cache : Adaptive}
    (current : Current ledger (keysWritten events) cache) (event : Event) :
    ∃ next, (⟨ledger.now, .adaptive cache⟩ : Moment).step event =
        ⟨(ledger.step event).now, .adaptive next⟩ ∧
      next.capacity = cache.capacity ∧
      Current (ledger.step event) (keysWritten (events ++ [event])) next := by
  rw [keys_written_concat]
  cases event with
  | put key value => exact ⟨_, rfl, Adaptive.put_capacity key value cache, current.put key value⟩
  | get key => exact ⟨_, rfl, Adaptive.get_capacity key cache, current.get key⟩
  | list => exact ⟨_, rfl, rfl, current⟩
  | cull => exact ⟨_, rfl, rfl, current⟩
  | wait duration =>
      exact ⟨_, rfl, rfl, current.sound, current.latest, current.known, current.complete⟩

theorem current_after (capacity start : Nat) (events : List Event) :
    ∃ cache, (⟨start, .adaptive (.empty capacity)⟩ : Moment).after events =
        ⟨((Ledger.blank start).after events).now, .adaptive cache⟩ ∧
      cache.capacity = max capacity 1 ∧
      Current ((Ledger.blank start).after events) (keysWritten events) cache := by
  induction events using List.reverseRecOn with
  | nil => exact ⟨_, rfl, rfl, Adaptive.Current.blank start capacity⟩
  | append_singleton events event ih =>
      obtain ⟨cache, reached, bound, current⟩ := ih
      obtain ⟨next, stepped, same, kept⟩ := current_step current event
      rw [Moment.after_concat, Ledger.after_concat, reached]
      exact ⟨next, stepped, same.trans bound, kept⟩

/-- In every history of a cache no key has two places among its four lists, neither the entries nor
the ghosts nor the aim exceed the capacity, and there are as many entries as keys were ever
written, up to the capacity. -/
theorem cache_stays_bounded {capacity : Nat} (positive : 0 < capacity) (start : Nanoseconds)
    (events : List Event) :
    ∃ cache, ((⟨start, .adaptive (.empty capacity)⟩ : Moment).after events).store =
        .adaptive cache ∧
      (∀ part ∈ [cache.recent.map Prod.fst, cache.frequent.map Prod.fst, cache.recentGhosts,
        cache.frequentGhosts], part.Nodup) ∧
      [cache.recent.map Prod.fst, cache.frequent.map Prod.fst, cache.recentGhosts,
        cache.frequentGhosts].Pairwise List.Disjoint ∧
      cache.recent.length + cache.frequent.length ≤ capacity ∧
      cache.recentGhosts.length + cache.frequentGhosts.length ≤ capacity ∧
      cache.aim ≤ capacity ∧
      cache.size = min capacity (keysWritten events).card := by
  obtain ⟨cache, reached, bound, current⟩ := current_after capacity start events
  rw [max_eq_left positive] at bound
  have distinct := current.sound.distinct
  have places : [cache.recent.map Prod.fst, cache.frequent.map Prod.fst, cache.recentGhosts,
      cache.frequentGhosts].flatten.Nodup := by
    simpa [Adaptive.keys_eq, Adaptive.ghosts] using distinct
  have few := current.sound.few
  rw [Adaptive.ghosts, List.length_append] at few
  obtain ⟨single, apart⟩ := List.nodup_flatten.mp places
  refine ⟨cache, by rw [reached], single, apart, ?_, ?_, ?_, ?_⟩
  · exact bound ▸ current.sound.fits
  · exact bound ▸ few
  · exact bound ▸ current.sound.aimed
  · exact bound ▸ current.size_eq_min

/-- Four keys in a cache of two, written as new keys, as a resident key, and as ghosts of either
kind. -/
theorem four_keys_share_two_places :
    let events : List Event := [.put [1] [10], .get [1], .put [2] [], .put [3] [30],
      .put [2] [20], .put [1] [11], .cull, .put [1] [12], .put [4] [40]]
    0 < 2 ∧ (keysWritten events).card = 4 ∧
      ∃ cache, ((⟨0, .adaptive (.empty 2)⟩ : Moment).after events).store = .adaptive cache ∧
        [cache.recent.map Prod.fst, cache.frequent.map Prod.fst, cache.recentGhosts,
          cache.frequentGhosts].Pairwise List.Disjoint ∧
        cache.size = 2 := by
  intro events
  obtain ⟨cache, reached, -, apart, -, -, -, size⟩ :=
    cache_stays_bounded (show 0 < 2 by decide) 0 events
  exact ⟨by decide, by decide, cache, reached, apart, size.trans (by decide)⟩

/-- At every point of every history of a cache, reading a key answers with its last write or not at
all, and a listing has just what reading answers, each key once and readable at any time. A key
just written reads as written. Nothing but a write takes a key out of the cache, and a write takes
at most one, for a new key, and only from as many as the cache has room for. -/
theorem cache_recalls_last_write (capacity start : Nat) (events : List Event) :
    let moment := (⟨start, .adaptive (.empty capacity)⟩ : Moment).after events
    let pairs := moment.store.contents moment.now
    (∀ key value, moment.shown key = some value →
      (((Ledger.blank start).after events).last key).map Written.value = some value) ∧
    (∀ later, (moment.store.listing moment.now).map (Listed.read later) = pairs.map .ok) ∧
    (∀ key value, (key, value) ∈ pairs ↔ moment.shown key = some value) ∧
    moment.residents.Nodup ∧
    (∀ key value, (moment.step (.put key value)).shown key = some value) ∧
    (∀ event, event.written? = none →
      (moment.step event).residents.Perm moment.residents) ∧
    ∀ key value lost, lost ∈ moment.residents →
      lost ∉ (moment.step (.put key value)).residents →
        key ∉ moment.residents ∧ moment.residents.length = max capacity 1 ∧
        ∀ other ∈ moment.residents, other ∉ (moment.step (.put key value)).residents →
          other = lost := by
  obtain ⟨cache, reached, bound, current⟩ := current_after capacity start events
  have sound := current.sound
  dsimp only
  rw [reached, contents_adaptive, residents_adaptive]
  refine ⟨fun key value shown => ?_, fun later => ?_, fun key value => ?_, current.distinct,
    fun key value => ?_, fun event asks => ?_, fun key value lost held gone => ?_⟩
  · exact current.latest _ ((Adaptive.get_iff_mem sound key value).mp shown)
  · simp [listing, Adaptive.listing, Listed.read]
  · exact (Adaptive.get_iff_mem sound key value).symm
  · exact (Adaptive.get_iff_mem (Adaptive.put_sound sound key value) key value).mpr
      (Adaptive.put_admits sound key value).held
  · cases event with
    | put key value => cases asks
    | get key =>
        exact (List.Perm.of_eq (residents_adaptive _ _)).trans (Adaptive.keys_get sound key)
    | list => exact .of_eq (residents_adaptive _ _)
    | cull => exact .of_eq (residents_adaptive _ _)
    | wait duration => exact .of_eq (residents_adaptive _ _)
  · have after : ((⟨_, .adaptive cache⟩ : Moment).step (.put key value)).residents =
        (cache.put key value).keys :=
      residents_adaptive ((Ledger.blank start).after events).now (cache.put key value)
    rw [after] at gone ⊢
    obtain ⟨absent, full, alone⟩ := Adaptive.put_loses sound value held gone
    exact ⟨absent, by rw [← Adaptive.size_eq, full, bound], alone⟩

/-- A key evicted with an empty value comes back with another one, and the frequent key goes. -/
theorem returning_key_takes_one_place :
    let events : List Event := [.put [1] [10], .get [1], .put [2] [], .put [3] [30]]
    let moment := (⟨0, .adaptive (.empty 2)⟩ : Moment).after events
    (moment.step (.put [2] [20])).shown [2] = some [20] ∧
      [1] ∈ moment.residents ∧ [1] ∉ (moment.step (.put [2] [20])).residents ∧
      ∀ other ∈ moment.residents, other ∉ (moment.step (.put [2] [20])).residents →
        other = [1] := by
  intro events moment
  have recalls := cache_recalls_last_write 2 0 events
  have held : [1] ∈ moment.residents := by decide
  have gone : [1] ∉ (moment.step (.put [2] [20])).residents := by decide
  exact ⟨recalls.2.2.2.2.1 [2] [20], held, gone,
    (recalls.2.2.2.2.2.2 [2] [20] [1] held gone).2.2⟩

end Store
end XorOverlay
