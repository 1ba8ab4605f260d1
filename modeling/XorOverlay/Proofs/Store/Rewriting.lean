import Mathlib
import XorOverlay.Proofs.Store.Instant
import XorOverlay.Proofs.Store.Lifetime
import XorOverlay.Proofs.Store.Recall

/-!
Writing again what a store shows. In a store in which no key has two places, what is listed is what
reading finds, and writing a value that its key shows already changes nothing that can be read: an
expiring store replaces the entry by its like, and a cache, which may have no room to spare, only
moves it. Nor does dropping what has expired. What will still be shown later is listed already, and can
be read from the listing until then.
-/

namespace XorOverlay

set_option autoImplicit false

namespace Store

/-- No key has two places in a store, and a cache is in order besides. -/
def Sound : Store → Prop
  | .expiring store => store.Distinct
  | .adaptive cache => cache.Sound

theorem empty_expiring_sound (lifetime : Nanoseconds) : (expiring (.empty lifetime)).Sound :=
  List.nodup_nil

theorem empty_adaptive_sound (capacity : Nat) : (adaptive (.empty capacity)).Sound :=
  Adaptive.empty_sound capacity

variable {store : Store}

section Sound

variable (sound : store.Sound)
include sound

theorem put_sound (now : Nanoseconds) (key value : Octets) : (store.put now key value).Sound := by
  cases store with
  | expiring held => exact Expiring.put_distinct sound now key value
  | adaptive cache => exact Adaptive.put_sound sound key value

theorem get_sound (now : Nanoseconds) (key : Octets) : (store.get now key).2.Sound := by
  cases store with
  | expiring held => exact (Expiring.get_cleared now key held).distinct sound
  | adaptive cache =>
      have distinct : cache.Sound := sound
      show (cache.get key).2.Sound
      by_cases resident : key ∈ cache.keys
      · obtain ⟨⟨_, value⟩, listed, rfl⟩ := List.mem_map.mp resident
        rw [Adaptive.get_resident distinct listed]
        exact Adaptive.put_sound distinct _ value
      · rw [Adaptive.get_absent resident]
        exact distinct

theorem cull_sound (now : Nanoseconds) : (store.cull now).Sound := by
  cases store with
  | expiring held => exact (Expiring.cull_cleared now held).distinct sound
  | adaptive cache => exact sound

/-- What is listed is what reading finds. -/
theorem shows_listed {now : Nanoseconds} {item : Listed} (listed : item ∈ store.listing now) :
    (store.get now item.key).1 = some item.value := by
  cases store with
  | expiring held =>
      obtain ⟨written, stands, shape⟩ := (Expiring.mem_listing sound now item).mp listed
      rw [shape]
      exact (Expiring.get_shows now item.key held).trans (congrArg (Option.map Written.value) stands)
  | adaptive cache =>
      obtain ⟨entry, held, rfl⟩ := List.mem_map.mp listed
      exact (Adaptive.get_iff_mem sound entry.1 entry.2).mpr held

/-- What a store will show is in its listing, and can still be read from it then. -/
theorem listed_of_shows {now later : Nanoseconds} (passes : now ≤ later) {key value : Octets}
    (shows : (store.get later key).1 = some value) :
    ∃ item ∈ store.listing now, item.key = key ∧ item.value = value ∧ item.Lasts later := by
  cases store with
  | expiring held =>
      have stands : (held.standing later key).map Written.value = some value :=
        (Expiring.get_shows later key held).symm.trans shows
      obtain ⟨written, still, rfl⟩ := Option.map_eq_some_iff.mp stands
      rw [Expiring.standing_later passes, Option.filter_eq_some_iff] at still
      obtain ⟨earlier, fresh⟩ := still
      refine ⟨⟨key, written.value, some (written.instant + held.lifetime)⟩,
        (Expiring.mem_listing sound now _).mpr ⟨written, earlier, rfl⟩, rfl, rfl, ?_⟩
      refine Listed.lasts_iff.mpr ?_
      rintro _ ⟨⟩
      refine le_of_not_gt fun passed => ?_
      rw [(Expiring.expired_iff _ held written).mpr passed] at fresh
      cases fresh
  | adaptive cache =>
      have resident : (key, value) ∈ cache.entries := (Adaptive.get_iff_mem sound key value).mp shows
      exact ⟨⟨key, value, none⟩, List.mem_map_of_mem resident, rfl, rfl, rfl⟩

/-- No key is listed twice. -/
theorem listing_keys_nodup (now : Nanoseconds) : ((store.listing now).map Listed.key).Nodup := by
  cases store with
  | expiring held => exact Expiring.listing_keys_nodup sound now
  | adaptive cache =>
      show (cache.listing.map Listed.key).Nodup
      rw [Adaptive.listing, List.map_map]
      exact sound.keys_nodup

/-- Writing what a key shows already changes nothing that can be read. -/
theorem put_again {now : Nanoseconds} {key value : Octets}
    (shows : (store.get now key).1 = some value) (other : Octets) :
    ((store.put now key value).get now other).1 = (store.get now other).1 := by
  cases store with
  | expiring held =>
      rw [get_put (show (expiring held).Timed from trivial)]
      split_ifs with same
      · rw [same, shows]
      · rfl
  | adaptive cache =>
      have ordered : cache.Sound := sound
      have held : (key, value) ∈ cache.entries := (Adaptive.get_iff_mem ordered key value).mp shows
      refine Option.ext fun shown => ?_
      exact (Adaptive.get_iff_mem (Adaptive.put_sound ordered key value) other shown).trans
        ((Adaptive.mem_put_again ordered held (other, shown)).trans
          (Adaptive.get_iff_mem ordered other shown).symm)

end Sound

/-- Dropping what has expired changes nothing that can be read, then or later. -/
theorem cull_shows {now later : Nanoseconds} (passes : now ≤ later) (key : Octets) (store : Store) :
    ((store.cull now).get later key).1 = (store.get later key).1 := by
  cases store with
  | expiring held =>
      have cleared := Expiring.cull_cleared now held
      have same : (held.cull now).standing later key = held.standing later key := by
        rw [Expiring.standing_later passes, Expiring.standing_later passes, cleared.standing]
        unfold Expiring.hasExpired
        rw [cleared.lifetime]
      exact (Expiring.get_shows later key _).trans
        ((congrArg (Option.map Written.value) same).trans (Expiring.get_shows later key held).symm)
  | adaptive cache => rfl

end Store
end XorOverlay
