import Mathlib
import XorOverlay.Proofs.Store.Still
import XorOverlay.Proofs.Store.Timeline
import XorOverlay.Proofs.Entries

/-!
What an expiring store still holds of a key is its last write, as long as that is no older than
the lifetime. Reading and sweeping erase entries, but none that is not expired at the time, and
what is expired once stays so. The journal decides which entries a sweep looks at, never whether
one goes; so outdated mentions in it do no harm.
-/

namespace XorOverlay

set_option autoImplicit false

namespace Expiring

/-- What a store holds of a key and has not expired. -/
def standing (now : Nanoseconds) (key : Octets) (store : Expiring) : Option Written :=
  (store.entry? key).filter fun written => !store.hasExpired now written

/-- No key has two entries. -/
def Distinct (store : Expiring) : Prop :=
  (store.entries.map Prod.fst).Nodup

theorem standing_put (now : Nanoseconds) (key other value : Octets) (store : Expiring) :
    (store.put now key value).standing now other =
      if other = key then some ⟨value, now⟩ else store.standing now other := by
  have fresh : (store.put now key value).hasExpired now ⟨value, now⟩ = false := by
    simp [hasExpired]
  have entry : entry? other (store.put now key value) =
      if other = key then some ⟨value, now⟩ else store.entry? other := lookup_assign _ _ _ _
  unfold standing
  rw [entry]
  split_ifs
  · simp [fresh]
  · rfl

theorem expired_iff (now : Nanoseconds) (store : Expiring) (written : Written) :
    store.hasExpired now written = true ↔ written.instant + store.lifetime < now :=
  decide_eq_true_iff.trans Nat.lt_sub_iff_add_lt'

theorem lasting_eq (now : Nanoseconds) (store : Expiring) (written : Written) :
    decide (now - written.instant ≤ store.lifetime) = !store.hasExpired now written := by
  rw [hasExpired, decide_eq_decide.mpr not_lt.symm, decide_not]

theorem expired_later {earlier later : Nanoseconds} (passes : earlier ≤ later) {store : Expiring}
    {written : Written} (expired : store.hasExpired earlier written = true) :
    store.hasExpired later written = true :=
  (expired_iff later store written).mpr
    (lt_of_lt_of_le ((expired_iff earlier store written).mp expired) passes)

/-- What has expired never stands again, so what stands later is what stood earlier and has not
expired since. -/
theorem standing_later {earlier later : Nanoseconds} (passes : earlier ≤ later) (key : Octets)
    (store : Expiring) :
    store.standing later key =
      (store.standing earlier key).filter fun written => !store.hasExpired later written := by
  unfold standing
  cases store.entry? key with
  | none => rfl
  | some written =>
      rw [show (some written).filter (fun written => !store.hasExpired earlier written) =
        if !store.hasExpired earlier written then some written else none from Option.filter_some]
      cases early : store.hasExpired earlier written with
      | false => rfl
      | true =>
          rw [Option.filter_some, expired_later passes early]
          rfl

theorem keys_assign (key : Octets) (written : Written) (entries : List (Octets × Written)) :
    (assign key written entries).map Prod.fst =
      if key ∈ entries.map Prod.fst then entries.map Prod.fst
      else entries.map Prod.fst ++ [key] := by
  induction entries with
  | nil => rfl
  | cons first rest ih =>
      obtain ⟨held, old⟩ := first
      by_cases here : held = key
      · subst here
        simp [assign]
      · have apart : ¬key = held := fun same => here same.symm
        rw [assign, if_neg here, List.map_cons, ih]
        simp only [List.map_cons, List.mem_cons, apart, false_or]
        split_ifs <;> rfl

theorem put_distinct {store : Expiring} (distinct : store.Distinct) (now : Nanoseconds)
    (key value : Octets) : (store.put now key value).Distinct := by
  show ((assign key ⟨value, now⟩ store.entries).map Prod.fst).Nodup
  rw [keys_assign]
  split_ifs with known
  · exact distinct
  · exact List.Nodup.append distinct (List.nodup_singleton key)
      (List.disjoint_singleton.mpr known)

/-- What reading and sweeping come to: a store that lost nothing but expired entries. -/
structure Cleared (now : Nanoseconds) (store next : Expiring) : Prop where
  lifetime : next.lifetime = store.lifetime
  distinct : store.Distinct → next.Distinct
  standing : ∀ key, next.standing now key = store.standing now key

namespace Cleared

variable {now : Nanoseconds} {store next last : Expiring}

theorem refl : Cleared now store store :=
  ⟨rfl, id, fun _ => rfl⟩

theorem trans (first : Cleared now store next) (second : Cleared now next last) :
    Cleared now store last :=
  ⟨second.lifetime.trans first.lifetime, fun distinct => second.distinct (first.distinct distinct),
    fun key => (second.standing key).trans (first.standing key)⟩

end Cleared

theorem erase_cleared {now : Nanoseconds} {key : Octets} {store : Expiring} {written : Written}
    (found : store.entry? key = some written) (expired : store.hasExpired now written = true) :
    Cleared now store (store.erase key) := by
  refine ⟨rfl, List.Nodup.sublist (List.Sublist.map Prod.fst List.filter_sublist),
    fun other => ?_⟩
  have entry : entry? other (store.erase key) =
      if other = key then none else store.entry? other := lookup_without _ _ _
  unfold standing
  rw [entry]
  split_ifs with same
  · subst same
    rw [found, Option.filter_some, expired]
    rfl
  · rfl

theorem get_cleared (now : Nanoseconds) (key : Octets) (store : Expiring) :
    Cleared now store (store.get now key).2 := by
  unfold get
  cases found : store.entry? key with
  | none => exact Cleared.refl
  | some written =>
      cases expired : store.hasExpired now written with
      | false => simpa [expired] using Cleared.refl
      | true => simpa [expired] using erase_cleared found expired

theorem erase_expired_cleared (now : Nanoseconds) (key : Octets) (store : Expiring) :
    Cleared now store (store.eraseExpired now key) := by
  unfold eraseExpired
  cases found : store.entry? key with
  | none => exact Cleared.refl
  | some written =>
      cases expired : store.hasExpired now written with
      | false => simpa [expired] using Cleared.refl
      | true => simpa [expired] using erase_cleared found expired

/-- A sweep takes nothing that still stands, whatever the journal mentions. -/
theorem cull_cleared (now : Nanoseconds) (store : Expiring) :
    Cleared now store (store.cull now) := by
  unfold cull
  split_ifs
  · exact Cleared.refl
  · have unread : Cleared now store
        { store with journal := (store.journal.partition
          fun page => decide (page.1 < now - store.lifetime)).2 } := ⟨rfl, id, fun _ => rfl⟩
    exact List.foldlRecOn _ _ unread
      fun _ kept key _ => kept.trans (erase_expired_cleared now key _)

/-- A store and a ledger that agree on every write that has not expired. -/
structure Faithful (lifetime : Nanoseconds) (ledger : Store.Ledger) (store : Expiring) :
    Prop where
  lifetime_eq : store.lifetime = lifetime
  distinct : store.Distinct
  standing : ∀ key, store.standing ledger.now key =
    (ledger.last key).filter fun written => !store.hasExpired ledger.now written

namespace Faithful

variable {lifetime : Nanoseconds} {ledger : Store.Ledger} {store next : Expiring}

theorem blank (lifetime start : Nanoseconds) :
    Faithful lifetime (.blank start) (empty lifetime) :=
  ⟨rfl, List.nodup_nil, fun _ => rfl⟩

theorem cleared (faithful : Faithful lifetime ledger store)
    (loss : Cleared ledger.now store next) : Faithful lifetime ledger next := by
  refine ⟨loss.lifetime.trans faithful.lifetime_eq, loss.distinct faithful.distinct,
    fun key => ?_⟩
  unfold hasExpired
  rw [loss.standing, faithful.standing, loss.lifetime]
  rfl

theorem put (faithful : Faithful lifetime ledger store) (key value : Octets) :
    Faithful lifetime (ledger.step (.put key value)) (store.put ledger.now key value) := by
  refine ⟨faithful.lifetime_eq, put_distinct faithful.distinct _ _ _, fun other => ?_⟩
  show (store.put ledger.now key value).standing ledger.now other =
    (Function.update ledger.last key (some ⟨value, ledger.now⟩) other).filter
      fun written => !store.hasExpired ledger.now written
  rw [standing_put, Function.update_apply]
  split_ifs
  · rw [Option.filter_some, hasExpired, Nat.sub_self]
    simp
  · exact faithful.standing other

theorem wait (faithful : Faithful lifetime ledger store) (duration : Nanoseconds) :
    Faithful lifetime (ledger.step (.wait duration)) store := by
  refine ⟨faithful.lifetime_eq, faithful.distinct, fun key => ?_⟩
  show store.standing (ledger.now + duration) key =
    (ledger.last key).filter fun written => !store.hasExpired (ledger.now + duration) written
  rw [standing_later (Nat.le_add_right _ _), faithful.standing, Option.filter_filter]
  congr 1
  funext written
  cases early : store.hasExpired ledger.now written with
  | false => simp
  | true => simp [expired_later (Nat.le_add_right ledger.now duration) early]

/-- Two stores faithful to one ledger hold the same. -/
theorem standing_unique (faithful : Faithful lifetime ledger store)
    (mirrored : Faithful lifetime ledger next) (key : Octets) :
    next.standing ledger.now key = store.standing ledger.now key := by
  rw [mirrored.standing, faithful.standing]
  unfold hasExpired
  rw [mirrored.lifetime_eq, faithful.lifetime_eq]

end Faithful

variable {store other : Expiring}

theorem entry_iff_mem (distinct : store.Distinct) (key : Octets) (written : Written) :
    store.entry? key = some written ↔ (key, written) ∈ store.entries :=
  lookup_iff_mem distinct key written

theorem mem_listing (distinct : store.Distinct) (now : Nanoseconds) (item : Listed) :
    item ∈ store.listing now ↔ ∃ written, store.standing now item.key = some written ∧
      item = ⟨item.key, written.value, some (written.instant + store.lifetime)⟩ := by
  unfold listing standing
  simp only [List.mem_map, List.mem_filter, Option.filter_eq_some_iff]
  constructor
  · rintro ⟨⟨key, written⟩, ⟨held, fresh⟩, rfl⟩
    exact ⟨written, ⟨(entry_iff_mem distinct key written).mpr held, fresh⟩, rfl⟩
  · rintro ⟨written, ⟨found, fresh⟩, shape⟩
    exact ⟨(item.key, written), ⟨(entry_iff_mem distinct _ written).mp found, fresh⟩,
      shape.symm⟩

theorem listing_keys_nodup (distinct : store.Distinct) (now : Nanoseconds) :
    ((store.listing now).map Listed.key).Nodup := by
  unfold listing
  rw [List.map_map]
  exact List.Nodup.sublist (List.Sublist.map Prod.fst List.filter_sublist) distinct

/-- Nothing in a new listing is past its deadline yet. -/
theorem read_listing (now : Nanoseconds) (store : Expiring) :
    (store.listing now).map (Listed.read now) =
      ((store.listing now).map fun item => (item.key, item.value)).map .ok := by
  rw [List.map_map]
  refine List.map_congr_left fun item listed => ?_
  obtain ⟨entry, kept, rfl⟩ := List.mem_map.mp listed
  have fresh : ¬entry.2.instant + store.lifetime < now := by
    rw [← expired_iff]
    simpa using (List.mem_filter.mp kept).2
  exact if_neg fresh

/-- A listing is told by what stands, up to its order. -/
theorem listing_perm (distinct : store.Distinct) (apart : other.Distinct) {now : Nanoseconds}
    (lifetime : other.lifetime = store.lifetime)
    (standing : ∀ key, other.standing now key = store.standing now key) :
    (other.listing now).Perm (store.listing now) := by
  refine (List.perm_ext_iff_of_nodup (List.Nodup.of_map _ (listing_keys_nodup apart now))
    (List.Nodup.of_map _ (listing_keys_nodup distinct now))).mpr fun item => ?_
  rw [mem_listing apart, mem_listing distinct, standing, lifetime]

end Expiring

namespace Store

open Expiring (Faithful)

theorem faithful_step {lifetime : Nanoseconds} {ledger : Ledger} {held : Expiring}
    (faithful : Faithful lifetime ledger held) (event : Event) :
    ∃ next, (⟨ledger.now, .expiring held⟩ : Moment).step event =
        ⟨(ledger.step event).now, .expiring next⟩ ∧
      Faithful lifetime (ledger.step event) next := by
  cases event with
  | put key value => exact ⟨_, rfl, faithful.put key value⟩
  | get key => exact ⟨_, rfl, faithful.cleared (Expiring.get_cleared _ key held)⟩
  | list => exact ⟨_, rfl, faithful⟩
  | cull => exact ⟨_, rfl, faithful.cleared (Expiring.cull_cleared _ held)⟩
  | wait duration => exact ⟨_, rfl, faithful.wait duration⟩

theorem faithful_after (lifetime start : Nanoseconds) (events : List Event) :
    ∃ held, (⟨start, .expiring (.empty lifetime)⟩ : Moment).after events =
        ⟨((Ledger.blank start).after events).now, .expiring held⟩ ∧
      Faithful lifetime ((Ledger.blank start).after events) held := by
  induction events using List.reverseRecOn with
  | nil => exact ⟨_, rfl, Expiring.Faithful.blank lifetime start⟩
  | append_singleton events event ih =>
      obtain ⟨held, reached, faithful⟩ := ih
      rw [Moment.after_concat, Ledger.after_concat, reached]
      exact faithful_step faithful event

theorem shown_expiring (now : Nanoseconds) (key : Octets) (held : Expiring) :
    (⟨now, .expiring held⟩ : Moment).shown key = (held.standing now key).map Written.value :=
  Expiring.get_shows now key held

theorem shown_faithful {lifetime : Nanoseconds} {ledger : Ledger} {held : Expiring}
    (faithful : Faithful lifetime ledger held) (key value : Octets) :
    (⟨ledger.now, .expiring held⟩ : Moment).shown key = some value ↔
      ∃ written, ledger.last key = some written ∧ written.value = value ∧
        ledger.now ≤ written.instant + lifetime := by
  have fresh (written : Written) : held.hasExpired ledger.now written = false ↔
      ledger.now ≤ written.instant + lifetime := by
    rw [← Bool.not_eq_true, Expiring.expired_iff, faithful.lifetime_eq, not_lt]
  simp only [shown_expiring, faithful.standing, Option.map_eq_some_iff, Option.filter_eq_some_iff,
    Bool.not_eq_true', fresh, and_assoc]
  exact exists_congr fun written => and_congr_right fun _ => And.comm

theorem contents_faithful {lifetime : Nanoseconds} {ledger : Ledger} {held : Expiring}
    (faithful : Faithful lifetime ledger held) (key value : Octets) :
    (key, value) ∈ (Store.expiring held).contents ledger.now ↔
      (⟨ledger.now, .expiring held⟩ : Moment).shown key = some value := by
  rw [shown_expiring, Option.map_eq_some_iff]
  constructor
  · intro member
    obtain ⟨item, listed, same⟩ := List.mem_map.mp member
    obtain ⟨written, stands, shape⟩ := (Expiring.mem_listing faithful.distinct _ _).mp listed
    rw [shape] at same
    obtain ⟨rfl, rfl⟩ := Prod.mk.inj same
    exact ⟨written, stands, rfl⟩
  · rintro ⟨written, stands, rfl⟩
    exact List.mem_map.mpr ⟨⟨key, written.value, _⟩,
      (Expiring.mem_listing faithful.distinct _ _).mpr ⟨written, stands, rfl⟩, rfl⟩

/-- At every instant of every history a key reads as its last write, if that is no older than the
lifetime, and as absent otherwise. A listing opened and read at that instant has just the pairs
that reading finds, each once. Only writes and the time matter: a history that differs in what is
only asked has the same answers, and the same listings, whenever these are read. -/
theorem expiring_answers_last_write (lifetime start : Nanoseconds) (events : List Event) :
    let fresh : Moment := ⟨start, .expiring (.empty lifetime)⟩
    let moment := fresh.after events
    let pairs := moment.store.contents moment.now
    (∀ key value, moment.shown key = some value ↔
      ∃ written, ((Ledger.blank start).after events).last key = some written ∧
        written.value = value ∧ moment.now ≤ written.instant + lifetime) ∧
    (moment.store.listing moment.now).map (Listed.read moment.now) = pairs.map .ok ∧
    moment.residents.Nodup ∧
    (∀ key value, (key, value) ∈ pairs ↔ moment.shown key = some value) ∧
    ∀ others : List Event,
      others.filter Event.essential = events.filter Event.essential →
        (fresh.after others).now = moment.now ∧
        (∀ key, (fresh.after others).shown key = moment.shown key) ∧
        ((fresh.after others).store.listing moment.now).Perm
          (moment.store.listing moment.now) := by
  obtain ⟨held, reached, faithful⟩ := faithful_after lifetime start events
  dsimp only
  rw [reached]
  refine ⟨shown_faithful faithful, Expiring.read_listing _ held, ?_,
    contents_faithful faithful, fun others same => ?_⟩
  · show (((held.listing _).map fun item => (item.key, item.value)).map Prod.fst).Nodup
    rw [List.map_map]
    exact Expiring.listing_keys_nodup faithful.distinct _
  · have ledgers : (Ledger.blank start).after others = (Ledger.blank start).after events := by
      rw [← Ledger.after_essential others, same, Ledger.after_essential]
    obtain ⟨mirror, met, mirrored⟩ := faithful_after lifetime start others
    rw [ledgers] at met mirrored
    rw [met]
    have standing := faithful.standing_unique mirrored
    refine ⟨rfl, fun key => ?_, Expiring.listing_perm faithful.distinct mirrored.distinct
      (mirrored.lifetime_eq.trans faithful.lifetime_eq.symm) standing⟩
    rw [shown_expiring, shown_expiring, standing]

/-- A key written again two instants after its first write, under a lifetime of three. Sweeps in
between, and one at the very end of the second write's lifetime, leave it in place. -/
theorem rewritten_key_outlives_sweeps :
    let plain : List Event := [.put [7] [1], .wait 2, .put [7] [2], .wait 3]
    let swept : List Event :=
      [.put [7] [1], .get [7], .wait 2, .cull, .put [7] [2], .list, .wait 3, .cull, .get [8]]
    let fresh : Moment := ⟨5, .expiring (.empty 3)⟩
    swept.filter Event.essential = plain.filter Event.essential ∧
      (fresh.after swept).shown [7] = some [2] ∧
      ∀ key, (fresh.after swept).shown key = (fresh.after plain).shown key :=
  ⟨by decide, by decide,
    ((expiring_answers_last_write 3 5 _).2.2.2.2 _ (by decide)).2.1⟩

end Store
end XorOverlay
