import Mathlib
import XorOverlay.Store
import XorOverlay.Proofs.Entries

/-!
An expiring store at one instant. A value written at an instant has not expired at it, and reading
forgets nothing but what could not be read any more, so at that instant every key reads as it was
last written, however often it is read. An item of a listing is read as it was listed, or not at all.
-/

namespace XorOverlay

set_option autoImplicit false

namespace Listed

variable {now : Nanoseconds} {item : Listed}

/-- Whatever is read from an item of a listing is what the item holds. -/
theorem eq_of_read {entry : Octets × Octets} (read : item.read now = .ok entry) :
    entry = (item.key, item.value) := by
  unfold Listed.read at read
  split at read
  · split_ifs at read
    exact (Except.ok.inj read).symm
  · exact (Except.ok.inj read).symm

/-- An item of a listing can still be read. -/
def Lasts (now : Nanoseconds) (item : Listed) : Prop :=
  item.read now = .ok (item.key, item.value)

theorem lasts_iff : item.Lasts now ↔
    ∀ deadline, item.deadline = some deadline → now ≤ deadline := by
  unfold Lasts read
  cases item.deadline with
  | none => exact ⟨fun _ _ => nofun, fun _ => rfl⟩
  | some deadline =>
      simp only [Option.some.injEq, forall_eq']
      split_ifs with passed
      · exact iff_of_false nofun (not_le_of_gt passed)
      · exact iff_of_true rfl (le_of_not_gt passed)

theorem lasts_earlier {later : Nanoseconds} (passes : now ≤ later) (lasts : item.Lasts later) :
    item.Lasts now :=
  lasts_iff.mpr fun deadline given => passes.trans (lasts_iff.mp lasts deadline given)

theorem error_of_not_lasts (expired : ¬item.Lasts now) :
    ∃ failure, item.read now = .error failure := by
  cases read : item.read now with
  | error failure => exact ⟨failure, rfl⟩
  | ok entry =>
      rw [eq_of_read read] at read
      exact (expired read).elim

/-- Where no key is listed twice, no other item has the key of an item. -/
theorem others_apart {before after : List Listed}
    (distinct : ((before ++ item :: after).map Listed.key).Nodup) :
    ∀ other ∈ before ++ after, other.key ≠ item.key := by
  rw [List.map_append, List.map_cons, List.nodup_middle, List.nodup_cons, ← List.map_append]
    at distinct
  exact fun other among same => distinct.1 (same ▸ List.mem_map_of_mem among)

end Listed

namespace Expiring

theorem lookup_assign (key other : Octets) (written : Written)
    (entries : List (Octets × Written)) :
    (assign key written entries).lookup other =
      if other = key then some written else entries.lookup other := by
  induction entries with
  | nil =>
      by_cases same : other = key
      · simp [assign, same]
      · simp [assign, List.lookup_cons, same, beq_false_of_ne same]
  | cons first rest ih =>
      obtain ⟨held, old⟩ := first
      by_cases here : held = key
      · subst here
        by_cases same : other = held
        · simp [assign, same]
        · simp [assign, List.lookup_cons, same, beq_false_of_ne same]
      · rw [assign, if_neg here, List.lookup_cons, List.lookup_cons, ih]
        by_cases found : other = held
        · subst found
          simp [here]
        · simp [beq_false_of_ne found]

/-- What a key reads as at an instant. -/
def shows (now : Nanoseconds) (key : Octets) (store : Expiring) : Option Octets :=
  ((store.entry? key).filter fun written => !store.hasExpired now written).map Written.value

theorem get_shows (now : Nanoseconds) (key : Octets) (store : Expiring) :
    (store.get now key).1 = store.shows now key := by
  unfold get shows
  cases store.entry? key with
  | none => rfl
  | some written =>
      cases expired : store.hasExpired now written with
      | true => simp [expired]
      | false => simp [expired]

theorem shows_put (now : Nanoseconds) (key other value : Octets) (store : Expiring) :
    (store.put now key value).shows now other =
      if other = key then some value else store.shows now other := by
  have fresh : (store.put now key value).hasExpired now ⟨value, now⟩ = false := by
    simp [hasExpired]
  unfold shows
  rw [show entry? other (store.put now key value) =
    if other = key then some ⟨value, now⟩ else store.entry? other from lookup_assign _ _ _ _]
  split_ifs
  · simp [fresh]
  · rfl

/-- Reading a key does not change what keys read as. -/
theorem shows_get (now : Nanoseconds) (key other : Octets) (store : Expiring) :
    (store.get now key).2.shows now other = store.shows now other := by
  unfold get
  cases found : store.entry? key with
  | none => rfl
  | some written =>
      cases expired : store.hasExpired now written with
      | false => simp [expired]
      | true =>
          simp only [expired, if_true]
          unfold shows
          rw [show entry? other (store.erase key) =
            if other = key then none else store.entry? other from lookup_without _ _ _]
          split_ifs with same
          · subst same
            simp [found, expired]
          · rfl

end Expiring

namespace Store

/-- A store whose entries expire with time, and not for want of room. -/
def Timed : Store → Prop
  | .expiring _ => True
  | .adaptive _ => False

variable {store : Store}

theorem get_put (timed : store.Timed) (now : Nanoseconds) (key other value : Octets) :
    ((store.put now key value).get now other).1 =
      if other = key then some value else (store.get now other).1 := by
  cases store with
  | expiring held =>
      simp only [put, get, Expiring.get_shows]
      exact Expiring.shows_put now key other value held
  | adaptive cache => exact timed.elim

theorem get_get (timed : store.Timed) (now : Nanoseconds) (key other : Octets) :
    ((store.get now key).2.get now other).1 = (store.get now other).1 := by
  cases store with
  | expiring held =>
      simp only [get, Expiring.get_shows]
      exact Expiring.shows_get now key other held
  | adaptive cache => exact timed.elim

theorem put_timed (timed : store.Timed) (now : Nanoseconds) (key value : Octets) :
    (store.put now key value).Timed := by
  cases store with
  | expiring held => trivial
  | adaptive cache => exact timed.elim

theorem get_timed (timed : store.Timed) (now : Nanoseconds) (key : Octets) :
    (store.get now key).2.Timed := by
  cases store with
  | expiring held => trivial
  | adaptive cache => exact timed.elim

end Store
end XorOverlay
