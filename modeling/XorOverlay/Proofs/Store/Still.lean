import Mathlib
import XorOverlay.Proofs.BigEndian
import XorOverlay.Proofs.Store.Instant

/-!
An expiring store while the clock stands still at its beginning. Nothing expires then: reading
changes nothing, and a key reads as it was last written. What is short enough for the wire when it
is written is so when it is listed.
-/

namespace XorOverlay

set_option autoImplicit false

/-- Short enough for a four-byte length. -/
def Octets.Short (bytes : Octets) : Prop :=
  bytes.length < 2 ^ 32

theorem Ident.short_octets (key : Ident) : key.octets.Short := by
  show key.octets.length < 2 ^ 32
  rw [key.length_octets]
  decide

namespace Expiring

theorem get_still (key : Octets) (store : Expiring) :
    store.get 0 key = ((store.entry? key).map Written.value, store) := by
  unfold get
  cases store.entry? key with
  | none => rfl
  | some written =>
      have fresh : store.hasExpired 0 written = false := by
        rw [hasExpired, Nat.zero_sub, decide_eq_false_iff_not]
        exact Nat.not_lt_zero _
      simp only [fresh]
      rfl

theorem mem_assign {key : Octets} {written : Written} {entries : List (Octets × Written)}
    {entry : Octets × Written} (held : entry ∈ assign key written entries) :
    entry = (key, written) ∨ entry ∈ entries := by
  induction entries with
  | nil => exact Or.inl (List.mem_singleton.mp held)
  | cons first rest ih =>
      rw [assign] at held
      split_ifs at held
      · rcases List.mem_cons.mp held with new | old
        · exact Or.inl new
        · exact Or.inr (List.mem_cons_of_mem _ old)
      · rcases List.mem_cons.mp held with rfl | later
        · exact Or.inr List.mem_cons_self
        · exact (ih later).imp id (List.mem_cons_of_mem _)

theorem erase_expired_subset (now : Nanoseconds) (store : Expiring) (key : Octets) :
    (store.eraseExpired now key).entries ⊆ store.entries := by
  unfold eraseExpired
  split
  · split_ifs
    · exact fun entry kept => List.mem_of_mem_filter kept
    · exact List.Subset.refl _
  · exact List.Subset.refl _

theorem erase_all_subset (now : Nanoseconds) (keys : List Octets) (store : Expiring) :
    (keys.foldl (eraseExpired now) store).entries ⊆ store.entries := by
  induction keys generalizing store with
  | nil => exact List.Subset.refl _
  | cons key keys ih =>
      exact List.Subset.trans (ih _) (erase_expired_subset now store key)

theorem cull_subset (now : Nanoseconds) (store : Expiring) :
    (store.cull now).entries ⊆ store.entries := by
  unfold cull
  split_ifs
  · exact List.Subset.refl _
  · exact erase_all_subset now _ _

theorem mem_of_lookup {key : Octets} {written : Written} {entries : List (Octets × Written)}
    (found : entries.lookup key = some written) : (key, written) ∈ entries := by
  induction entries with
  | nil => cases found
  | cons first rest ih =>
      rw [List.lookup_cons] at found
      split at found
      · next here =>
          rw [Option.some.inj found.symm, beq_iff_eq.mp here]
          exact List.mem_cons_self
      · exact List.mem_cons_of_mem _ (ih found)

end Expiring

namespace Store

/-- An expiring store whose keys and values are short enough for the wire. -/
def Slim : Store → Prop
  | .expiring store => ∀ entry ∈ store.entries, entry.1.Short ∧ entry.2.value.Short
  | .adaptive _ => False

variable {store : Store}

theorem empty_slim (lifetime : Nanoseconds) : (Store.expiring (Expiring.empty lifetime)).Slim :=
  fun _ held => (List.not_mem_nil held).elim

theorem get_unchanged (slim : store.Slim) (key : Octets) : (store.get 0 key).2 = store := by
  cases store with
  | expiring held =>
      rw [get, Expiring.get_still]
  | adaptive cache => exact slim.elim

theorem get_short (slim : store.Slim) {key value : Octets}
    (found : (store.get 0 key).1 = some value) : value.Short := by
  cases store with
  | expiring held =>
      rw [get, Expiring.get_still] at found
      obtain ⟨written, entry, rfl⟩ := Option.map_eq_some_iff.mp found
      exact (slim _ (Expiring.mem_of_lookup entry)).2
  | adaptive cache => exact slim.elim

theorem put_slim (slim : store.Slim) (now : Nanoseconds) {key value : Octets}
    (shortKey : key.Short) (shortValue : value.Short) : (store.put now key value).Slim := by
  cases store with
  | expiring held =>
      intro entry member
      rcases Expiring.mem_assign member with rfl | old
      · exact ⟨shortKey, shortValue⟩
      · exact slim entry old
  | adaptive cache => exact slim.elim

theorem cull_slim (slim : store.Slim) (now : Nanoseconds) : (store.cull now).Slim := by
  cases store with
  | expiring held => exact fun entry member => slim entry (Expiring.cull_subset now held member)
  | adaptive cache => exact slim.elim

theorem listing_short (slim : store.Slim) (now : Nanoseconds) :
    ∀ item ∈ store.listing now, item.key.Short ∧ item.value.Short := by
  cases store with
  | expiring held =>
      intro item listed
      obtain ⟨entry, kept, rfl⟩ := List.mem_map.mp listed
      exact slim entry (List.mem_of_mem_filter kept)
  | adaptive cache => exact slim.elim

theorem contents_short (slim : store.Slim) (now : Nanoseconds) :
    ∀ entry ∈ store.contents now, entry.1.Short ∧ entry.2.Short := by
  intro entry held
  obtain ⟨item, listed, rfl⟩ := List.mem_map.mp held
  exact listing_short slim now item listed

theorem timed_of_slim (slim : store.Slim) : store.Timed := by
  cases store with
  | expiring held => trivial
  | adaptive cache => exact slim.elim

end Store
end XorOverlay
