import Mathlib
import XorOverlay.Proofs.Store.Timeline
import XorOverlay.Proofs.Entries

/-!
Where an adaptive cache keeps its keys. Every key has one place at most, among the entries or
among the ghosts, and neither grows beyond the capacity. A write puts its key among the entries in
one of two ways. A resident key is only moved. Any other key is added, and when the cache is full
one victim leaves its place among the entries for one among the ghosts; the ghosts are trimmed
before a returning frequent ghost is taken from them, so they may have lost it by then.
-/

namespace XorOverlay

set_option autoImplicit false

namespace Adaptive

def keys (cache : Adaptive) : List Octets :=
  cache.entries.map Prod.fst

def ghosts (cache : Adaptive) : List Octets :=
  cache.recentGhosts ++ cache.frequentGhosts

theorem size_eq (cache : Adaptive) : cache.size = cache.keys.length := by
  simp [size, keys, entries]

theorem keys_eq (cache : Adaptive) :
    cache.keys = cache.recent.map Prod.fst ++ cache.frequent.map Prod.fst :=
  List.map_append

theorem mentions_iff (key : Octets) (entries : List (Octets × Octets)) :
    mentions key entries = true ↔ key ∈ entries.map Prod.fst := by
  simp [mentions, List.lookup_isSome_iff]

theorem lookup_absent {key : Octets} {entries : List (Octets × Octets)}
    (absent : key ∉ entries.map Prod.fst) : entries.lookup key = none := by
  rw [← mentions_iff, mentions, Option.isSome_iff_ne_none, not_not] at absent
  exact absent

theorem without_absent {key : Octets} {entries : List (Octets × Octets)}
    (absent : key ∉ entries.map Prod.fst) : without key entries = entries := by
  refine List.filter_eq_self.mpr fun entry held => bne_iff_ne.mpr fun same => absent ?_
  exact same ▸ List.mem_map_of_mem held

theorem keys_without (key : Octets) (entries : List (Octets × Octets)) :
    (without key entries).map Prod.fst =
      (entries.map Prod.fst).filter fun other => other != key := by
  rw [List.filter_map]
  rfl

/-- Taking a key out of a list without repetitions and putting it back at the front changes the
order alone. -/
theorem moved_to_front {key : Octets} {keys : List Octets} (distinct : keys.Nodup)
    (held : key ∈ keys) : (key :: keys.filter fun other => other != key).Perm keys := by
  rw [← distinct.erase_eq_filter]
  exact (List.perm_cons_erase held).symm

theorem haunt_sublist (key : Octets) (ghosts : List Octets) :
    (haunt key ghosts).Sublist (key :: ghosts) :=
  List.filter_sublist.cons_cons key

theorem trim_ghosts_sublist (cache : Adaptive) :
    cache.trimGhosts.ghosts.Sublist cache.ghosts :=
  (List.take_sublist _ _).append (List.take_sublist _ _)

theorem trim_ghosts_few (cache : Adaptive) :
    cache.trimGhosts.ghosts.length ≤ cache.capacity := by
  simp only [trimGhosts, ghosts, List.length_append, List.length_take]
  omega

/-- What an eviction does to a cache: one entry leaves, and its key joins the ghosts. -/
structure Evicts (cache next : Adaptive) (victim : Octets × Octets) : Prop where
  entries : cache.entries.Perm (victim :: next.entries)
  ghosts : next.ghosts.Subperm (victim.1 :: cache.ghosts)
  recent : next.recentGhosts ⊆ victim.1 :: cache.recentGhosts
  few : next.ghosts.length ≤ cache.capacity

theorem evicts_recent {cache : Adaptive} (returning : Bool)
    (choice : cache.evictsRecent returning = true) :
    ∃ victim, Evicts cache (cache.evict returning) victim := by
  cases last : cache.recent.getLast? with
  | none =>
      have empty := List.getLast?_eq_none_iff.mp last
      simp [evictsRecent, empty] at choice
  | some victim =>
      obtain ⟨kept, recent⟩ := List.getLast?_eq_some_iff.mp last
      refine ⟨victim, ?_⟩
      simp only [evict, choice, if_true, last]
      refine ⟨?_, ?_, ?_, trim_ghosts_few _⟩
      · simp [Adaptive.entries, trimGhosts, recent]
      · exact ((trim_ghosts_sublist _).trans
          ((haunt_sublist victim.1 _).append (List.Sublist.refl _))).subperm
      · exact ((List.take_sublist _ _).trans (haunt_sublist victim.1 _)).subset

theorem evicts_frequent {cache : Adaptive} (returning : Bool) (holds : 0 < cache.size)
    (choice : cache.evictsRecent returning = false) :
    ∃ victim, Evicts cache (cache.evict returning) victim := by
  cases last : cache.frequent.getLast? with
  | none =>
      have empty := List.getLast?_eq_none_iff.mp last
      simp only [size, empty, List.length_nil, Nat.add_zero] at holds
      simp [evictsRecent, empty, holds] at choice
  | some victim =>
      obtain ⟨kept, frequent⟩ := List.getLast?_eq_some_iff.mp last
      refine ⟨victim, ?_⟩
      simp only [evict, choice, Bool.false_eq_true, if_false, last]
      refine ⟨?_, ?_, ?_, trim_ghosts_few _⟩
      · simp only [Adaptive.entries, trimGhosts, frequent, List.dropLast_concat,
          ← List.append_assoc]
        exact List.perm_append_singleton victim (cache.recent ++ kept)
      · exact ((trim_ghosts_sublist _).trans ((List.Sublist.refl _).append
          (haunt_sublist victim.1 _))).subperm.trans List.perm_middle.subperm
      · exact ((List.take_sublist _ _).trans (List.sublist_cons_self _ _)).subset

theorem evicts {cache : Adaptive} (returning : Bool) (holds : 0 < cache.size) :
    ∃ victim, Evicts cache (cache.evict returning) victim := by
  cases choice : cache.evictsRecent returning with
  | true => exact evicts_recent returning choice
  | false => exact evicts_frequent returning holds choice

@[simp] theorem evict_capacity (returning : Bool) (cache : Adaptive) :
    (cache.evict returning).capacity = cache.capacity := by
  unfold evict trimGhosts
  split_ifs <;> split <;> rfl

@[simp] theorem evict_aim (returning : Bool) (cache : Adaptive) :
    (cache.evict returning).aim = cache.aim := by
  unfold evict trimGhosts
  split_ifs <;> split <;> rfl

@[simp] theorem make_room_capacity (returning : Bool) (cache : Adaptive) :
    (cache.makeRoom returning).capacity = cache.capacity := by
  unfold makeRoom
  split_ifs <;> simp

@[simp] theorem make_room_aim (returning : Bool) (cache : Adaptive) :
    (cache.makeRoom returning).aim = cache.aim := by
  unfold makeRoom
  split_ifs <;> simp

/-- The order a cache keeps: it has room for something, no key has two places, and no part outgrows
the capacity. -/
structure Sound (cache : Adaptive) : Prop where
  room : 0 < cache.capacity
  distinct : (cache.keys ++ cache.ghosts).Nodup
  fits : cache.size ≤ cache.capacity
  few : cache.ghosts.length ≤ cache.capacity
  aimed : cache.aim ≤ cache.capacity

theorem Sound.keys_nodup {cache : Adaptive} (sound : cache.Sound) : cache.keys.Nodup :=
  (List.nodup_append'.mp sound.distinct).1

theorem Sound.entries_nodup {cache : Adaptive} (sound : cache.Sound) : cache.entries.Nodup :=
  sound.keys_nodup.of_map

theorem empty_sound (capacity : Nat) : (empty capacity).Sound :=
  ⟨lt_max_of_lt_right Nat.zero_lt_one, List.nodup_nil, Nat.zero_le _, Nat.zero_le _,
    Nat.zero_le _⟩

section MakingRoom

variable (cache : Adaptive) (room : 0 < cache.capacity) (fits : cache.size ≤ cache.capacity)
  (returning : Bool)
include room fits

/-- Nothing happens while there is room, and one eviction otherwise. -/
theorem make_room_cases :
    (cache.size < cache.capacity ∧ cache.makeRoom returning = cache) ∨
      (cache.size = cache.capacity ∧
        ∃ victim, Evicts cache (cache.makeRoom returning) victim) := by
  rcases lt_or_eq_of_le fits with roomy | full
  · exact Or.inl ⟨roomy, if_neg (Nat.not_le.mpr roomy)⟩
  · rw [makeRoom, if_pos (ge_of_eq full)]
    exact Or.inr ⟨full, evicts returning (full ▸ room)⟩

theorem make_room_keys : (cache.makeRoom returning).keys ⊆ cache.keys := by
  rcases make_room_cases cache room fits returning with ⟨-, same⟩ | ⟨-, victim, evicts⟩
  · rw [same]
    exact List.Subset.refl _
  · exact ((List.sublist_cons_self _ _).subperm.trans
      (evicts.entries.map Prod.fst).symm.subperm).subset

variable {key : Octets} (absent : key ∉ cache.keys)
include absent

/-- The victim of an eviction is not the key that room is made for. -/
theorem make_room_absent (gone : key ∉ cache.ghosts) :
    key ∉ (cache.makeRoom returning).ghosts := by
  rcases make_room_cases cache room fits returning with ⟨-, same⟩ | ⟨-, victim, evicts⟩
  · rwa [same]
  · intro ghost
    rcases List.mem_cons.mp (evicts.ghosts.subset ghost) with rfl | old
    · exact absent (List.mem_map_of_mem (evicts.entries.mem_iff.mpr List.mem_cons_self))
    · exact gone old

theorem make_room_absent_recent (gone : key ∉ cache.recentGhosts) :
    key ∉ (cache.makeRoom returning).recentGhosts := by
  rcases make_room_cases cache room fits returning with ⟨-, same⟩ | ⟨-, victim, evicts⟩
  · rwa [same]
  · intro ghost
    rcases List.mem_cons.mp (evicts.recent ghost) with rfl | old
    · exact absent (List.mem_map_of_mem (evicts.entries.mem_iff.mpr List.mem_cons_self))
    · exact gone old

end MakingRoom

/-- What a write does to a cache. The key was there and its entry moved, or it was not and its
entry is new; then what is kept beside it is everything, or in a full cache everything but a
victim. -/
inductive Admits (key value : Octets) (cache next : Adaptive) : Prop
  | again (resident : key ∈ cache.keys)
      (entries : next.entries.Perm ((key, value) :: without key cache.entries))
      (ghosts : next.ghosts = cache.ghosts)
  | anew (kept : List (Octets × Octets)) (absent : key ∉ cache.keys)
      (entries : next.entries.Perm ((key, value) :: kept))
      (gone : key ∉ next.ghosts)
      (moved : (kept.map Prod.fst ++ next.ghosts).Subperm (cache.keys ++ cache.ghosts))
      (few : next.ghosts.length ≤ cache.capacity)
      (room : (cache.size < cache.capacity ∧ kept = cache.entries) ∨
        (cache.size = cache.capacity ∧ ∃ victim, cache.entries.Perm (victim :: kept)))

/-- Writing an absent key comes after a change of the aim and of the ghosts, and after making
room. -/
theorem admits_anew {key value : Octets} {cache next : Adaptive} (aimed : Adaptive)
    (returning : Bool) (sound : cache.Sound) (absent : key ∉ cache.keys)
    (capacity : aimed.capacity = cache.capacity) (same : aimed.entries = cache.entries)
    (fewer : aimed.ghosts.Subperm cache.ghosts)
    (entries : next.entries.Perm ((key, value) :: (aimed.makeRoom returning).entries))
    (ghosts : next.ghosts.Subperm (aimed.makeRoom returning).ghosts)
    (gone : key ∉ next.ghosts) : Admits key value cache next := by
  have keys : aimed.keys = cache.keys := congrArg (List.map Prod.fst) same
  have size : aimed.size = cache.size := by rw [size_eq, size_eq, keys]
  rcases make_room_cases aimed (capacity ▸ sound.room) (size ▸ capacity ▸ sound.fits)
    returning with
    ⟨roomy, unchanged⟩ | ⟨full, victim, evicts⟩
  · rw [unchanged] at entries ghosts
    rw [size, capacity] at roomy
    refine .anew aimed.entries absent entries gone ?_ ?_ (Or.inl ⟨roomy, same⟩)
    · exact (keys ▸ List.Subperm.refl _ : aimed.keys.Subperm cache.keys).append
        (ghosts.trans fewer)
    · exact (ghosts.trans fewer).length_le.trans sound.few
  · rw [size, capacity] at full
    refine .anew _ absent entries gone ?_ ?_ (Or.inr ⟨full, victim, same ▸ evicts.entries⟩)
    · have haunted : next.ghosts.Subperm (victim.1 :: cache.ghosts) :=
        (ghosts.trans evicts.ghosts).trans ((List.subperm_cons _).mpr fewer)
      have left : cache.keys.Perm (victim.1 :: (aimed.makeRoom returning).keys) :=
        keys ▸ evicts.entries.map Prod.fst
      exact ((List.Subperm.refl _).append haunted).trans
        (List.perm_middle.trans (left.symm.append_right cache.ghosts)).subperm
    · exact ghosts.length_le.trans (capacity ▸ evicts.few)

theorem touch_absent {key : Octets} {entries : List (Octets × Octets)}
    (absent : key ∉ entries.map Prod.fst) (value : Octets) :
    touch key value entries = (key, value) :: entries :=
  congrArg (List.cons (key, value)) (without_absent absent)

theorem resident_iff (key : Octets) (cache : Adaptive) :
    (mentions key cache.recent || mentions key cache.frequent) = true ↔ key ∈ cache.keys := by
  rw [Bool.or_eq_true, mentions_iff, mentions_iff, keys_eq, List.mem_append]

/-- An absent key comes to a resident list as one more entry. -/
theorem touch_frequent {key : Octets} {cache : Adaptive} (absent : key ∉ cache.keys)
    (value : Octets) :
    (cache.recent ++ touch key value cache.frequent).Perm ((key, value) :: cache.entries) := by
  rw [keys_eq, List.mem_append, not_or] at absent
  rw [touch_absent absent.2]
  exact List.perm_middle

theorem touch_recent {key : Octets} {cache : Adaptive} (absent : key ∉ cache.keys)
    (value : Octets) :
    touch key value cache.recent ++ cache.frequent = (key, value) :: cache.entries := by
  rw [keys_eq, List.mem_append, not_or] at absent
  rw [touch_absent absent.1]
  rfl

theorem put_admits {cache : Adaptive} (sound : cache.Sound) (key value : Octets) :
    Admits key value cache (cache.put key value) := by
  unfold put
  split_ifs with resident recent frequent
  · refine .again ((resident_iff key cache).mp resident) ?_ rfl
    rw [entries, entries, without, without, List.filter_append]
    exact List.perm_middle
  all_goals
    have absent : key ∉ cache.keys := fun held => resident ((resident_iff key cache).mpr held)
  · -- a recent ghost leaves the ghosts before room is made
    have ghost : key ∈ cache.recentGhosts := List.contains_iff_mem.mp recent
    have other : key ∉ cache.frequentGhosts := fun twice =>
      List.disjoint_of_nodup_append (List.nodup_append'.mp sound.distinct).2.1 ghost twice
    let aimed : Adaptive := { cache with
      aim := min (cache.aim + stride cache.recentGhosts cache.frequentGhosts) cache.capacity
      recentGhosts := cache.recentGhosts.filter fun held => held != key }
    have unhaunted : key ∉ aimed.ghosts := by simp [aimed, ghosts, other]
    have fresh : key ∉ (aimed.makeRoom false).keys := fun held =>
      absent (make_room_keys aimed sound.room sound.fits false held)
    exact admits_anew aimed false sound absent rfl rfl
      (List.filter_sublist.append (List.Sublist.refl _)).subperm (touch_frequent fresh value)
      (List.Subperm.refl _)
      (make_room_absent aimed sound.room sound.fits false absent unhaunted)
  · -- a frequent ghost leaves them after, if it is still there
    have other : key ∉ cache.recentGhosts := fun ghost =>
      recent (List.contains_iff_mem.mpr ghost)
    let aimed : Adaptive := { cache with
      aim := cache.aim - stride cache.frequentGhosts cache.recentGhosts }
    have unhaunted : key ∉ (aimed.makeRoom true).recentGhosts :=
      make_room_absent_recent aimed sound.room sound.fits true absent other
    have fresh : key ∉ (aimed.makeRoom true).keys := fun held =>
      absent (make_room_keys aimed sound.room sound.fits true held)
    refine admits_anew aimed true sound absent rfl rfl (List.Subperm.refl _)
      (touch_frequent fresh value) ((List.Sublist.refl _).append List.filter_sublist).subperm ?_
    exact fun ghost => (List.mem_append.mp ghost).elim unhaunted
      fun left => bne_iff_ne.mp (List.mem_filter.mp left).2 rfl
  · have unhaunted : key ∉ cache.ghosts := fun ghost =>
      (List.mem_append.mp ghost).elim (fun held => recent (List.contains_iff_mem.mpr held))
        (fun held => frequent (List.contains_iff_mem.mpr held))
    have fresh : key ∉ (cache.makeRoom false).keys := fun held =>
      absent (make_room_keys cache sound.room sound.fits false held)
    exact admits_anew cache false sound absent rfl rfl (List.Subperm.refl _)
      (.of_eq (touch_recent fresh value)) (List.Subperm.refl _)
      (make_room_absent cache sound.room sound.fits false absent unhaunted)

@[simp] theorem put_capacity (key value : Octets) (cache : Adaptive) :
    (cache.put key value).capacity = cache.capacity := by
  unfold put
  split_ifs <;> simp

theorem put_aim {cache : Adaptive} (aimed : cache.aim ≤ cache.capacity) (key value : Octets) :
    (cache.put key value).aim ≤ cache.capacity := by
  unfold put
  split_ifs
  · exact aimed
  · rw [make_room_aim]
    exact min_le_right _ _
  · rw [make_room_aim]
    exact (Nat.sub_le _ _).trans aimed
  · rw [make_room_aim]
    exact aimed

theorem kept_old {cache : Adaptive} {kept : List (Octets × Octets)}
    (room : (cache.size < cache.capacity ∧ kept = cache.entries) ∨
      (cache.size = cache.capacity ∧ ∃ victim, cache.entries.Perm (victim :: kept))) :
    kept ⊆ cache.entries := by
  rcases room with ⟨-, rfl⟩ | ⟨-, victim, split⟩
  · exact List.Subset.refl _
  · exact fun entry stays => split.mem_iff.mpr (List.mem_cons_of_mem _ stays)

namespace Admits

variable {key value : Octets} {cache next : Adaptive} (admits : Admits key value cache next)
include admits

theorem held : (key, value) ∈ next.entries := by
  cases admits with
  | again resident entries ghosts => exact entries.mem_iff.mpr List.mem_cons_self
  | anew kept absent entries gone moved few room =>
      exact entries.mem_iff.mpr List.mem_cons_self

/-- Every other entry was there before. -/
theorem old_entry {entry : Octets × Octets} (listed : entry ∈ next.entries) :
    entry = (key, value) ∨ (entry ∈ cache.entries ∧ entry.1 ≠ key) := by
  cases admits with
  | again resident entries ghosts =>
      refine (List.mem_cons.mp (entries.mem_iff.mp listed)).imp_right fun kept => ?_
      exact ⟨(List.mem_filter.mp kept).1, bne_iff_ne.mp (List.mem_filter.mp kept).2⟩
  | anew kept absent entries gone moved few room =>
      refine (List.mem_cons.mp (entries.mem_iff.mp listed)).imp_right fun stays => ?_
      have old := kept_old room stays
      exact ⟨old, fun same => absent (same ▸ List.mem_map_of_mem old)⟩

theorem old_key {other : Octets} (listed : other ∈ next.keys) :
    other = key ∨ other ∈ cache.keys := by
  obtain ⟨entry, held, rfl⟩ := List.mem_map.mp listed
  rcases admits.old_entry held with rfl | ⟨old, -⟩
  · exact Or.inl rfl
  · exact Or.inr (List.mem_map_of_mem old)

/-- Below the capacity nothing is lost. -/
theorem keys_anew (absent : key ∉ cache.keys) (roomy : cache.size < cache.capacity) :
    next.keys.Perm (key :: cache.keys) := by
  cases admits with
  | again resident entries ghosts => exact (absent resident).elim
  | anew kept absent entries gone moved few room =>
      rcases room with ⟨-, rfl⟩ | ⟨full, -⟩
      · exact entries.map Prod.fst
      · exact (roomy.ne full).elim

/-- In a full cache one victim makes room. -/
theorem keys_full (absent : key ∉ cache.keys) (full : cache.size = cache.capacity) :
    ∃ victim kept, cache.keys.Perm (victim :: kept) ∧ next.keys.Perm (key :: kept) := by
  cases admits with
  | again resident entries ghosts => exact (absent resident).elim
  | anew kept absent entries gone moved few room =>
      rcases room with ⟨roomy, -⟩ | ⟨-, victim, split⟩
      · exact (roomy.ne full).elim
      · exact ⟨victim.1, kept.map Prod.fst, split.map Prod.fst, entries.map Prod.fst⟩

variable (sound : cache.Sound)
include sound

/-- Writing a resident key leaves the residents what they were. -/
theorem keys_again (resident : key ∈ cache.keys) : next.keys.Perm cache.keys := by
  cases admits with
  | again resident entries ghosts =>
      have moved := entries.map Prod.fst
      rw [List.map_cons, keys_without] at moved
      exact moved.trans (moved_to_front sound.keys_nodup resident)
  | anew kept absent entries gone moved few room => exact (absent resident).elim

theorem size_next : next.size =
    if key ∈ cache.keys then cache.size else min (cache.size + 1) cache.capacity := by
  rw [size_eq]
  split_ifs with resident
  · rw [(admits.keys_again sound resident).length_eq, size_eq]
  · rcases lt_or_eq_of_le sound.fits with roomy | full
    · rw [(admits.keys_anew resident roomy).length_eq, List.length_cons, ← size_eq,
        min_eq_left (Nat.succ_le_of_lt roomy)]
    · obtain ⟨victim, kept, before, after⟩ := admits.keys_full resident full
      have size := before.length_eq
      rw [← size_eq, full, List.length_cons] at size
      rw [after.length_eq, List.length_cons, full, ← size, min_eq_right (Nat.le_succ _)]

theorem sound_next (capacity : next.capacity = cache.capacity)
    (aimed : next.aim ≤ cache.capacity) : next.Sound := by
  have fits : next.size ≤ cache.capacity := by
    rw [admits.size_next sound]
    split_ifs
    · exact sound.fits
    · exact min_le_right _ _
  have order : (next.keys ++ next.ghosts).Nodup ∧ next.ghosts.length ≤ cache.capacity := by
    cases admits with
    | again resident entries ghosts =>
        have same := (Admits.again resident entries ghosts).keys_again sound resident
        rw [ghosts]
        exact ⟨(same.append_right _).nodup_iff.mpr sound.distinct, sound.few⟩
    | anew kept absent entries gone moved few room =>
        have fresh : key ∉ kept.map Prod.fst ++ next.ghosts := by
          rw [List.mem_append, not_or]
          refine ⟨fun stays => absent ?_, gone⟩
          exact List.map_subset Prod.fst (kept_old room) stays
        obtain ⟨order, same, part⟩ := moved
        exact ⟨((entries.map Prod.fst).append_right _).nodup_iff.mpr (List.nodup_cons.mpr
          ⟨fresh, same.nodup_iff.mp (sound.distinct.sublist part)⟩), few⟩
  exact ⟨capacity ▸ sound.room, order.1, capacity ▸ fits, capacity ▸ order.2, capacity ▸ aimed⟩

end Admits

theorem put_sound {cache : Adaptive} (sound : cache.Sound) (key value : Octets) :
    (cache.put key value).Sound :=
  (put_admits sound key value).sound_next sound (put_capacity key value cache)
    (put_aim sound.aimed key value)

/-- No key has two entries. -/
theorem eq_of_key {cache : Adaptive} (sound : cache.Sound) {entry other : Octets × Octets}
    (listed : entry ∈ cache.entries) (held : other ∈ cache.entries) (same : entry.1 = other.1) :
    entry = other :=
  List.inj_on_of_nodup_map sound.keys_nodup listed held same

/-- Writing what is there already only moves it. -/
theorem mem_put_again {cache : Adaptive} (sound : cache.Sound) {key value : Octets}
    (held : (key, value) ∈ cache.entries) (entry : Octets × Octets) :
    entry ∈ (cache.put key value).entries ↔ entry ∈ cache.entries := by
  cases put_admits sound key value with
  | anew kept absent => exact (absent (List.mem_map_of_mem held)).elim
  | again _ moved _ =>
      rw [moved.mem_iff, List.mem_cons, without, List.mem_filter, bne_iff_ne]
      constructor
      · rintro (rfl | ⟨kept, -⟩)
        · exact held
        · exact kept
      · intro kept
        by_cases same : entry.1 = key
        · exact Or.inl (eq_of_key sound kept held same)
        · exact Or.inr ⟨kept, same⟩

theorem get_absent {cache : Adaptive} {key : Octets} (absent : key ∉ cache.keys) :
    cache.get key = (none, cache) := by
  rw [keys_eq, List.mem_append, not_or] at absent
  rw [get, lookup_absent absent.1, lookup_absent absent.2]

/-- Reading a resident key does what writing its value again would do. -/
theorem get_resident {cache : Adaptive} (sound : cache.Sound) {key value : Octets}
    (held : (key, value) ∈ cache.entries) :
    cache.get key = (some value, cache.put key value) := by
  have found : cache.entries.lookup key = some value :=
    (lookup_iff_mem sound.keys_nodup key value).mpr held
  have resident := (resident_iff key cache).mpr (List.mem_map_of_mem held)
  rw [put, if_pos resident, get]
  rw [entries, List.lookup_append] at found
  cases recent : cache.recent.lookup key with
  | some shown =>
      rw [recent, Option.some_or] at found
      obtain rfl := Option.some.inj found
      rfl
  | none =>
      rw [recent, Option.none_or] at found
      have absent : key ∉ cache.recent.map Prod.fst := by
        rw [← mentions_iff]
        simp [mentions, recent]
      rw [found, without_absent absent]

end Adaptive
end XorOverlay
