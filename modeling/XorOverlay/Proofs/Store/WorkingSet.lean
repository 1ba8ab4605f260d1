import Mathlib
import XorOverlay.Proofs.Store.Recall

/-!
A working set in an adaptive cache. As long as no ghost returns, the aim for the recent list stays
zero, so every victim comes from that list while anything is on it; and if fewer keys are ever read
again than there are places, something is on it whenever the cache is full. A key that is read goes
to the frequent list and stays there, however many keys pass by that are written once.
-/

namespace XorOverlay

set_option autoImplicit false

namespace Adaptive

section Evicting

variable {cache : Adaptive}

/-- A recent list longer than its aim gives the victim. -/
theorem evict_frequent (longer : cache.aim < cache.recent.length) (returning : Bool) :
    (cache.evict returning).frequent = cache.frequent := by
  have choice : cache.evictsRecent returning = true := by
    simp [evictsRecent, longer, Nat.zero_lt_of_lt longer]
  unfold evict
  simp only [choice, if_true]
  cases cache.recent.getLast? with
  | none => rfl
  | some victim => rfl

theorem make_room_frequent (unbiased : cache.aim = 0)
    (few : cache.frequent.length < cache.capacity) (returning : Bool) :
    (cache.makeRoom returning).frequent = cache.frequent := by
  unfold makeRoom
  split_ifs with full
  · apply evict_frequent
    unfold size at full
    omega
  · rfl

variable {key : Octets}

/-- A key that is neither resident nor a ghost comes to the recent list. -/
theorem put_new (absent : key ∉ cache.keys) (gone : key ∉ cache.ghosts) (value : Octets) :
    cache.put key value = { cache.makeRoom false with
      recent := touch key value (cache.makeRoom false).recent } := by
  have stranger : ¬(mentions key cache.recent || mentions key cache.frequent) = true :=
    fun resident => absent ((resident_iff key cache).mp resident)
  rw [ghosts, List.mem_append, not_or] at gone
  rw [put, if_neg stranger, if_neg (by simpa using gone.1), if_neg (by simpa using gone.2)]

/-- Below the capacity every entry stays beside a new one. -/
theorem put_keeps_entries (sound : cache.Sound) (absent : key ∉ cache.keys)
    (roomy : cache.size < cache.capacity) (value : Octets) :
    cache.entries ⊆ (cache.put key value).entries := by
  intro entry held
  cases put_admits sound key value with
  | again resident => exact (absent resident).elim
  | anew kept _ entries _ _ _ room =>
      rcases room with ⟨-, rfl⟩ | ⟨full, -⟩
      · exact entries.mem_iff.mpr (List.mem_cons_of_mem _ held)
      · exact (roomy.ne full).elim

/-- No write gives any other key a place that has none. -/
theorem put_places (sound : cache.Sound) (key value : Octets) :
    (cache.put key value).keys ++ (cache.put key value).ghosts ⊆
      key :: (cache.keys ++ cache.ghosts) := by
  have admits := put_admits sound key value
  intro other place
  rcases List.mem_append.mp place with resident | ghost
  · exact List.mem_cons.mpr ((admits.old_key resident).imp_right (List.mem_append_left _))
  · apply List.mem_cons_of_mem
    cases admits with
    | again _ _ same => exact List.mem_append_right _ (same ▸ ghost)
    | anew _ _ _ _ moved => exact moved.subset (List.mem_append_right _ ghost)

end Evicting

/-- A cache that serves a working set. Nothing has moved its aim, it has seen no key but the written
ones, it holds the whole set, and nothing else has ever been read again. -/
structure Serves (hot : List (Octets × Octets)) (written : List Octets) (cache : Adaptive) :
    Prop where
  sound : cache.Sound
  unbiased : cache.aim = 0
  known : cache.keys ++ cache.ghosts ⊆ written
  holds : hot ⊆ cache.entries
  frequent : cache.frequent ⊆ hot

namespace Serves

variable {hot : List (Octets × Octets)} {written : List Octets} {cache : Adaptive}
  {key value : Octets}

theorem empty (capacity : Nat) : Serves [] [] (empty capacity) :=
  ⟨empty_sound capacity, rfl, List.Subset.refl [], List.nil_subset _, List.Subset.refl []⟩

theorem absent (serves : Serves hot written cache) (new : key ∉ written) :
    key ∉ cache.keys ∧ key ∉ cache.ghosts :=
  ⟨fun held => new (serves.known (List.mem_append_left _ held)),
    fun held => new (serves.known (List.mem_append_right _ held))⟩

theorem put_known (serves : Serves hot written cache) (key value : Octets) :
    (cache.put key value).keys ++ (cache.put key value).ghosts ⊆ written ++ [key] := by
  intro place held
  have old := put_places serves.sound key value held
  have known := @serves.known place
  simp only [List.mem_cons, List.mem_append, List.not_mem_nil, or_false] at old known ⊢
  tauto

theorem put_unbiased (serves : Serves hot written cache) (new : key ∉ written) (value : Octets) :
    (cache.put key value).aim = 0 := by
  obtain ⟨absent, gone⟩ := serves.absent new
  rw [put_new absent gone]
  simp [serves.unbiased]

/-- While there is room for all of it, the working set is written key by key. -/
theorem stock (serves : Serves hot written cache) (alone : cache.entries ⊆ hot)
    (few : hot.length < cache.capacity) (new : key ∉ written) (value : Octets) :
    Serves (hot ++ [(key, value)]) (written ++ [key]) (cache.put key value) ∧
      (cache.put key value).entries ⊆ hot ++ [(key, value)] := by
  have admits := put_admits serves.sound key value
  obtain ⟨absent, -⟩ := serves.absent new
  have roomy : cache.size < cache.capacity := by
    have size : cache.size = cache.entries.length := List.length_append.symm
    have bound := (serves.sound.entries_nodup.subperm alone).length_le
    omega
  have whole : (cache.put key value).entries ⊆ hot ++ [(key, value)] := by
    intro entry held
    rcases admits.old_entry held with rfl | ⟨old, -⟩
    · simp
    · exact List.mem_append_left _ (alone old)
  have resident : hot ++ [(key, value)] ⊆ (cache.put key value).entries := by
    intro entry among
    rcases List.mem_append.mp among with earlier | latest
    · exact put_keeps_entries serves.sound absent roomy value (serves.holds earlier)
    · obtain rfl := List.mem_singleton.mp latest
      exact admits.held
  refine ⟨⟨put_sound serves.sound key value, serves.put_unbiased new value,
    serves.put_known key value, resident, ?_⟩, whole⟩
  intro entry among
  exact whole (List.mem_append_right _ among)

/-- Reading a key of the working set brings it to the frequent list, and takes nothing else from
there. -/
theorem read (serves : Serves hot written cache) (among : (key, value) ∈ hot) :
    (cache.get key).1 = some value ∧ Serves hot written (cache.get key).2 ∧
      ∀ entry ∈ hot, entry ∈ cache.frequent ∨ entry.1 = key → entry ∈ (cache.get key).2.frequent := by
  have held := serves.holds among
  have resident := (resident_iff key cache).mpr (List.mem_map_of_mem held)
  have moved : cache.put key value = { cache with
      recent := without key cache.recent
      frequent := touch key value cache.frequent } := if_pos resident
  rw [get_resident serves.sound held]
  refine ⟨rfl, ⟨put_sound serves.sound key value, ?_, ?_, ?_, ?_⟩, ?_⟩
  · rw [moved]
    exact serves.unbiased
  · intro place there
    rcases List.mem_cons.mp (put_places serves.sound key value there) with rfl | old
    · exact serves.known (List.mem_append_left _ (List.mem_map_of_mem held))
    · exact serves.known old
  · intro entry hotter
    exact (mem_put_again serves.sound held entry).mpr (serves.holds hotter)
  · rw [moved]
    intro entry touched
    rcases List.mem_cons.mp touched with rfl | kept
    · exact among
    · exact serves.frequent (List.mem_filter.mp kept).1
  · rw [moved]
    intro entry hotter there
    by_cases same : entry.1 = key
    · rw [eq_of_key serves.sound (serves.holds hotter) held same]
      exact List.mem_cons_self
    · apply List.mem_cons_of_mem
      exact List.mem_filter.mpr ⟨there.resolve_right same, bne_iff_ne.mpr same⟩

/-- A working set that is all frequent loses nothing to a new key. -/
theorem pass (serves : Serves hot written cache) (settled : hot ⊆ cache.frequent)
    (few : hot.length < cache.capacity) (new : key ∉ written) (value : Octets) :
    Serves hot (written ++ [key]) (cache.put key value) ∧
      hot ⊆ (cache.put key value).frequent := by
  obtain ⟨absent, gone⟩ := serves.absent new
  have distinct : cache.frequent.Nodup := serves.sound.entries_nodup.of_append_right
  have small := (distinct.subperm serves.frequent).length_le
  have same : (cache.put key value).frequent = cache.frequent := by
    rw [put_new absent gone]
    exact make_room_frequent serves.unbiased (by omega) false
  have kept : hot ⊆ (cache.put key value).frequent := same ▸ settled
  refine ⟨⟨put_sound serves.sound key value, serves.put_unbiased new value,
    serves.put_known key value, ?_, same ▸ serves.frequent⟩, kept⟩
  intro entry among
  exact List.mem_append_right _ (kept among)

end Serves
end Adaptive

namespace Store

open Adaptive (Serves)

/-- One round of use: some readings, and one key written beside. -/
structure Round where
  reads : List Octets
  key : Octets
  value : Octets
  deriving DecidableEq

def Round.events (round : Round) : List Event :=
  round.reads.map .get ++ [.put round.key round.value]

/-- The working set is written key by key, and then used in rounds. -/
def churn (hot : List (Octets × Octets)) (rounds : List Round) : List Event :=
  (hot.map fun entry => .put entry.1 entry.2) ++ rounds.flatMap Round.events

/-- Whenever the events read a key, it reads as it stands among the entries. -/
def Moment.Answers (moment : Moment) (hot : List (Octets × Octets)) (events : List Event) : Prop :=
  ∀ before key later, events = before ++ .get key :: later →
    ∃ value, (key, value) ∈ hot ∧ (moment.after before).shown key = some value

variable {hot : List (Octets × Octets)} {written : List Octets}

theorem answers_cons {moment : Moment} {event : Event} {events : List Event} :
    moment.Answers hot (event :: events) ↔
      (∀ key, event = .get key → ∃ value, (key, value) ∈ hot ∧ moment.shown key = some value) ∧
        (moment.step event).Answers hot events := by
  constructor
  · intro answers
    refine ⟨?_, fun before key later split => ?_⟩
    · rintro key rfl
      exact answers [] key events rfl
    · exact answers (event :: before) key later (congrArg (List.cons event) split)
  · rintro ⟨first, rest⟩ before key later split
    cases before with
    | nil => exact first key (List.cons.inj split).1
    | cons other before =>
        obtain ⟨rfl, same⟩ := List.cons.inj split
        exact rest before key later same

theorem answers_nil (moment : Moment) : moment.Answers hot [] :=
  fun _ _ _ split => (List.append_ne_nil_of_right_ne_nil _ (List.cons_ne_nil _ _) split.symm).elim

theorem answers_append {moment : Moment} {first second : List Event}
    (answers : moment.Answers hot first) (others : (moment.after first).Answers hot second) :
    moment.Answers hot (first ++ second) := by
  induction first generalizing moment with
  | nil => exact others
  | cons event first ih =>
      obtain ⟨here, later⟩ := answers_cons.mp answers
      exact answers_cons.mpr ⟨here, ih later others⟩

theorem answers_writes (moment : Moment) (entries : List (Octets × Octets)) :
    moment.Answers hot (entries.map fun entry => .put entry.1 entry.2) := by
  induction entries generalizing moment with
  | nil => exact answers_nil moment
  | cons entry entries ih =>
      refine answers_cons.mpr ⟨?_, ih _⟩
      intro key reads
      cases reads

variable {capacity : Nat} {cache : Adaptive}

/-- A working set smaller than the cache is held as soon as it is written. -/
theorem stocked (start : Nanoseconds) (few : hot.length < capacity)
    (distinct : (hot.map Prod.fst).Nodup) :
    ∃ cache, (⟨start, .adaptive (.empty capacity)⟩ : Moment).after
        (hot.map fun entry => .put entry.1 entry.2) = ⟨start, .adaptive cache⟩ ∧
      cache.capacity = capacity ∧ Serves hot (hot.map Prod.fst) cache ∧ cache.entries ⊆ hot := by
  induction hot using List.reverseRecOn with
  | nil => exact ⟨_, rfl, max_eq_left few, Serves.empty capacity, List.Subset.refl []⟩
  | append_singleton hot entry ih =>
      rw [List.length_append, List.length_singleton] at few
      simp only [List.map_append, List.map_singleton] at distinct ⊢
      obtain ⟨cache, reached, size, serves, alone⟩ := ih (by omega) distinct.of_append_left
      have new : entry.1 ∉ hot.map Prod.fst := by
        simpa using List.disjoint_of_nodup_append distinct
      obtain ⟨stocked, whole⟩ := serves.stock alone (by omega) new entry.2
      refine ⟨cache.put entry.1 entry.2, ?_, ?_, stocked, whole⟩
      · rw [Moment.after_append, reached]
        rfl
      · rw [Adaptive.put_capacity, size]

/-- Readings of the working set are answered, and leave all that they read on the frequent list. -/
theorem reads_answered (now : Nanoseconds) (serves : Serves hot written cache)
    (reads : List Octets) (inside : ∀ key ∈ reads, key ∈ hot.map Prod.fst) :
    ∃ next, (⟨now, .adaptive cache⟩ : Moment).after (reads.map .get) = ⟨now, .adaptive next⟩ ∧
      next.capacity = cache.capacity ∧ Serves hot written next ∧
      (∀ entry ∈ hot, entry ∈ cache.frequent ∨ entry.1 ∈ reads → entry ∈ next.frequent) ∧
      (⟨now, .adaptive cache⟩ : Moment).Answers hot (reads.map .get) := by
  induction reads generalizing cache with
  | nil =>
      refine ⟨cache, rfl, rfl, serves, ?_, answers_nil _⟩
      intro entry _ there
      exact there.resolve_right List.not_mem_nil
  | cons key reads ih =>
      obtain ⟨⟨_, value⟩, among, rfl⟩ := List.mem_map.mp (inside key List.mem_cons_self)
      obtain ⟨shown, kept, touched⟩ := serves.read among
      obtain ⟨next, reached, size, last, settled, answers⟩ :=
        ih kept fun other later => inside other (List.mem_cons_of_mem _ later)
      refine ⟨next, reached, size.trans (Adaptive.get_capacity _ cache), last, ?_, ?_⟩
      · intro entry hotter there
        apply settled entry hotter
        rcases there with frequent | read
        · exact Or.inl (touched entry hotter (Or.inl frequent))
        · rcases List.mem_cons.mp read with same | later
          · exact Or.inl (touched entry hotter (Or.inr same))
          · exact Or.inr later
      · refine answers_cons.mpr ⟨?_, answers⟩
        rintro _ ⟨⟩
        exact ⟨value, among, shown⟩

/-- In a round that reads the whole working set, all of it is frequent by the time the new key
comes. -/
theorem round_answered (now : Nanoseconds) (serves : Serves hot written cache)
    (few : hot.length < cache.capacity) (round : Round)
    (whole : ∀ key, key ∈ round.reads ↔ key ∈ hot.map Prod.fst)
    (new : round.key ∉ written) :
    ∃ next, (⟨now, .adaptive cache⟩ : Moment).after round.events = ⟨now, .adaptive next⟩ ∧
      next.capacity = cache.capacity ∧ Serves hot (written ++ [round.key]) next ∧
      (⟨now, .adaptive cache⟩ : Moment).Answers hot round.events := by
  obtain ⟨read, reached, size, kept, settled, answers⟩ :=
    reads_answered now serves round.reads fun key => (whole key).mp
  have frequent : hot ⊆ read.frequent := fun entry among =>
    settled entry among (Or.inr ((whole entry.1).mpr (List.mem_map_of_mem among)))
  obtain ⟨passed, -⟩ := kept.pass frequent (by omega) new round.value
  refine ⟨read.put round.key round.value, ?_, ?_, passed, ?_⟩
  · rw [Round.events, Moment.after_append, reached]
    rfl
  · rw [Adaptive.put_capacity, size]
  · exact answers_append answers (answers_writes _ [(round.key, round.value)])

theorem churn_concat (hot : List (Octets × Octets)) (rounds : List Round) (round : Round) :
    churn hot (rounds ++ [round]) = churn hot rounds ++ round.events := by
  simp [churn]

theorem churn_answered (start : Nanoseconds) (rounds : List Round) (few : hot.length < capacity)
    (distinct : (hot.map Prod.fst ++ rounds.map Round.key).Nodup)
    (whole : ∀ round ∈ rounds, ∀ key, key ∈ round.reads ↔ key ∈ hot.map Prod.fst) :
    ∃ cache, (⟨start, .adaptive (.empty capacity)⟩ : Moment).after (churn hot rounds) =
        ⟨start, .adaptive cache⟩ ∧
      cache.capacity = capacity ∧
      Serves hot (hot.map Prod.fst ++ rounds.map Round.key) cache ∧
      (⟨start, .adaptive (.empty capacity)⟩ : Moment).Answers hot (churn hot rounds) := by
  induction rounds using List.reverseRecOn with
  | nil =>
      rw [List.map_nil, List.append_nil] at distinct ⊢
      obtain ⟨cache, reached, size, serves, -⟩ := stocked start few distinct
      rw [churn, List.flatMap_nil, List.append_nil]
      exact ⟨cache, reached, size, serves, answers_writes _ hot⟩
  | append_singleton rounds round ih =>
      rw [List.map_append, List.map_singleton, ← List.append_assoc] at distinct ⊢
      obtain ⟨cache, reached, size, serves, answers⟩ := ih distinct.of_append_left
        fun other earlier => whole other (List.mem_append_left _ earlier)
      have new : round.key ∉ hot.map Prod.fst ++ rounds.map Round.key := by
        simpa using List.disjoint_of_nodup_append distinct
      obtain ⟨next, stepped, same, passed, others⟩ := round_answered start serves (by omega)
        round (whole round (List.mem_append_right _ List.mem_cons_self)) new
      rw [churn_concat, Moment.after_append, reached]
      exact ⟨next, stepped, same.trans size, passed, answers_append answers (reached ▸ others)⟩

/-- A working set of fewer keys than a cache has places survives any churn. Once its keys are
written, each round reads all of them, in any order and as often as it likes, and then writes one key
that was never written before; every reading answers with what was written, and after the last round
the whole set can still be read. -/
theorem working_set_survives_churn (capacity : Nat) (start : Nanoseconds)
    (hot : List (Octets × Octets)) (rounds : List Round) (few : hot.length < capacity)
    (distinct : (hot.map Prod.fst ++ rounds.map Round.key).Nodup)
    (whole : ∀ round ∈ rounds, ∀ key, key ∈ round.reads ↔ key ∈ hot.map Prod.fst) :
    let fresh : Moment := ⟨start, .adaptive (.empty capacity)⟩
    (∀ before key later, churn hot rounds = before ++ .get key :: later →
      ∃ value, (key, value) ∈ hot ∧ (fresh.after before).shown key = some value) ∧
    ∀ key value, (key, value) ∈ hot →
      (fresh.after (churn hot rounds)).shown key = some value := by
  obtain ⟨cache, reached, -, serves, answers⟩ :=
    churn_answered start rounds few distinct whole
  refine ⟨answers, ?_⟩
  intro key value among
  rw [reached]
  exact (serves.read among).1

/-- Two keys in a cache of three, one with an empty value. Four others pass by, the first two of them
through the one place that is left. -/
theorem two_keys_outlast_four :
    let hot : List (Octets × Octets) := [([1], [10]), ([2], [])]
    let rounds : List Round := [⟨[[2], [1]], [3], [30]⟩, ⟨[[1], [2], [1]], [4], [40]⟩,
      ⟨[[2], [1]], [5], []⟩, ⟨[[1], [2]], [6], [60]⟩]
    let fresh : Moment := ⟨0, .adaptive (.empty 3)⟩
    hot.length < 3 ∧ (hot.map Prod.fst ++ rounds.map Round.key).Nodup ∧
      (∀ round ∈ rounds, ∀ key, key ∈ round.reads ↔ key ∈ hot.map Prod.fst) ∧
      (fresh.after (churn hot rounds)).residents = [[6], [2], [1]] ∧
      (∃ value, ([1], value) ∈ hot ∧
        (fresh.after (churn hot (rounds.take 3))).shown [1] = some value) ∧
      (fresh.after (churn hot rounds)).shown [2] = some [] := by
  intro hot rounds fresh
  have few : hot.length < 3 := by decide
  have distinct : (hot.map Prod.fst ++ rounds.map Round.key).Nodup := by decide
  have whole : ∀ round ∈ rounds, ∀ key, key ∈ round.reads ↔ key ∈ hot.map Prod.fst := by
    intro round among key
    simp only [rounds, List.mem_cons, List.not_mem_nil, or_false] at among
    rcases among with rfl | rfl | rfl | rfl <;> simp [hot] <;> tauto
  obtain ⟨answers, kept⟩ := working_set_survives_churn 3 0 hot rounds few distinct whole
  exact ⟨few, distinct, whole, by decide, answers (churn hot (rounds.take 3)) [1] _ rfl,
    kept [2] [] (by decide)⟩

end Store
end XorOverlay
