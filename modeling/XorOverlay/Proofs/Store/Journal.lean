import Mathlib
import XorOverlay.Proofs.Store.Lifetime

/-!
The journal of an expiring store. Every write is entered in it under its instant, reading forgets
entries without striking them out, and a sweep drops whole pages. All the while every entry stands on
the page of its own instant, and that page is dropped only once the entry has expired; so a sweep
that reads nothing but the dropped pages comes upon every expired entry, and takes no other.
-/

namespace XorOverlay

set_option autoImplicit false

namespace Expiring

variable {store : Expiring} {now : Nanoseconds} {key : Octets}

section Pages

variable (now : Nanoseconds) (key : Octets) (journal : List (Nanoseconds × List Octets))

theorem enter_names : ∃ keys, (now, keys) ∈ enter now key journal ∧ key ∈ keys := by
  induction journal with
  | nil => exact ⟨[key], by simp [enter]⟩
  | cons page journal ih =>
      obtain ⟨instant, held⟩ := page
      rw [enter]
      split_ifs with same before
      · subst same
        exact ⟨held ++ [key], by simp⟩
      · exact ⟨[key], by simp⟩
      · obtain ⟨keys, there, named⟩ := ih
        exact ⟨keys, List.mem_cons_of_mem _ there, named⟩

/-- A page is only ever added to. -/
theorem enter_keeps {instant : Nanoseconds} {keys : List Octets}
    (there : (instant, keys) ∈ journal) :
    ∃ more, (instant, more) ∈ enter now key journal ∧ keys ⊆ more := by
  induction journal with
  | nil => cases there
  | cons page journal ih =>
      obtain ⟨first, held⟩ := page
      rw [enter]
      rcases List.mem_cons.mp there with same | later
      · obtain ⟨rfl, rfl⟩ := Prod.mk.inj same
        split_ifs with same before
        · exact ⟨keys ++ [key], List.mem_cons_self, List.subset_append_left _ _⟩
        · exact ⟨keys, by simp, List.Subset.refl _⟩
        · exact ⟨keys, by simp, List.Subset.refl _⟩
      · split_ifs with same before
        · exact ⟨keys, List.mem_cons_of_mem _ later, List.Subset.refl _⟩
        · exact ⟨keys, List.mem_cons_of_mem _ (List.mem_cons_of_mem _ later), List.Subset.refl _⟩
        · obtain ⟨more, kept, part⟩ := ih later
          exact ⟨more, List.mem_cons_of_mem _ kept, part⟩

theorem instants_enter {instant : Nanoseconds}
    (there : instant ∈ (enter now key journal).map Prod.fst) :
    instant = now ∨ instant ∈ journal.map Prod.fst := by
  induction journal with
  | nil => simpa [enter] using there
  | cons page journal ih =>
      obtain ⟨first, held⟩ := page
      rw [enter] at there
      split_ifs at there with same before
      · exact Or.inr there
      · simpa using there
      · rw [List.map_cons, List.mem_cons] at there ⊢
        rcases there with rfl | later
        · exact Or.inr (Or.inl rfl)
        · exact (ih later).imp_right Or.inr

theorem enter_ascends (ascending : (journal.map Prod.fst).Pairwise (· < ·)) :
    ((enter now key journal).map Prod.fst).Pairwise (· < ·) := by
  induction journal with
  | nil => simp [enter]
  | cons page journal ih =>
      obtain ⟨first, held⟩ := page
      rw [enter]
      split_ifs with same before
      · exact ascending
      · rw [List.map_cons, List.pairwise_cons]
        refine ⟨?_, ascending⟩
        intro later there
        rw [List.map_cons, List.pairwise_cons] at ascending
        rcases List.mem_cons.mp there with rfl | further
        · exact before
        · exact before.trans (ascending.1 later further)
      · rw [List.map_cons, List.pairwise_cons] at ascending ⊢
        refine ⟨?_, ih ascending.2⟩
        intro later there
        rcases instants_enter now key journal there with rfl | further
        · exact lt_of_le_of_ne (not_lt.mp before) same
        · exact ascending.1 later further

end Pages

/-- In a store without repeated keys, looking at a key takes its entry if that has expired, and no
other. -/
theorem erase_expired_entries (distinct : store.Distinct) (now : Nanoseconds) (key : Octets) :
    (store.eraseExpired now key).entries =
      store.entries.filter fun entry => !(entry.1 == key && store.hasExpired now entry.2) := by
  have own : ∀ entry ∈ store.entries, entry.1 = key → store.entry? key = some entry.2 := by
    rintro ⟨_, written⟩ held rfl
    exact (entry_iff_mem distinct _ written).mpr held
  unfold eraseExpired
  split
  · next written found =>
      cases expired : store.hasExpired now written with
      | true =>
          rw [if_pos rfl]
          refine List.filter_congr fun entry held => ?_
          by_cases same : entry.1 = key
          · have twin := Option.some.inj ((own entry held same).symm.trans found)
            simp [same, twin, expired]
          · simp [bne, beq_false_of_ne same]
      | false =>
          rw [if_neg Bool.false_ne_true]
          refine (List.filter_eq_self.mpr fun entry held => ?_).symm
          by_cases same : entry.1 = key
          · have twin := Option.some.inj ((own entry held same).symm.trans found)
            simp [twin, expired]
          · simp [same]
  · next missing =>
      refine (List.filter_eq_self.mpr fun entry held => ?_).symm
      have apart : entry.1 ≠ key := fun same => by
        cases (own entry held same).symm.trans missing
      simp [apart]

theorem erase_expired_journal (now : Nanoseconds) (store : Expiring) (key : Octets) :
    (store.eraseExpired now key).journal = store.journal := by
  unfold eraseExpired
  split
  · split_ifs <;> rfl
  · rfl

theorem erase_all_expired (distinct : store.Distinct) (now : Nanoseconds) (keys : List Octets) :
    (keys.foldl (eraseExpired now) store).entries = store.entries.filter
        (fun entry => !(keys.contains entry.1 && store.hasExpired now entry.2)) ∧
      (keys.foldl (eraseExpired now) store).journal = store.journal := by
  induction keys generalizing store with
  | nil => simp
  | cons key keys ih =>
      have cleared := erase_expired_cleared now key store
      obtain ⟨entries, journal⟩ := ih (cleared.distinct distinct)
      rw [List.foldl_cons, entries, journal, erase_expired_journal]
      refine ⟨?_, rfl⟩
      rw [erase_expired_entries distinct, List.filter_filter]
      refine List.filter_congr fun entry _ => ?_
      unfold hasExpired
      rw [cleared.lifetime]
      grind

/-- Once the clock has run for a lifetime, a sweep drops the pages before it and looks at the keys that
they name. -/
theorem cull_late (distinct : store.Distinct) (late : ¬now < store.lifetime) :
    let dropped := store.journal.filter fun page => decide (page.1 < now - store.lifetime)
    (store.cull now).entries = store.entries.filter (fun entry =>
        !((dropped.flatMap Prod.snd).contains entry.1 && store.hasExpired now entry.2)) ∧
      (store.cull now).journal =
        store.journal.filter (fun page => !decide (page.1 < now - store.lifetime)) := by
  intro dropped
  rw [cull, if_neg late]
  dsimp only
  rw [List.partition_eq_filter_filter]
  exact erase_all_expired (show Distinct { store with journal := store.journal.filter _ } from distinct)
    now (dropped.flatMap Prod.snd)

/-- No key has two entries and no instant two pages, and every entry stands on the page of its
instant. -/
structure Journaled (lifetime : Nanoseconds) (store : Expiring) : Prop where
  lifetime_eq : store.lifetime = lifetime
  distinct : store.Distinct
  ascending : (store.journal.map Prod.fst).Pairwise (· < ·)
  named : ∀ entry ∈ store.entries,
    ∃ keys, (entry.2.instant, keys) ∈ store.journal ∧ entry.1 ∈ keys

namespace Journaled

variable {lifetime : Nanoseconds}

theorem empty (lifetime : Nanoseconds) : Journaled lifetime (empty lifetime) :=
  ⟨rfl, List.nodup_nil, List.Pairwise.nil, fun _ held => (List.not_mem_nil held).elim⟩

variable (journaled : Journaled lifetime store)
include journaled

theorem put (now : Nanoseconds) (key value : Octets) :
    Journaled lifetime (store.put now key value) := by
  refine ⟨journaled.lifetime_eq, put_distinct journaled.distinct now key value,
    enter_ascends now key store.journal journaled.ascending, ?_⟩
  intro entry held
  rcases mem_assign held with rfl | old
  · exact enter_names now key store.journal
  · obtain ⟨keys, there, named⟩ := journaled.named entry old
    obtain ⟨more, kept, part⟩ := enter_keeps now key store.journal there
    exact ⟨more, kept, part named⟩

theorem get (now : Nanoseconds) (key : Octets) : Journaled lifetime (store.get now key).2 := by
  have cleared := get_cleared now key store
  have same : (store.get now key).2.journal = store.journal ∧
      (store.get now key).2.entries ⊆ store.entries := by
    unfold Expiring.get
    split
    · exact ⟨rfl, List.Subset.refl _⟩
    · split_ifs
      · exact ⟨rfl, List.filter_subset_self _⟩
      · exact ⟨rfl, List.Subset.refl _⟩
  refine ⟨cleared.lifetime.trans journaled.lifetime_eq, cleared.distinct journaled.distinct, ?_,
    ?_⟩
  · rw [same.1]
    exact journaled.ascending
  · intro entry held
    rw [same.1]
    exact journaled.named entry (same.2 held)

/-- A sweep takes just what has expired, and just the pages on which nothing else can stand. -/
theorem swept (now : Nanoseconds) :
    (store.cull now).entries =
        store.entries.filter (fun entry => decide (now - entry.2.instant ≤ lifetime)) ∧
      (store.cull now).journal =
        store.journal.filter (fun page => decide (now ≤ page.1 + lifetime)) := by
  obtain ⟨rfl, distinct, -, named⟩ := journaled
  by_cases early : now < store.lifetime
  · rw [cull, if_pos early]
    constructor
    · refine (List.filter_eq_self.mpr fun entry _ => decide_eq_true ?_).symm
      exact (Nat.sub_le _ _).trans early.le
    · refine (List.filter_eq_self.mpr fun page _ => decide_eq_true ?_).symm
      exact early.le.trans (Nat.le_add_left _ _)
  · obtain ⟨entries, journal⟩ := cull_late distinct early
    rw [entries, journal]
    constructor
    · refine List.filter_congr fun entry held => ?_
      rw [lasting_eq]
      cases expired : store.hasExpired now entry.2 with
      | false => simp
      | true =>
          obtain ⟨keys, there, on⟩ := named entry held
          have old : entry.2.instant < now - store.lifetime :=
            Nat.lt_sub_of_add_lt ((expired_iff now store entry.2).mp expired)
          have met : entry.1 ∈ (store.journal.filter fun page =>
              decide (page.1 < now - store.lifetime)).flatMap Prod.snd :=
            List.mem_flatMap.mpr ⟨_, List.mem_filter.mpr ⟨there, decide_eq_true old⟩, on⟩
          simp [met]
    · refine List.filter_congr fun page _ => ?_
      rw [← decide_not]
      exact decide_eq_decide.mpr (not_lt.trans Nat.sub_le_iff_le_add)

theorem cull (now : Nanoseconds) : Journaled lifetime (store.cull now) := by
  obtain ⟨entries, journal⟩ := journaled.swept now
  have cleared := cull_cleared now store
  refine ⟨cleared.lifetime.trans journaled.lifetime_eq, cleared.distinct journaled.distinct, ?_,
    ?_⟩
  · rw [journal]
    exact journaled.ascending.sublist (List.filter_sublist.map Prod.fst)
  · intro entry held
    rw [entries, List.mem_filter, decide_eq_true_eq] at held
    obtain ⟨keys, there, named⟩ := journaled.named entry held.1
    rw [journal]
    exact ⟨keys, List.mem_filter.mpr ⟨there, decide_eq_true (Nat.sub_le_iff_le_add'.mp held.2)⟩, named⟩

end Journaled
end Expiring

namespace Store

open Expiring (Journaled)

theorem journaled_step {lifetime now : Nanoseconds} {held : Expiring}
    (journaled : Journaled lifetime held) (event : Event) :
    ∃ next, ((⟨now, .expiring held⟩ : Moment).step event).store = .expiring next ∧
      Journaled lifetime next := by
  cases event with
  | put key value => exact ⟨_, rfl, journaled.put now key value⟩
  | get key => exact ⟨_, rfl, journaled.get now key⟩
  | list => exact ⟨_, rfl, journaled⟩
  | cull => exact ⟨_, rfl, journaled.cull now⟩
  | wait duration => exact ⟨_, rfl, journaled⟩

theorem journaled_after (lifetime start : Nanoseconds) (events : List Event) :
    ∃ held, ((⟨start, .expiring (.empty lifetime)⟩ : Moment).after events).store =
        .expiring held ∧ Journaled lifetime held := by
  induction events using List.reverseRecOn with
  | nil => exact ⟨_, rfl, Journaled.empty lifetime⟩
  | append_singleton events event ih =>
      obtain ⟨held, reached, journaled⟩ := ih
      rw [Moment.after_concat]
      obtain ⟨next, stepped, kept⟩ := journaled_step journaled event
      refine ⟨next, ?_, kept⟩
      rw [← stepped, ← reached]

/-- At every point of every history each entry is named on the page of its instant. A sweep leaves of
the entries just those that are no older than the lifetime, and of the journal just the pages, as
they are, of the instants that no lifetime has passed since; before the clock has run for a lifetime
it takes nothing. -/
theorem sweeps_take_what_expired (lifetime start : Nanoseconds) (events : List Event) :
    let moment := (⟨start, .expiring (.empty lifetime)⟩ : Moment).after events
    ∃ held swept, moment.store = .expiring held ∧ (moment.step .cull).store = .expiring swept ∧
      (held.entries.map Prod.fst).Nodup ∧ (held.journal.map Prod.fst).Pairwise (· < ·) ∧
      (∀ key written, (key, written) ∈ held.entries →
        ∃ keys, (written.instant, keys) ∈ held.journal ∧ key ∈ keys) ∧
      swept.entries =
        held.entries.filter (fun entry => decide (moment.now - entry.2.instant ≤ lifetime)) ∧
      swept.journal = held.journal.filter (fun page => decide (moment.now ≤ page.1 + lifetime)) ∧
      (moment.now < lifetime → swept = held) := by
  intro moment
  obtain ⟨held, reached, journaled⟩ := journaled_after lifetime start events
  obtain ⟨entries, journal⟩ := journaled.swept moment.now
  refine ⟨held, held.cull moment.now, reached, ?_, journaled.distinct, journaled.ascending,
    fun key written listed => journaled.named (key, written) listed, entries, journal, ?_⟩
  · show moment.store.cull moment.now = .expiring (held.cull moment.now)
    rw [reached]
    rfl
  · intro early
    exact if_pos (journaled.lifetime_eq ▸ early)

/-- A lifetime of three. A key written again, one written once and too old, one at the very end of its
lifetime, and a younger one: the sweep takes the second of them, and the page that it and the first
were named on. -/
theorem sweep_takes_one_of_four :
    let events : List Event := [.put [7] [1], .put [6] [4], .wait 1, .put [9] [5], .wait 1,
      .put [7] [2], .put [8] [3], .wait 2]
    let moment := (⟨5, .expiring (.empty 3)⟩ : Moment).after events
    moment.now = 9 ∧ moment.residents = [[7], [9], [8]] ∧
      ∃ held swept, moment.store = .expiring held ∧ (moment.step .cull).store = .expiring swept ∧
        held.entries.length = 4 ∧ held.journal.map Prod.fst = [5, 6, 7] ∧
        swept.entries = held.entries.filter (fun entry => decide (9 - entry.2.instant ≤ 3)) ∧
        swept.journal = [(6, [[9]]), (7, [[7], [8]])] := by
  intro events moment
  obtain ⟨held, swept, reached, cleared, -, -, -, entries, -, -⟩ :=
    sweeps_take_what_expired 3 5 events
  refine ⟨by decide, by decide, held, swept, reached, cleared, ?_, ?_, entries, ?_⟩
  · obtain rfl := Store.expiring.inj reached
    decide
  · obtain rfl := Store.expiring.inj reached
    decide
  · obtain rfl := Store.expiring.inj cleared
    decide

end Store
end XorOverlay
