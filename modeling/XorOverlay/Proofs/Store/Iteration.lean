import Mathlib
import XorOverlay.Proofs.Store.Lifetime

/-!
Reading a listing of an expiring store item by item while the store lives on. The items are those that
had not expired when the listing was opened, as they were then; nothing that is written, read, swept
or forgotten later shows in them. Only the clock does: an item that has outlived its entry by the
time it is read is refused.
-/

namespace XorOverlay

set_option autoImplicit false

namespace Store

/-- What happens while a listing is read: something to the store, or the next reading. -/
inductive Act where
  | meanwhile (event : Event)
  | next
  deriving DecidableEq

/-- A listing being read: the store and its clock, the items still to come, and what was read so far
with the instants of the readings. -/
structure Iteration where
  moment : Moment
  unread : List Listed
  log : List (Nanoseconds × Except Failure (Octets × Octets))

namespace Iteration

/-- There is nothing to read beyond the last item. -/
def act (iteration : Iteration) : Act → Iteration
  | .meanwhile event => { iteration with moment := iteration.moment.step event }
  | .next =>
    match iteration.unread with
    | [] => iteration
    | item :: rest =>
      { iteration with
        unread := rest
        log := iteration.log ++ [(iteration.moment.now, item.read iteration.moment.now)] }

def after (acts : List Act) (iteration : Iteration) : Iteration :=
  acts.foldl act iteration

/-- With a reading for each item, all are read, each once and at an instant of its own. -/
theorem after_reads (acts : List Act) (iteration : Iteration)
    (enough : iteration.unread.length ≤ acts.count .next) :
    (iteration.after acts).unread = [] ∧ ∃ log,
      (iteration.after acts).log = iteration.log ++ log ∧
      List.Forall₂ (fun (item : Listed) reading => reading.2 = item.read reading.1)
        iteration.unread log := by
  induction acts generalizing iteration with
  | nil =>
      have none : iteration.unread = [] := List.length_eq_zero_iff.mp (Nat.le_zero.mp enough)
      refine ⟨none, [], (List.append_nil _).symm, ?_⟩
      rw [none]
      exact List.Forall₂.nil
  | cons act acts ih =>
      cases act with
      | meanwhile event =>
          rw [List.count_cons_of_ne (by simp)] at enough
          exact ih _ enough
      | next =>
          rw [List.count_cons_self] at enough
          obtain ⟨moment, unread, log⟩ := iteration
          cases unread with
          | nil => exact ih _ (Nat.zero_le _)
          | cons item rest =>
              obtain ⟨done, later, logged, read⟩ := ih
                ⟨moment, rest, log ++ [(moment.now, item.read moment.now)]⟩
                (Nat.le_of_succ_le_succ enough)
              refine ⟨done, (moment.now, item.read moment.now) :: later, ?_,
                List.Forall₂.cons rfl read⟩
              exact logged.trans (List.append_cons _ _ _).symm

end Iteration
end Store

namespace Expiring

/-- An item of a listing is readable as long as its entry is no older than the lifetime. -/
theorem read_item (now : Nanoseconds) (store : Expiring) (key : Octets) (written : Written) :
    Listed.read now ⟨key, written.value, some (written.instant + store.lifetime)⟩ =
      if now - written.instant ≤ store.lifetime then .ok (key, written.value)
      else .error .expired := by
  unfold Listed.read
  dsimp only
  split_ifs with passed young young
  · exact absurd (Nat.sub_le_iff_le_add'.mp young) (not_le_of_gt passed)
  · rfl
  · rfl
  · exact absurd (Nat.sub_le_iff_le_add'.mpr (le_of_not_gt passed)) young

end Expiring

namespace Store

/-- However a listing is ordered, and whatever happens to the store before and between the readings,
reading it to its end gives one answer for each entry that had not expired when it was opened, and
nothing more: the key with the value it had then, as long as the entry is no older than the lifetime
when it is read, and the refusal of an expired entry after that. -/
theorem iteration_reads_opening (lifetime start : Nanoseconds) (history : List Event) :
    let opened := (⟨start, .expiring (.empty lifetime)⟩ : Moment).after history
    ∃ held, opened.store = .expiring held ∧ (held.entries.map Prod.fst).Nodup ∧
      ∀ items acts, items.Perm (opened.store.listing opened.now) →
        items.length ≤ acts.count .next →
        let ended := Iteration.after acts ⟨opened, items, []⟩
        ended.unread = [] ∧ ∃ entries : List (Octets × Written),
          entries.Perm (held.entries.filter fun entry =>
            decide (opened.now - entry.2.instant ≤ lifetime)) ∧
          List.Forall₂ (fun entry reading => reading.2 =
              if reading.1 - entry.2.instant ≤ lifetime then .ok (entry.1, entry.2.value)
              else .error .expired) entries ended.log := by
  intro opened
  obtain ⟨held, reached, faithful⟩ := faithful_after lifetime start history
  have store : opened.store = .expiring held := congrArg Moment.store reached
  refine ⟨held, store, faithful.distinct, fun items acts order enough => ?_⟩
  obtain ⟨done, log, logged, read⟩ := Iteration.after_reads acts ⟨opened, items, []⟩ enough
  refine ⟨done, ?_⟩
  obtain rfl := faithful.lifetime_eq
  simp only [Expiring.lasting_eq]
  -- the items are the lasting entries, in the order in which the listing came
  have listing : opened.store.listing opened.now = held.listing opened.now := by
    rw [store]
    rfl
  rw [listing] at order
  obtain ⟨entries, rfl, same⟩ := (congrFun₂ (List.eq_map_comp_perm _) items _).mpr order
  refine ⟨entries, same, ?_⟩
  rw [List.forall₂_map_left_iff] at read
  rw [logged]
  refine read.imp fun entry reading answer => ?_
  rw [answer, Expiring.read_item]

/-- A lifetime of three. Of two entries in a listing one is written again before it is read, and shows
as it was; the other is forgotten by a sweep before its turn comes, and has expired by then. -/
theorem one_item_outlives_its_turn :
    let history : List Event := [.put [7] [1], .wait 2, .put [8] [2], .wait 1]
    let acts : List Act := [.meanwhile (.put [8] [3]), .meanwhile (.wait 2), .meanwhile .cull, .next,
      .meanwhile (.get [7]), .next, .next]
    let opened := (⟨5, .expiring (.empty 3)⟩ : Moment).after history
    let items : List Listed := [⟨[8], [2], some 10⟩, ⟨[7], [1], some 8⟩]
    let ended := Iteration.after acts ⟨opened, items, []⟩
    items.Perm (opened.store.listing opened.now) ∧ items.length ≤ acts.count .next ∧
      ended.unread = [] ∧ ended.log = [(10, .ok ([8], [2])), (10, .error .expired)] ∧
      ∃ entries : List (Octets × Written), List.Forall₂ (fun entry reading => reading.2 =
          if reading.1 - entry.2.instant ≤ 3 then .ok (entry.1, entry.2.value)
          else .error .expired) entries ended.log := by
  intro history acts opened items ended
  have order : items.Perm (opened.store.listing opened.now) := by decide
  have enough : items.length ≤ acts.count .next := by decide
  obtain ⟨_, -, -, reads⟩ := iteration_reads_opening 3 5 history
  obtain ⟨done, entries, -, answers⟩ := reads items acts order enough
  exact ⟨order, enough, done, rfl, entries, answers⟩

end Store
end XorOverlay
