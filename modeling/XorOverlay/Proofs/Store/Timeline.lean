import Mathlib
import XorOverlay.Store

/-!
A store in use. Writes, readings, listings, sweeps and waits come one after another, and all of
them but the listings may change what the store holds. Beside the store stands a ledger, which
knows of every key only its last write; nothing but writes and the clock moves it. What a store
may answer is said against the ledger.
-/

namespace XorOverlay

set_option autoImplicit false

namespace Store

/-- What happens to a store. -/
inductive Event where
  | put (key value : Octets)
  | get (key : Octets)
  | list
  | cull
  | wait (duration : Nanoseconds)
  deriving DecidableEq

namespace Event

/-- Writes and waits. The other events only ask. -/
def essential : Event → Bool
  | put _ _ => true
  | wait _ => true
  | _ => false

/-- The key an event writes. -/
def written? : Event → Option Octets
  | put key _ => some key
  | _ => none

end Event

/-- The keys written in the course of some events. -/
def keysWritten (events : List Event) : Finset Octets :=
  (events.filterMap Event.written?).toFinset

theorem keys_written_concat (events : List Event) (event : Event) :
    keysWritten (events ++ [event]) =
      event.written?.elim (keysWritten events) (insert · (keysWritten events)) := by
  unfold keysWritten
  rw [List.filterMap_append, List.toFinset_append]
  cases event with
  | put key value => exact (Finset.union_comm _ _).trans (Finset.insert_eq key _).symm
  | get key => exact Finset.union_empty _
  | list => exact Finset.union_empty _
  | cull => exact Finset.union_empty _
  | wait duration => exact Finset.union_empty _

/-- A store at an instant. -/
structure Moment where
  now : Nanoseconds
  store : Store
  deriving DecidableEq

namespace Moment

def step (moment : Moment) : Event → Moment
  | .put key value => { moment with store := moment.store.put moment.now key value }
  | .get key => { moment with store := (moment.store.get moment.now key).2 }
  | .list => moment
  | .cull => { moment with store := moment.store.cull moment.now }
  | .wait duration => { moment with now := moment.now + duration }

def after (events : List Event) (moment : Moment) : Moment :=
  events.foldl step moment

theorem after_concat (events : List Event) (event : Event) (moment : Moment) :
    moment.after (events ++ [event]) = (moment.after events).step event :=
  List.foldl_concat ..

theorem after_append (first second : List Event) (moment : Moment) :
    moment.after (first ++ second) = (moment.after first).after second :=
  List.foldl_append

/-- What reading a key answers. -/
def shown (key : Octets) (moment : Moment) : Option Octets :=
  (moment.store.get moment.now key).1

/-- The keys that a listing names. -/
def residents (moment : Moment) : List Octets :=
  (moment.store.contents moment.now).map Prod.fst

end Moment

/-- The time, and the last write of every key. -/
structure Ledger where
  now : Nanoseconds
  last : Octets → Option Written

namespace Ledger

def blank (start : Nanoseconds) : Ledger :=
  ⟨start, fun _ => none⟩

def step (ledger : Ledger) : Event → Ledger
  | .put key value =>
    { ledger with last := Function.update ledger.last key (some ⟨value, ledger.now⟩) }
  | .wait duration => { ledger with now := ledger.now + duration }
  | _ => ledger

def after (events : List Event) (ledger : Ledger) : Ledger :=
  events.foldl step ledger

theorem after_concat (events : List Event) (event : Event) (ledger : Ledger) :
    ledger.after (events ++ [event]) = (ledger.after events).step event :=
  List.foldl_concat ..

theorem step_idle {event : Event} (idle : event.essential = false) (ledger : Ledger) :
    ledger.step event = ledger := by
  cases event with
  | put key value => cases idle
  | wait duration => cases idle
  | get key => rfl
  | list => rfl
  | cull => rfl

/-- Events that only ask leave no trace in the ledger. -/
theorem after_essential (events : List Event) (ledger : Ledger) :
    ledger.after (events.filter Event.essential) = ledger.after events := by
  induction events generalizing ledger with
  | nil => rfl
  | cons event events ih =>
      cases asks : event.essential with
      | true =>
          rw [List.filter_cons_of_pos asks]
          exact ih _
      | false =>
          rw [List.filter_cons_of_neg (by simp [asks])]
          exact (ih _).trans (congrArg (after events) (step_idle asks ledger).symm)

end Ledger
end Store
end XorOverlay
