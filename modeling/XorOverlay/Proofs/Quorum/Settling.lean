import Mathlib
import XorOverlay.Proofs.Quorum.Bounds

/-!
Where the quorums of a node settle. A verdict that the network is unhealthy moves the read quorum one
up and the write quorum one down, a verdict that it is healthy the other way round, and floors,
ceilings and the overlap bend both moves. From wherever the quorums have got to, as many verdicts of
one kind in a row as there are replicas bring both to the end of their way, where more of them keep
them; what is recorded in between without a verdict moves neither.
-/

namespace XorOverlay.Quorum

set_option autoImplicit false

/-- What may happen to a controller: its events, and another interval between its adjustments. -/
inductive Turn where
  | event (event : Event)
  | pace (interval : Nanoseconds)
  deriving DecidableEq

namespace Moment

def turn (moment : Moment) : Turn → Moment
  | .event event => moment.step event
  | .pace interval => { moment with quorum := { moment.quorum with interval := interval } }

def afterTurns (turns : List Turn) (moment : Moment) : Moment :=
  turns.foldl turn moment

/-- Whether a recording finds the network unhealthy, answers taking longer than a second on average
or more than three failures outstanding. Within the interval it does not judge. -/
def verdict? (moment : Moment) : Turn → Option Bool
  | .event (.record latency success) =>
    let noted := moment.quorum.note latency success
    if moment.now - moment.quorum.adjustedAt < moment.quorum.interval then none
    else some (decide (seconds 1 < noted.meanLatency ∨ 3 < noted.failures))
  | _ => none

/-- The verdicts of a run, one for each recording that adjusts. -/
def verdicts (moment : Moment) : List Turn → List Bool
  | [] => []
  | turn :: turns => (moment.verdict? turn).toList ++ (moment.turn turn).verdicts turns

end Moment

variable {minRead minWrite replicas : Nat} {quorum next : Quorum}

/-- What an adjustment does to the quorums under a verdict. -/
structure Adjusts (unhealthy : Bool) (quorum next : Quorum) : Prop where
  read : next.read =
    if unhealthy then max (min (quorum.read + 1) (quorum.replicas - 1)) quorum.minRead
    else max (quorum.read - 1) quorum.minRead
  write : next.write = overlapping quorum.replicas next.read
    (if unhealthy then max (quorum.write - 1) quorum.minWrite
    else max (min (quorum.write + 1) (quorum.replicas - 1)) quorum.minWrite)

theorem adjust_adjusts (quorum : Quorum) : Adjusts quorum.unhealthy quorum quorum.adjust := by
  rw [adjust_eq]
  unfold proposed
  cases quorum.unhealthy with
  | true => exact ⟨rfl, rfl⟩
  | false => exact ⟨rfl, rfl⟩

theorem unhealthy_eq (quorum : Quorum) :
    quorum.unhealthy = decide (seconds 1 < quorum.meanLatency ∨ 3 < quorum.failures) :=
  (Bool.decide_or _ _).symm

theorem due_iff (now latency : Nanoseconds) (success : Bool) (quorum : Quorum) :
    (quorum.note latency success).due now = true ↔ ¬now - quorum.adjustedAt < quorum.interval :=
  decide_eq_true_iff.trans not_lt.symm

theorem judged_adjusts {moment : Moment} {turn : Turn} {verdict : Bool}
    (judged : moment.verdict? turn = some verdict) :
    Adjusts verdict moment.quorum (moment.turn turn).quorum := by
  match turn with
  | .event (.record latency success) =>
      unfold Moment.verdict? at judged
      dsimp only at judged
      split_ifs at judged with early
      obtain rfl := Option.some.inj judged
      have recorded : (moment.turn (.event (.record latency success))).quorum =
          { (moment.quorum.note latency success).adjust with adjustedAt := moment.now } :=
        if_pos ((due_iff _ _ _ _).mpr early)
      rw [recorded, ← unhealthy_eq]
      obtain ⟨read, write⟩ := adjust_adjusts (moment.quorum.note latency success)
      exact ⟨read, write⟩
  | .event (.wait _) => cases judged
  | .pace _ => cases judged

/-- Without a verdict both quorums stay what they are. -/
theorem unjudged_keeps {moment : Moment} {turn : Turn} (unjudged : moment.verdict? turn = none) :
    (moment.turn turn).quorum.read = moment.quorum.read ∧
      (moment.turn turn).quorum.write = moment.quorum.write := by
  match turn with
  | .event (.record latency success) =>
      unfold Moment.verdict? at unjudged
      dsimp only at unjudged
      split_ifs at unjudged with early
      have recorded : (moment.turn (.event (.record latency success))).quorum =
          moment.quorum.note latency success :=
        if_neg fun due => (due_iff _ _ _ _).mp due early
      rw [recorded]
      exact ⟨rfl, rfl⟩
  | .event (.wait _) => exact ⟨rfl, rfl⟩
  | .pace _ => exact ⟨rfl, rfl⟩

theorem turn_bounded {moment : Moment} (bounded : moment.quorum.Bounded minRead minWrite replicas)
    (turn : Turn) : (moment.turn turn).quorum.Bounded minRead minWrite replicas := by
  match turn with
  | .event (.record latency success) => exact record_bounded bounded moment.now latency success
  | .event (.wait _) => exact bounded
  | .pace _ => exact { bounded with }

theorem after_turns_bounded (turns : List Turn) {moment : Moment}
    (bounded : moment.quorum.Bounded minRead minWrite replicas) :
    (moment.afterTurns turns).quorum.Bounded minRead minWrite replicas := by
  induction turns generalizing moment with
  | nil => exact bounded
  | cons turn turns ih => exact ih (turn_bounded bounded turn)

theorem overlapping_eq_max (replicas read write : Nat) :
    overlapping replicas read write = max write (replicas + 1 - read) := by
  unfold overlapping
  split_ifs <;> omega

/-- How far some unhealthy verdicts in a row have brought the quorums: the read quorum has risen by
as many, and the write quorum has fallen by as many, or as far as it may. -/
structure Alarmed (minRead minWrite replicas count : Nat) (quorum : Quorum) : Prop where
  risen : min count (replicas - 1) ≤ quorum.read
  fallen : quorum.write ≤ max (max minWrite (replicas + 1 - quorum.read))
    (max (replicas + 1 - minRead) (max (replicas - 1) minWrite) - count)

/-- How far some healthy verdicts in a row have brought the quorums. -/
structure Reassured (minRead minWrite replicas count : Nat) (quorum : Quorum) : Prop where
  fallen : quorum.read ≤ max minRead (replicas - 1 - count)
  risen : min count (replicas - 1) ≤ quorum.write
  level : 0 < count → quorum.write ≤ max (max minWrite (replicas - 1)) (replicas + 1 - quorum.read)

section Moving

variable {count : Nat} (bounded : quorum.Bounded minRead minWrite replicas)
include bounded

theorem alarmed_from_anywhere : Alarmed minRead minWrite replicas 0 quorum :=
  ⟨by omega, le_max_of_le_right bounded.writeCeiling⟩

theorem reassured_from_anywhere : Reassured minRead minWrite replicas 0 quorum :=
  ⟨by have := bounded.readCeiling; omega, by omega, fun none => (lt_irrefl 0 none).elim⟩

theorem alarmed_further (alarmed : Alarmed minRead minWrite replicas count quorum)
    (adjusts : Adjusts true quorum next) : Alarmed minRead minWrite replicas (count + 1) next := by
  obtain ⟨read, write⟩ := adjusts
  obtain ⟨risen, fallen⟩ := alarmed
  obtain ⟨rfl, rfl, rfl, -, floor, -, -, -, -⟩ := bounded
  rw [overlapping_eq_max] at write
  simp only [if_true] at read write
  have near : next.read ≤ quorum.read + 1 :=
    read ▸ max_le (min_le_left _ _) (Nat.le_succ_of_le floor)
  constructor
  · have higher : min (count + 1) (quorum.replicas - 1) ≤ quorum.read + 1 := by
      clear read write fallen
      omega
    rw [read]
    exact le_max_of_le_left (le_min higher (min_le_right _ _))
  · rw [write]
    generalize max (quorum.replicas + 1 - quorum.minRead) _ = highest at fallen ⊢
    refine max_le (max_le ?_ (le_max_of_le_left (le_max_left _ _)))
      (le_max_of_le_left (le_max_right _ _))
    -- a read quorum that has risen by one demands one write less
    clear read write risen floor
    rw [le_max_iff, le_max_iff] at fallen ⊢
    omega

theorem reassured_further (reassured : Reassured minRead minWrite replicas count quorum)
    (adjusts : Adjusts false quorum next) :
    Reassured minRead minWrite replicas (count + 1) next := by
  obtain ⟨read, write⟩ := adjusts
  obtain ⟨fallen, risen, -⟩ := reassured
  obtain ⟨rfl, rfl, rfl, -, -, -, -, -, -⟩ := bounded
  rw [overlapping_eq_max] at write
  simp only [Bool.false_eq_true, if_false] at read write
  refine ⟨?_, ?_, fun _ => ?_⟩
  · rw [read]
    clear read write risen
    omega
  · have higher : min (count + 1) (quorum.replicas - 1) ≤ quorum.write + 1 := by
      clear read write fallen
      omega
    rw [write]
    exact le_max_of_le_left (le_max_of_le_left (le_min higher (min_le_right _ _)))
  · rw [write]
    refine max_le (max_le ?_ (le_max_of_le_left (le_max_left _ _))) (le_max_right _ _)
    exact (min_le_right _ _).trans (le_max_of_le_left (le_max_right _ _))

/-- As many unhealthy verdicts as there are replicas leave nothing to move. -/
theorem alarmed_settled (enough : replicas ≤ count) (positive : 0 < replicas)
    (alarmed : Alarmed minRead minWrite replicas count quorum) :
    quorum.read = max minRead (replicas - 1) ∧
      quorum.write = max minWrite (replicas + 1 - quorum.read) := by
  obtain ⟨risen, fallen⟩ := alarmed
  obtain ⟨-, -, -, overlap, readFloor, writeFloor, readCeiling, -, -⟩ := bounded
  constructor
  · omega
  · omega

theorem reassured_settled (enough : replicas ≤ count) (positive : 0 < replicas)
    (reassured : Reassured minRead minWrite replicas count quorum) :
    quorum.read = minRead ∧
      quorum.write = max minWrite (max (replicas - 1) (replicas + 1 - minRead)) := by
  obtain ⟨fallen, risen, level⟩ := reassured
  obtain ⟨-, -, -, overlap, readFloor, writeFloor, -, -, -⟩ := bounded
  have settled := level (by omega)
  constructor
  · omega
  · omega

end Moving

/-- Verdicts of one kind carry along what each of them carries one further, and turns without a
verdict do not disturb, since only the two quorums matter. -/
theorem carried_by_streak {verdict : Bool} (carried : Nat → Quorum → Prop)
    (still : ∀ {count quorum next}, next.read = quorum.read → next.write = quorum.write →
      carried count quorum → carried count next)
    (further : ∀ {count quorum next}, quorum.Bounded minRead minWrite replicas →
      Adjusts verdict quorum next → carried count quorum → carried (count + 1) next)
    {turns : List Turn} {moment : Moment} {reached count : Nat}
    (bounded : moment.quorum.Bounded minRead minWrite replicas)
    (streak : moment.verdicts turns = List.replicate count verdict)
    (begun : carried reached moment.quorum) :
    carried (reached + count) (moment.afterTurns turns).quorum := by
  induction turns generalizing moment reached count with
  | nil =>
      obtain rfl : count = 0 := by simpa [Moment.verdicts] using streak.symm
      exact begun
  | cons turn turns ih =>
      have kept := turn_bounded bounded turn
      cases judged : moment.verdict? turn with
      | none =>
          rw [Moment.verdicts, judged] at streak
          obtain ⟨read, write⟩ := unjudged_keeps judged
          exact ih kept streak (still read write begun)
      | some other =>
          rw [Moment.verdicts, judged] at streak
          cases count with
          | zero => cases streak
          | succ count =>
              obtain ⟨rfl, rest⟩ := List.cons.inj streak
              rw [Nat.add_succ, ← Nat.succ_add]
              exact ih kept rest (further bounded (judged_adjusts judged) begun)

/-- From wherever a history has brought the quorums, at least as many verdicts in a row as there are
replicas settle them. If all say that the network is unhealthy, the read quorum ends one below the
replicas, or at its floor if that is higher, and the write quorum at the least that overlaps it; if
all say that it is healthy, the read quorum ends at its floor, and the write quorum one below the
replicas, or where its floor or the overlap demand more. A recording within the interval moves
neither. -/
theorem same_verdicts_settle (minRead minWrite minReplicas : Nat) (interval begun : Nanoseconds)
    (history : List Turn) :
    let replicas := max minReplicas 1
    let moment :=
      (Moment.mk begun (start minRead minWrite minReplicas interval begun)).afterTurns history
    (∀ streak count, replicas ≤ count → moment.verdicts streak = List.replicate count true →
      (moment.afterTurns streak).quorum.read = max minRead (replicas - 1) ∧
      (moment.afterTurns streak).quorum.write =
        max minWrite (replicas + 1 - (moment.afterTurns streak).quorum.read)) ∧
    (∀ streak count, replicas ≤ count → moment.verdicts streak = List.replicate count false →
      (moment.afterTurns streak).quorum.read = minRead ∧
      (moment.afterTurns streak).quorum.write =
        max minWrite (max (replicas - 1) (replicas + 1 - minRead))) ∧
    ∀ latency success, moment.now - moment.quorum.adjustedAt < moment.quorum.interval →
      let recorded := moment.turn (.event (.record latency success))
      recorded.quorum.read = moment.quorum.read ∧
      recorded.quorum.write = moment.quorum.write := by
  intro replicas moment
  have positive : 0 < replicas := lt_max_of_lt_right Nat.zero_lt_one
  have bounded : moment.quorum.Bounded minRead minWrite replicas :=
    after_turns_bounded history (start_bounded minRead minWrite minReplicas interval begun)
  refine ⟨fun streak count enough alarms => ?_, fun streak count enough calm => ?_,
    fun latency success early => unjudged_keeps (if_pos early)⟩
  · have alarmed := carried_by_streak (Alarmed minRead minWrite replicas)
      (fun read write alarmed => ⟨read ▸ alarmed.risen, read ▸ write ▸ alarmed.fallen⟩)
      (fun bounded adjusts alarmed => alarmed_further bounded alarmed adjusts)
      bounded alarms (alarmed_from_anywhere bounded)
    rw [Nat.zero_add] at alarmed
    exact alarmed_settled (after_turns_bounded streak bounded) enough positive alarmed
  · have reassured := carried_by_streak (Reassured minRead minWrite replicas)
      (fun read write reassured =>
        ⟨read ▸ reassured.fallen, write ▸ reassured.risen, read ▸ write ▸ reassured.level⟩)
      (fun bounded adjusts reassured => reassured_further bounded reassured adjusts)
      bounded calm (reassured_from_anywhere bounded)
    rw [Nat.zero_add] at reassured
    exact reassured_settled (after_turns_bounded streak bounded) enough positive reassured

/-- Three replicas and no least read quorum. Slow answers bring the read quorum to two; recordings
in between do not count, nor does a shorter interval interrupt them. Once quick answers have brought
the mean down, three verdicts bring it to nothing, and the write quorum makes up for it. -/
theorem slow_then_quick_answers_settle :
    let slow : List Turn := [.event (.wait (seconds 5)), .event (.record (seconds 3) true),
      .event (.record 1 true), .event (.wait (seconds 5)), .event (.record (seconds 2) true),
      .pace 1, .event (.wait 1), .event (.record (seconds 1) true)]
    let quick : List Turn := [.event (.record 1 true), .event (.record 1 false), .event (.wait 1),
      .event (.record 1 true), .event (.wait 1), .event (.record 1 true), .event (.wait 2),
      .event (.record 1 true)]
    let moment := Moment.mk 7 (start 0 1 3 (seconds 5) 7)
    let slowed := moment.afterTurns slow
    moment.verdicts slow = List.replicate 3 true ∧
      slowed.quorum.read = 2 ∧ slowed.quorum.write = 2 ∧
      slowed.verdicts quick = List.replicate 3 false ∧
      (slowed.afterTurns quick).quorum.read = 0 ∧ (slowed.afterTurns quick).quorum.write = 4 := by
  intro slow quick moment slowed
  have alarms : moment.verdicts slow = List.replicate 3 true := by decide
  have calm : slowed.verdicts quick = List.replicate 3 false := by decide
  obtain ⟨read, write⟩ :=
    (same_verdicts_settle 0 1 3 (seconds 5) 7 []).1 slow 3 (by decide) alarms
  obtain ⟨unread, written⟩ :=
    (same_verdicts_settle 0 1 3 (seconds 5) 7 slow).2.1 quick 3 (by decide) calm
  exact ⟨alarms, read, write.trans (by rw [read]; rfl), calm, unread, written⟩

end XorOverlay.Quorum
