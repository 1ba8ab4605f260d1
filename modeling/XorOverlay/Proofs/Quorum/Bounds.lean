import Mathlib
import XorOverlay.Quorum

/-!
The quorums of a node over its whole life. An adjustment moves each quorum between a floor and a
ceiling that may contradict each other, and then raises the write quorum where the two no longer
overlap. Whatever is recorded, and whenever, they overlap, keep to their floors and do not outgrow
what the floors and the replicas demand. The same controller on counts of 64 bits, where a sum may
not fit, a difference may not exist and a mean may have nothing to be taken of, therefore never gets
stuck, and moves the quorums the same way.
-/

namespace XorOverlay.Quorum

set_option autoImplicit false

/-- What happens to a controller. -/
inductive Event where
  | record (latency : Nanoseconds) (success : Bool)
  | wait (duration : Nanoseconds)
  deriving DecidableEq

/-- A controller at an instant. -/
structure Moment where
  now : Nanoseconds
  quorum : Quorum
  deriving DecidableEq

namespace Moment

def step (moment : Moment) : Event → Moment
  | .record latency success =>
    { moment with quorum := moment.quorum.record moment.now latency success }
  | .wait duration => { moment with now := moment.now + duration }

def after (events : List Event) (moment : Moment) : Moment :=
  events.foldl step moment

end Moment

section Words

/-- The sum of two counts, if it fits into 64 bits. -/
def sum? (a b : Nat) : Option Nat :=
  if a + b < 2 ^ 64 then some (a + b) else none

/-- The difference of two counts, if there is one. -/
def difference? (a b : Nat) : Option Nat :=
  if b ≤ a then some (a - b) else none

/-- The mean of the kept latencies, if their number, as a word of 32 bits, can be divided by. -/
def meanLatency? (quorum : Quorum) : Option Nanoseconds :=
  let count := quorum.samples.length % 2 ^ 32
  if count = 0 then none else some (quorum.samples.foldl Nat.add 0 / count)

/-- A controller at its floors. Where these do not overlap, the write quorum is what one more than
the replicas leaves beside the read quorum. -/
def start? (minRead minWrite minReplicas : Nat) (interval now : Nanoseconds) : Option Quorum := do
  let fresh := start minRead minWrite minReplicas interval now
  let replicas := max minReplicas 1
  let sum ← sum? minRead minWrite
  if sum ≤ replicas then
    let next ← sum? replicas 1
    let write ← difference? next (min minRead replicas)
    return { fresh with write := write }
  else return { fresh with write := minWrite }

/-- The proposed quorums of an adjustment. One step down stops at zero. -/
def proposed? (quorum : Quorum) : Option (Nat × Nat) := do
  let ceiling := quorum.replicas - 1
  let mean ← quorum.meanLatency?
  if slowLatency < mean ∨ failureLimit < quorum.failures then
    let more ← sum? quorum.read 1
    return (max (min more ceiling) quorum.minRead, max (quorum.write - 1) quorum.minWrite)
  else
    let more ← sum? quorum.write 1
    return (max (quorum.read - 1) quorum.minRead, max (min more ceiling) quorum.minWrite)

def overlapping? (replicas read write : Nat) : Option Nat := do
  let sum ← sum? read write
  if sum ≤ replicas then
    let gap ← difference? replicas read
    sum? gap 1
  else return write

def adjust? (quorum : Quorum) : Option Quorum := do
  let (read, write) ← quorum.proposed?
  let write ← overlapping? quorum.replicas read write
  return { quorum with read := read, write := write }

def record? (now latency : Nanoseconds) (success : Bool) (quorum : Quorum) : Option Quorum :=
  let noted := quorum.note latency success
  if noted.due now then noted.adjust?.map fun adjusted => { adjusted with adjustedAt := now }
  else some noted

namespace Moment

def step? (moment : Moment) : Event → Option Moment
  | .record latency success =>
    (moment.quorum.record? moment.now latency success).map fun quorum =>
      { moment with quorum := quorum }
  | .wait duration => some { moment with now := moment.now + duration }

def after? (events : List Event) (moment : Moment) : Option Moment :=
  events.foldlM step? moment

end Moment
end Words

/-- The overlap costs no floor, and no more than the replicas and one. -/
theorem overlapping_bounds (replicas read write : Nat) :
    replicas + 1 ≤ read + overlapping replicas read write ∧
      write ≤ overlapping replicas read write ∧
      (overlapping replicas read write = write ∨
        overlapping replicas read write + read = replicas + 1) := by
  unfold overlapping
  split_ifs with apart <;> omega

/-- Quorums that overlap, between their floors and what the floors and the replicas demand. -/
structure Bounded (minRead minWrite replicas : Nat) (quorum : Quorum) : Prop where
  readFloor_eq : quorum.minRead = minRead
  writeFloor_eq : quorum.minWrite = minWrite
  replicas_eq : quorum.replicas = replicas
  overlap : replicas + 1 ≤ quorum.read + quorum.write
  readFloor : minRead ≤ quorum.read
  writeFloor : minWrite ≤ quorum.write
  readCeiling : quorum.read ≤ max (replicas - 1) minRead
  writeCeiling : quorum.write ≤ max (replicas + 1 - minRead) (max (replicas - 1) minWrite)
  samples : quorum.samples.length ≤ sampleLimit

variable {minRead minWrite replicas : Nat} {quorum : Quorum}

theorem start_bounded (minRead minWrite minReplicas : Nat) (interval now : Nanoseconds) :
    Bounded minRead minWrite (max minReplicas 1)
      (start minRead minWrite minReplicas interval now) := by
  obtain ⟨overlap, floor, raised⟩ := overlapping_bounds (max minReplicas 1) minRead minWrite
  refine ⟨rfl, rfl, rfl, overlap, le_rfl, floor, le_max_right _ _, ?_, Nat.zero_le _⟩
  show overlapping (max minReplicas 1) minRead minWrite ≤ _
  omega

theorem note_bounded (bounded : quorum.Bounded minRead minWrite replicas) (latency : Nanoseconds)
    (success : Bool) : (quorum.note latency success).Bounded minRead minWrite replicas := by
  refine { bounded with samples := ?_ }
  show ((quorum.samples ++ [latency]).drop _).length ≤ sampleLimit
  rw [List.length_drop]
  omega

theorem note_samples (latency : Nanoseconds) (success : Bool) (quorum : Quorum) :
    (quorum.note latency success).samples ≠ [] := by
  have some : 0 < ((quorum.samples ++ [latency]).drop
      ((quorum.samples ++ [latency]).length - sampleLimit)).length := by
    rw [List.length_drop, List.length_append, List.length_singleton]
    have limit : sampleLimit = 100 := rfl
    omega
  exact List.ne_nil_of_length_pos some

/-- The quorums an adjustment proposes, before their overlap is seen to. -/
def proposed (quorum : Quorum) : Nat × Nat :=
  if quorum.unhealthy then
    (max (min (quorum.read + 1) (quorum.replicas - 1)) quorum.minRead,
      max (quorum.write - 1) quorum.minWrite)
  else
    (max (quorum.read - 1) quorum.minRead,
      max (min (quorum.write + 1) (quorum.replicas - 1)) quorum.minWrite)

theorem adjust_eq (quorum : Quorum) :
    quorum.adjust = { quorum with
      read := quorum.proposed.1
      write := overlapping quorum.replicas quorum.proposed.1 quorum.proposed.2 } :=
  rfl

theorem proposed_bounds (bounded : quorum.Bounded minRead minWrite replicas) :
    (minRead ≤ quorum.proposed.1 ∧ quorum.proposed.1 ≤ max (replicas - 1) minRead) ∧
      minWrite ≤ quorum.proposed.2 ∧
        quorum.proposed.2 ≤ max (replicas + 1 - minRead) (max (replicas - 1) minWrite) := by
  obtain ⟨rfl, rfl, rfl, _, floor, _, ceiling, few, _⟩ := bounded
  unfold proposed
  split_ifs
  · dsimp only
    omega
  · dsimp only
    omega

theorem adjust_bounded (bounded : quorum.Bounded minRead minWrite replicas) :
    quorum.adjust.Bounded minRead minWrite replicas := by
  obtain ⟨⟨readFloor, readCeiling⟩, writeFloor, writeCeiling⟩ := proposed_bounds bounded
  obtain ⟨overlap, raised, least⟩ :=
    overlapping_bounds quorum.replicas quorum.proposed.1 quorum.proposed.2
  rw [adjust_eq]
  obtain rfl := bounded.replicas_eq
  refine ⟨bounded.readFloor_eq, bounded.writeFloor_eq, rfl, overlap, readFloor,
    writeFloor.trans raised, readCeiling, ?_, bounded.samples⟩
  dsimp only
  omega

/-- Floors within the replicas keep both quorums within the replicas. -/
theorem within_replicas (bounded : quorum.Bounded minRead minWrite replicas)
    (positive : 1 ≤ minRead) (readFits : minRead ≤ replicas) (writeFits : minWrite ≤ replicas) :
    quorum.read ≤ replicas ∧ quorum.write ≤ replicas := by
  have readCeiling := bounded.readCeiling
  have writeCeiling := bounded.writeCeiling
  omega

theorem record_bounded (bounded : quorum.Bounded minRead minWrite replicas)
    (now latency : Nanoseconds) (success : Bool) :
    (quorum.record now latency success).Bounded minRead minWrite replicas := by
  have noted := note_bounded bounded latency success
  unfold record
  dsimp only
  split_ifs
  · exact { adjust_bounded noted with }
  · exact noted

section Fitting

variable (fewRead : minRead < 2 ^ 62) (fewWrite : minWrite < 2 ^ 62) (fewReplicas : replicas < 2 ^ 62)

theorem sum_eq {a b : Nat} (fits : a + b < 2 ^ 64) : sum? a b = some (a + b) :=
  if_pos fits

theorem difference_eq {a b : Nat} (less : b ≤ a) : difference? a b = some (a - b) :=
  if_pos less

/-- At most a hundred latencies are kept, so their number is the same as a word. -/
theorem mean_eq (some_samples : quorum.samples ≠ []) (few : quorum.samples.length ≤ sampleLimit) :
    quorum.meanLatency? = some quorum.meanLatency := by
  have positive := List.length_pos_of_ne_nil some_samples
  have limit : sampleLimit = 100 := rfl
  have same : quorum.samples.length % 2 ^ 32 = quorum.samples.length := Nat.mod_eq_of_lt (by omega)
  unfold meanLatency? meanLatency
  rw [same, if_neg positive.ne']

include fewRead fewWrite fewReplicas

theorem start_fits {minReplicas : Nat} (same : max minReplicas 1 = replicas)
    (interval now : Nanoseconds) :
    start? minRead minWrite minReplicas interval now =
      some (start minRead minWrite minReplicas interval now) := by
  subst same
  unfold start?
  have refilled : ∀ write, write = (start minRead minWrite minReplicas interval now).write →
      some { start minRead minWrite minReplicas interval now with write := write } =
        some (start minRead minWrite minReplicas interval now) := by
    rintro _ rfl
    rfl
  rw [sum_eq (by omega)]
  simp only [bind, Option.bind, pure]
  split_ifs with apart
  · rw [sum_eq (by omega)]
    simp only
    rw [difference_eq (by omega)]
    apply refilled
    show _ = overlapping _ _ _
    rw [overlapping, if_pos apart]
    omega
  · exact refilled _ (if_neg apart).symm

theorem proposed_fits (bounded : quorum.Bounded minRead minWrite replicas)
    (some_samples : quorum.samples ≠ []) : quorum.proposed? = some quorum.proposed := by
  have readCeiling := bounded.readCeiling
  have writeCeiling := bounded.writeCeiling
  unfold proposed? proposed unhealthy
  rw [mean_eq some_samples bounded.samples, sum_eq (by omega), sum_eq (by omega)]
  simp only [bind, Option.bind, pure, Bool.or_eq_true, decide_eq_true_eq]
  split_ifs <;> rfl

theorem adjust_fits (bounded : quorum.Bounded minRead minWrite replicas)
    (some_samples : quorum.samples ≠ []) : quorum.adjust? = some quorum.adjust := by
  obtain ⟨⟨_, readCeiling⟩, _, writeCeiling⟩ := proposed_bounds bounded
  have overlaps : overlapping? quorum.replicas quorum.proposed.1 quorum.proposed.2 =
      some (overlapping quorum.replicas quorum.proposed.1 quorum.proposed.2) := by
    rw [bounded.replicas_eq, overlapping?, overlapping, sum_eq (by omega)]
    simp only [bind, Option.bind, pure]
    split_ifs with apart
    · rw [difference_eq (by omega)]
      exact sum_eq (by omega)
    · rfl
  unfold adjust?
  rw [proposed_fits fewRead fewWrite fewReplicas bounded some_samples]
  simp only [bind, Option.bind, overlaps]
  rfl

theorem record_fits (bounded : quorum.Bounded minRead minWrite replicas)
    (now latency : Nanoseconds) (success : Bool) :
    quorum.record? now latency success = some (quorum.record now latency success) := by
  have noted := note_bounded bounded latency success
  unfold record? record
  dsimp only
  split_ifs
  · rw [adjust_fits fewRead fewWrite fewReplicas noted (note_samples latency success quorum)]
    rfl
  · rfl

/-- A step from bounded quorums can be computed on words, and leads to bounded quorums. -/
theorem step_fits {moment : Moment} (bounded : moment.quorum.Bounded minRead minWrite replicas)
    (event : Event) : moment.step? event = some (moment.step event) ∧
      (moment.step event).quorum.Bounded minRead minWrite replicas := by
  cases event with
  | record latency success =>
      refine ⟨?_, record_bounded bounded moment.now latency success⟩
      rw [Moment.step?, record_fits fewRead fewWrite fewReplicas bounded]
      rfl
  | wait duration => exact ⟨rfl, bounded⟩

theorem after_fits (events : List Event) {moment : Moment}
    (bounded : moment.quorum.Bounded minRead minWrite replicas) :
    moment.after? events = some (moment.after events) ∧
      (moment.after events).quorum.Bounded minRead minWrite replicas := by
  induction events generalizing moment with
  | nil => exact ⟨rfl, bounded⟩
  | cons event events ih =>
      obtain ⟨stepped, kept⟩ := step_fits fewRead fewWrite fewReplicas bounded event
      obtain ⟨rest, last⟩ := ih kept
      refine ⟨?_, last⟩
      rw [Moment.after?, List.foldlM_cons, stepped]
      exact rest

end Fitting

/-- From the start of a controller on, and whatever is recorded at whatever times, no sum outgrows
64 bits, no difference falls below zero and no mean is taken of nothing; the quorums overlap, and
neither is below its floor. Where the floors do not exceed the replicas, and the read floor is not
zero, neither quorum ever exceeds the replicas. -/
theorem quorums_keep_bounds (minRead minWrite minReplicas : Nat) (fewRead : minRead < 2 ^ 62)
    (fewWrite : minWrite < 2 ^ 62) (fewReplicas : minReplicas < 2 ^ 62)
    (interval begun : Nanoseconds) (events : List Event) :
    let replicas := max minReplicas 1
    let started := start minRead minWrite minReplicas interval begun
    let moment := (Moment.mk begun started).after events
    ((start? minRead minWrite minReplicas interval begun).bind fun fresh =>
      (Moment.mk begun fresh).after? events) = some moment ∧
    moment.quorum.replicas = replicas ∧
    replicas + 1 ≤ moment.quorum.read + moment.quorum.write ∧
    minRead ≤ moment.quorum.read ∧ minWrite ≤ moment.quorum.write ∧
    moment.quorum.read ≤ max (replicas - 1) minRead ∧
    (1 ≤ minRead → minRead ≤ replicas → minWrite ≤ replicas →
      moment.quorum.read ≤ replicas ∧ moment.quorum.write ≤ replicas) := by
  intro replicas started moment
  have few : replicas < 2 ^ 62 := max_lt fewReplicas (by norm_num)
  have begins : (Moment.mk begun started).quorum.Bounded minRead minWrite replicas :=
    start_bounded minRead minWrite minReplicas interval begun
  obtain ⟨computed, bounded⟩ := after_fits fewRead fewWrite few events begins
  refine ⟨?_, bounded.replicas_eq, bounded.overlap, bounded.readFloor, bounded.writeFloor,
    bounded.readCeiling, within_replicas bounded⟩
  rw [start_fits fewRead fewWrite few rfl]
  exact computed

/-- Three replicas and no least read quorum. A slow answer raises the read quorum; as the mean comes
down it falls to nothing, and the write quorum makes up for it. -/
theorem quick_answers_leave_writes_alone :
    let events : List Event :=
      [.wait (seconds 5), .record (seconds 3) true, .wait (seconds 5), .record 1 true,
        .wait (seconds 5), .record 1 true, .wait (seconds 5), .record 1 true,
        .record (seconds 9) false]
    let moment := (Moment.mk 7 (start 0 1 3 (seconds 5) 7)).after events
    ((start? 0 1 3 (seconds 5) 7).bind fun fresh => (Moment.mk 7 fresh).after? events) =
        some moment ∧
      ((Moment.mk 7 (start 0 1 3 (seconds 5) 7)).after (events.take 4)).quorum.read = 2 ∧
      moment.quorum.read = 0 ∧ moment.quorum.write = 4 ∧
      3 + 1 ≤ moment.quorum.read + moment.quorum.write := by
  intro events moment
  obtain ⟨computed, _, overlap, _⟩ := quorums_keep_bounds 0 1 3 (by norm_num) (by norm_num)
    (by norm_num) (seconds 5) 7 events
  exact ⟨computed, by decide, by decide, by decide, overlap⟩

end XorOverlay.Quorum
