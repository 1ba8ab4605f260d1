/-!
The adaptive quorum. Every operation reports how long it took and whether it succeeded; at most
once per interval the read quorum is moved up and the write quorum down while the network looks
slow or unhealthy, and the other way round otherwise. Read and write quorum always overlap.
-/

set_option autoImplicit false

namespace XorOverlay

/-- Instants and durations are counted in nanoseconds. -/
abbrev Nanoseconds := Nat

/-- Whole seconds. -/
def seconds (count : Nat) : Nanoseconds :=
  count * 1000000000

/-- The read and write quorums of one node and what they are adjusted by. -/
structure Quorum where
  minRead : Nat
  minWrite : Nat
  interval : Nanoseconds
  read : Nat
  write : Nat
  replicas : Nat
  /-- The latest latencies, oldest first. -/
  samples : List Nanoseconds
  /-- One more for each failure, one less for each success, never below zero. -/
  failures : Nat
  adjustedAt : Nanoseconds
  deriving DecidableEq

namespace Quorum

/-- How many latencies are kept. -/
def sampleLimit : Nat := 100

/-- A mean latency above this counts as slow. -/
def slowLatency : Nanoseconds := seconds 1

/-- More outstanding failures than this count as unhealthy. -/
def failureLimit : Nat := 3

/-- The usual least time between two adjustments. -/
def defaultInterval : Nanoseconds := seconds 5

/-- The least write quorum that overlaps a read quorum, if the proposed one does not. -/
def overlapping (replicas read write : Nat) : Nat :=
  if read + write ≤ replicas then replicas - read + 1 else write

/-- A quorum at its floors, the write quorum raised as far as overlap demands. There is at least
one replica. -/
def start (minRead minWrite minReplicas : Nat) (interval now : Nanoseconds) : Quorum where
  minRead := minRead
  minWrite := minWrite
  interval := interval
  read := minRead
  write := overlapping (max minReplicas 1) minRead minWrite
  replicas := max minReplicas 1
  samples := []
  failures := 0
  adjustedAt := now

def note (latency : Nanoseconds) (success : Bool) (quorum : Quorum) : Quorum :=
  let samples := quorum.samples ++ [latency]
  { quorum with
    samples := samples.drop (samples.length - sampleLimit)
    failures := if success then quorum.failures - 1 else quorum.failures + 1 }

/-- The mean of the kept latencies, rounded down. -/
def meanLatency (quorum : Quorum) : Nanoseconds :=
  quorum.samples.foldl Nat.add 0 / quorum.samples.length

/-- Slow on average, or with too many failures outstanding. -/
def unhealthy (quorum : Quorum) : Bool :=
  decide (slowLatency < quorum.meanLatency) || decide (failureLimit < quorum.failures)

/-- Moves both quorums one step, each between its floor and one less than the replicas, and then
restores the overlap. The floor wins over the ceiling. -/
def adjust (quorum : Quorum) : Quorum :=
  let ceiling := quorum.replicas - 1
  let (read, write) :=
    if quorum.unhealthy then
      (max (min (quorum.read + 1) ceiling) quorum.minRead, max (quorum.write - 1) quorum.minWrite)
    else
      (max (quorum.read - 1) quorum.minRead, max (min (quorum.write + 1) ceiling) quorum.minWrite)
  { quorum with read := read, write := overlapping quorum.replicas read write }

def due (now : Nanoseconds) (quorum : Quorum) : Bool :=
  decide (quorum.interval ≤ now - quorum.adjustedAt)

def record (now latency : Nanoseconds) (success : Bool) (quorum : Quorum) : Quorum :=
  let noted := quorum.note latency success
  if noted.due now then { noted.adjust with adjustedAt := now } else noted

end Quorum
end XorOverlay
