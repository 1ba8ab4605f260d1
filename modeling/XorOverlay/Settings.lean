import XorOverlay.Ident
import XorOverlay.Store
import XorOverlay.Quorum

/-!
The settings of a node and their usual values.
-/

set_option autoImplicit false

namespace XorOverlay

/-- What one node is set up with. -/
structure Settings where
  interface : UInt32
  /-- The port to listen on; 0 stands for any free one. -/
  port : UInt16
  /-- The name of the node; a random one is drawn if there is none. -/
  id : Option Ident
  /-- The room in a bucket and the length of every list of closest contacts. -/
  width : Nat
  /-- How many probes a round of a lookup has. -/
  parallelism : Nat
  /-- How long a response is waited for. -/
  timeout : Nanoseconds
  /-- How long a bucket may stay silent before it is refreshed. -/
  refreshInterval : Nanoseconds
  /-- How long values are kept in an expiring store. -/
  lifetime : Nanoseconds
  /-- The least read quorum, the least write quorum and the number of replicas. -/
  quorum : Nat × Nat × Nat
  /-- How many contacts the machine has room to gather at once, if that is limited. -/
  room : Option Nat
  deriving DecidableEq

/-- The usual settings: any host, port 8468, buckets of 20, three probes at a time, five seconds
of patience, an hourly refresh, values kept for a week, three replicas, and all the room there may
be need for. -/
def Settings.default : Settings where
  interface := 0
  port := 8468
  id := none
  width := 20
  parallelism := 3
  timeout := seconds 5
  refreshInterval := seconds 3600
  lifetime := Expiring.defaultLifetime
  quorum := (1, 1, 3)
  room := none

/-- The largest count of 64 bits. As the number of contacts asked for it stands for all of them, for
which no room is set aside beforehand. -/
def Settings.unbounded : Nat := 18446744073709551615

/-- The room on a machine that addresses at most half the bytes of a 64-bit word: a contact and its
place around a target take eighty of them, and one place is kept spare. -/
def Settings.addressableRoom : Nat := 9223372036854775807 / 80 - 1

end XorOverlay
