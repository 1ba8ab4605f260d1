import XorOverlay.Routing.Bucket

/-!
The routing table: buckets in the order of their ranges, which together cover the identifier space.
It begins as one bucket, and a full bucket is split, as often as needed and allowed, when a contact
of its range is added. Buckets never merge.
-/

set_option autoImplicit false

namespace XorOverlay

namespace Bucket

/-- Adds a contact to a bucket, splitting on the way while the bucket is full and may be split.
Answers with the buckets that take its place, and whether the contact is live in them. The range
shrinks with every split. -/
def place (owner : Ident) (capacity : Nat) (now : Nanoseconds) (contact : Contact)
    (bucket : Bucket) : List Bucket × Bool :=
  if bucket.holds contact.id || decide (bucket.live.length < capacity) then
    let (filled, live) := bucket.add capacity now contact
    ([filled], live)
  else if _may : bucket.splittable owner then
    if contact.id.toNat ≤ bucket.midpoint then
      let (placed, live) := place owner capacity now contact (bucket.split capacity now).1
      (placed ++ [(bucket.split capacity now).2], live)
    else
      let (placed, live) := place owner capacity now contact (bucket.split capacity now).2
      ((bucket.split capacity now).1 :: placed, live)
  else
    let (filled, live) := bucket.add capacity now contact
    ([filled], live)
termination_by bucket.upper - bucket.lower
decreasing_by
  · have wide := lower_lt_upper_of_splittable _may
    have range := split_range capacity now bucket
    rw [range.1, range.2.1]
    unfold midpoint
    omega
  · have wide := lower_lt_upper_of_splittable _may
    have range := split_range capacity now bucket
    rw [range.2.2.1, range.2.2.2]
    unfold midpoint
    omega

end Bucket

/-- The contacts a node knows. -/
structure Table where
  /-- The identifier of the node itself, which is never a contact. -/
  owner : Ident
  /-- How many live contacts a bucket has room for. -/
  capacity : Nat
  buckets : List Bucket
  deriving DecidableEq

namespace Table

/-- One bucket over all identifiers. -/
def empty (owner : Ident) (capacity : Nat) (now : Nanoseconds) : Table :=
  ⟨owner, capacity, [Bucket.empty 0 (Ident.total - 1) now]⟩

/-- Replaces the bucket responsible for an identifier: the first that reaches up to it, or else the
last. -/
def replaceOwning {α : Type} (id : Ident) (change : Bucket → List Bucket × α) (missing : α) :
    List Bucket → List Bucket × α
  | [] => ([], missing)
  | [last] => change last
  | bucket :: next :: rest =>
    if id.toNat ≤ bucket.upper then
      let (changed, answer) := change bucket
      (changed ++ next :: rest, answer)
    else
      let (others, answer) := replaceOwning id change missing (next :: rest)
      (bucket :: others, answer)

def owning? (id : Ident) : List Bucket → Option Bucket
  | [] => none
  | [last] => some last
  | bucket :: next :: rest =>
    if id.toNat ≤ bucket.upper then some bucket else owning? id (next :: rest)

/-- Takes in a contact that was heard from, and says whether it is live afterwards. The owner
itself is never taken in. -/
def add (now : Nanoseconds) (contact : Contact) (table : Table) : Table × Bool :=
  if contact.id = table.owner then (table, false)
  else
    let (buckets, live) := replaceOwning contact.id
      (Bucket.place table.owner table.capacity now contact) false table.buckets
    ({ table with buckets := buckets }, live)

/-- Drops an identifier, and answers with its contact if it was live. -/
def remove (id : Ident) (table : Table) : Table × Option Contact :=
  let (buckets, removed) := replaceOwning id
    (fun bucket => ([bucket.remove id], bucket.find? id)) none table.buckets
  ({ table with buckets := buckets }, removed)

def knows (id : Ident) (table : Table) : Bool :=
  match owning? id table.buckets with
  | some bucket => bucket.holds id
  | none => false

/-- All live contacts, bucket by bucket. -/
def live (table : Table) : List Contact :=
  table.buckets.flatMap Bucket.live

/-- All parked contacts, bucket by bucket. -/
def parked (table : Table) : List Contact :=
  table.buckets.flatMap Bucket.parked

/-- The `count` live contacts closest to `target`, closest first. Neither a contact named like the
target nor the excluded one is among them. -/
def closest (target : Ident) (count : Nat) (excluded : Option Ident) (table : Table) :
    List Contact :=
  ((table.live.filter fun contact =>
      contact.id != target && some contact.id != excluded).foldl
    (fun best contact => Ranked.keepClosest count best (Ranked.around target contact)) []).map
      Ranked.contact

/-- One identifier out of the range of every bucket not heard from for an interval; the `place`th
of them is picked by the random number `draw place`. -/
def refreshTargets (interval now : Nanoseconds) (draw : Nat → Nat) (table : Table) : List Ident :=
  (table.buckets.filter fun bucket => bucket.stale interval now).zipIdx.map fun entry =>
    Ident.between entry.1.lower entry.1.upper (draw entry.2)

end Table
end XorOverlay
