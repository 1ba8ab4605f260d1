import XorOverlay.Contact
import XorOverlay.Quorum

/-!
Buckets. A bucket covers a range of identifiers and keeps a bounded list of live contacts, the one
heard from last at the end, and a bounded list of parked ones that wait for nothing but to be
offered again. A full bucket near its owner, or one whose range is not at a fifth bit, may be split
in the middle.
-/

set_option autoImplicit false

namespace XorOverlay

/-- The contacts known in one range of identifiers, the ends of the range included. -/
structure Bucket where
  lower : Nat
  upper : Nat
  live : List Contact
  parked : List Contact
  /-- The instant a contact of the bucket was last heard from. -/
  touched : Nanoseconds
  deriving DecidableEq

namespace Bucket

/-- A bucket parks at most this many contacts for each live one it has room for. -/
def parkingFactor : Nat := 5

/-- Away from the owner, ranges of `2 ^ d` identifiers are not split when `d` is a multiple of
this. -/
def splitGranularity : Nat := 5

def empty (lower upper : Nat) (now : Nanoseconds) : Bucket :=
  ⟨lower, upper, [], [], now⟩

def without (id : Ident) (contacts : List Contact) : List Contact :=
  contacts.filter fun contact => contact.id != id

def holds (id : Ident) (bucket : Bucket) : Bool :=
  bucket.live.any fun contact => contact.id == id

/-- Whether the range of the bucket covers an identifier. -/
def covers (id : Ident) (bucket : Bucket) : Bool :=
  decide (bucket.lower ≤ id.toNat) && decide (id.toNat ≤ bucket.upper)

/-- The binary logarithm of the number of identifiers covered. -/
def depth (bucket : Bucket) : Nat :=
  (bucket.upper - bucket.lower + 1).log2

/-- The last identifier of the lower half. -/
def midpoint (bucket : Bucket) : Nat :=
  (bucket.lower + bucket.upper) / 2

/-- Takes in a contact that was heard from. A live one moves to the end with its new endpoint, a
new one is appended while there is room, and otherwise it is parked, at the expense of the contact
parked longest. Says whether the contact is live afterwards. -/
def add (capacity : Nat) (now : Nanoseconds) (contact : Contact) (bucket : Bucket) :
    Bucket × Bool :=
  if bucket.holds contact.id then
    ({ bucket with live := without contact.id bucket.live ++ [contact], touched := now }, true)
  else
    let parked := without contact.id bucket.parked
    if bucket.live.length < capacity then
      ({ bucket with live := bucket.live ++ [contact], parked := parked, touched := now }, true)
    else
      let queue := parked ++ [contact]
      ({ bucket with
          parked := if capacity * parkingFactor < queue.length then queue.drop 1 else queue },
        false)

/-- Drops an identifier, live or parked. No parked contact takes its place. -/
def remove (id : Ident) (bucket : Bucket) : Bucket :=
  { bucket with live := without id bucket.live, parked := without id bucket.parked }

/-- The live contact with an identifier. -/
def find? (id : Ident) (bucket : Bucket) : Option Contact :=
  bucket.live.find? fun contact => contact.id == id

/-- The two halves of a bucket. Each begins with the bucket's own instant and then takes in the
contacts of its range anew, live ones first, so a half that receives a live contact counts as
heard from now. -/
def split (capacity : Nat) (now : Nanoseconds) (bucket : Bucket) : Bucket × Bucket :=
  (bucket.live ++ bucket.parked).foldl
    (fun halves contact =>
      if contact.id.toNat ≤ bucket.midpoint then
        ((halves.1.add capacity now contact).1, halves.2)
      else (halves.1, (halves.2.add capacity now contact).1))
    (empty bucket.lower bucket.midpoint bucket.touched,
      empty (bucket.midpoint + 1) bucket.upper bucket.touched)

/-- Whether a full bucket may be split: it covers more than one identifier, and it covers the owner
or is not at a fifth bit. -/
def splittable (owner : Ident) (bucket : Bucket) : Bool :=
  decide (0 < bucket.depth) &&
    (bucket.covers owner || decide (bucket.depth % splitGranularity ≠ 0))

/-- Not heard from for an interval. -/
def stale (interval now : Nanoseconds) (bucket : Bucket) : Bool :=
  decide (interval ≤ now - bucket.touched)

theorem add_range (capacity : Nat) (now : Nanoseconds) (contact : Contact) (bucket : Bucket) :
    (bucket.add capacity now contact).1.lower = bucket.lower ∧
      (bucket.add capacity now contact).1.upper = bucket.upper := by
  unfold add
  split
  · exact ⟨rfl, rfl⟩
  · dsimp only
    split <;> exact ⟨rfl, rfl⟩

/-- The lower half reaches from the lower end to the midpoint, the upper half from there to the
upper end. -/
theorem split_range (capacity : Nat) (now : Nanoseconds) (bucket : Bucket) :
    (bucket.split capacity now).1.lower = bucket.lower ∧
      (bucket.split capacity now).1.upper = bucket.midpoint ∧
      (bucket.split capacity now).2.lower = bucket.midpoint + 1 ∧
      (bucket.split capacity now).2.upper = bucket.upper := by
  unfold split
  generalize bucket.live ++ bucket.parked = contacts
  suffices general : ∀ halves : Bucket × Bucket,
      let filled := contacts.foldl
        (fun halves contact =>
          if contact.id.toNat ≤ bucket.midpoint then
            ((halves.1.add capacity now contact).1, halves.2)
          else (halves.1, (halves.2.add capacity now contact).1)) halves
      filled.1.lower = halves.1.lower ∧ filled.1.upper = halves.1.upper ∧
        filled.2.lower = halves.2.lower ∧ filled.2.upper = halves.2.upper from
    general (empty bucket.lower bucket.midpoint bucket.touched,
      empty (bucket.midpoint + 1) bucket.upper bucket.touched)
  induction contacts with
  | nil => intro halves; exact ⟨rfl, rfl, rfl, rfl⟩
  | cons contact rest ih =>
    intro halves
    simp only [List.foldl_cons]
    split
    · have bounds := ih ((halves.1.add capacity now contact).1, halves.2)
      have kept := add_range capacity now contact halves.1
      simp only [kept.1, kept.2] at bounds
      exact bounds
    · have bounds := ih (halves.1, (halves.2.add capacity now contact).1)
      have kept := add_range capacity now contact halves.2
      simp only [kept.1, kept.2] at bounds
      exact bounds

/-- A bucket that may be split covers more than one identifier. -/
theorem lower_lt_upper_of_splittable {owner : Ident} {bucket : Bucket}
    (may : bucket.splittable owner = true) : bucket.lower < bucket.upper := by
  simp only [splittable, Bool.and_eq_true, decide_eq_true_eq] at may
  have deep := may.1
  unfold depth at deep
  rcases Nat.lt_or_ge bucket.lower bucket.upper with less | notLess
  · exact less
  · have none : bucket.upper - bucket.lower = 0 := by omega
    rw [none] at deep
    exact absurd deep (by decide)

end Bucket
end XorOverlay
