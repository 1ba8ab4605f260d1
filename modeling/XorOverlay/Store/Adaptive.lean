import XorOverlay.Store.Expiring

/-!
An adaptive replacement cache: a store of bounded size that balances recency against frequency.
Keys written once wait on the recent list, keys seen again on the frequent list, and each list has
a list of ghosts, keys that were evicted from it not long ago. A key that comes back from the
recent ghosts shows that the recent list is too short, one from the frequent ghosts that it is too
long, and the aim for its length moves accordingly. All lists run from the latest to the oldest.
-/

set_option autoImplicit false

namespace XorOverlay

/-- The two resident lists, their ghosts, and the aim for the length of the recent list. -/
structure Adaptive where
  capacity : Nat
  aim : Nat
  recent : List (Octets × Octets)
  frequent : List (Octets × Octets)
  recentGhosts : List Octets
  frequentGhosts : List Octets
  deriving DecidableEq

namespace Adaptive

/-- An empty cache. It has room for at least one value. -/
def empty (capacity : Nat) : Adaptive :=
  ⟨max capacity 1, 0, [], [], [], []⟩

def without (key : Octets) (entries : List (Octets × Octets)) : List (Octets × Octets) :=
  entries.filter fun entry => entry.1 != key

/-- A list of entries with an entry at its latest end, in place of any older one of its key. -/
def touch (key value : Octets) (entries : List (Octets × Octets)) : List (Octets × Octets) :=
  (key, value) :: without key entries

/-- A list of ghosts with a key at its latest end. -/
def haunt (key : Octets) (ghosts : List Octets) : List Octets :=
  key :: ghosts.filter fun ghost => ghost != key

def mentions (key : Octets) (entries : List (Octets × Octets)) : Bool :=
  (entries.lookup key).isSome

def size (cache : Adaptive) : Nat :=
  cache.recent.length + cache.frequent.length

/-- Drops the oldest ghosts, recent ones first, until there are no more than the capacity. -/
def trimGhosts (cache : Adaptive) : Adaptive :=
  let excess := cache.recentGhosts.length + cache.frequentGhosts.length - cache.capacity
  { cache with
    recentGhosts := cache.recentGhosts.take (cache.recentGhosts.length - excess)
    frequentGhosts := cache.frequentGhosts.take
      (cache.frequentGhosts.length - (excess - cache.recentGhosts.length)) }

/-- Whether the next victim comes from the recent list: when that list is longer than its aim, or
as long while a frequent ghost returns, or when there is no frequent entry to take. -/
def evictsRecent (fromFrequentGhosts : Bool) (cache : Adaptive) : Bool :=
  decide (0 < cache.recent.length) &&
    (decide (cache.aim < cache.recent.length) ||
      (fromFrequentGhosts && cache.recent.length == cache.aim) || cache.frequent.isEmpty)

/-- Evicts the oldest entry of one resident list and keeps its key as a ghost. -/
def evict (fromFrequentGhosts : Bool) (cache : Adaptive) : Adaptive :=
  let evicted :=
    if cache.evictsRecent fromFrequentGhosts then
      match cache.recent.getLast? with
      | some (key, _) =>
        { cache with
          recent := cache.recent.dropLast
          recentGhosts := haunt key cache.recentGhosts }
      | none => cache
    else
      match cache.frequent.getLast? with
      | some (key, _) =>
        { cache with
          frequent := cache.frequent.dropLast
          frequentGhosts := haunt key cache.frequentGhosts }
      | none => cache
  evicted.trimGhosts

def makeRoom (fromFrequentGhosts : Bool) (cache : Adaptive) : Adaptive :=
  if cache.capacity ≤ cache.size then cache.evict fromFrequentGhosts else cache

/-- How far one returning ghost moves the aim: by the ratio of the other ghosts to its own kind,
and at least by one. -/
def stride (own other : List Octets) : Nat :=
  max (other.length / max own.length 1) 1

/-- Writes a value. A resident key or a returning ghost goes to the frequent list, any other key to
the recent list. -/
def put (key value : Octets) (cache : Adaptive) : Adaptive :=
  if mentions key cache.recent || mentions key cache.frequent then
    { cache with
      recent := without key cache.recent
      frequent := touch key value cache.frequent }
  else if cache.recentGhosts.contains key then
    let aimed := { cache with
      aim := min (cache.aim + stride cache.recentGhosts cache.frequentGhosts) cache.capacity
      recentGhosts := cache.recentGhosts.filter fun ghost => ghost != key }
    let roomy := aimed.makeRoom false
    { roomy with frequent := touch key value roomy.frequent }
  else if cache.frequentGhosts.contains key then
    let aimed := { cache with
      aim := cache.aim - stride cache.frequentGhosts cache.recentGhosts }
    let roomy := aimed.makeRoom true
    { roomy with
      frequentGhosts := roomy.frequentGhosts.filter fun ghost => ghost != key
      frequent := touch key value roomy.frequent }
  else
    let roomy := cache.makeRoom false
    { roomy with recent := touch key value roomy.recent }

/-- The value of a key; a hit moves its entry to the latest end of the frequent list. -/
def get (key : Octets) (cache : Adaptive) : Option Octets × Adaptive :=
  match cache.recent.lookup key with
  | some value =>
    (some value, { cache with
      recent := without key cache.recent
      frequent := touch key value cache.frequent })
  | none =>
    match cache.frequent.lookup key with
    | some value => (some value, { cache with frequent := touch key value cache.frequent })
    | none => (none, cache)

/-- The resident entries: the recent ones, then the frequent ones. -/
def entries (cache : Adaptive) : List (Octets × Octets) :=
  cache.recent ++ cache.frequent

/-- A listing of the resident entries. They never expire. -/
def listing (cache : Adaptive) : List Listed :=
  cache.entries.map fun entry => ⟨entry.1, entry.2, none⟩

end Adaptive
end XorOverlay
