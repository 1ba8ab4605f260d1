import XorOverlay.Octets
import XorOverlay.Quorum
import XorOverlay.Failure

/-!
A store that forgets every entry a fixed lifetime after it was last written. Entries are kept
beside a journal of write instants; a sweep reads the journal alone, so it must not forget a key
that was written again since, and it never looks at entries that cannot have expired.
-/

set_option autoImplicit false

namespace XorOverlay

/-- A value and the instant it was written. -/
structure Written where
  value : Octets
  instant : Nanoseconds
  deriving DecidableEq

/-- An entry as a listing holds it: it may be read until its deadline, if it has one. -/
structure Listed where
  key : Octets
  value : Octets
  deadline : Option Nanoseconds
  deriving DecidableEq

namespace Listed

/-- Reads an entry of a listing at some instant; one past its deadline is refused. -/
def read (now : Nanoseconds) (item : Listed) : Except Failure (Octets × Octets) :=
  match item.deadline with
  | some deadline => if deadline < now then .error .expired else .ok (item.key, item.value)
  | none => .ok (item.key, item.value)

end Listed

/-- Entries with their write instants, and the journal of those instants, oldest first. -/
structure Expiring where
  lifetime : Nanoseconds
  entries : List (Octets × Written)
  journal : List (Nanoseconds × List Octets)
  deriving DecidableEq

namespace Expiring

/-- A week. -/
def defaultLifetime : Nanoseconds := seconds 604800

def empty (lifetime : Nanoseconds) : Expiring :=
  ⟨lifetime, [], []⟩

/-- Replaces the entry of a key where it stands, or appends a new one. -/
def assign (key : Octets) (written : Written) :
    List (Octets × Written) → List (Octets × Written)
  | [] => [(key, written)]
  | (other, old) :: rest =>
    if other = key then (key, written) :: rest else (other, old) :: assign key written rest

/-- Notes a write in the journal, in the order of instants and, at one instant, of writes. -/
def enter (now : Nanoseconds) (key : Octets) :
    List (Nanoseconds × List Octets) → List (Nanoseconds × List Octets)
  | [] => [(now, [key])]
  | (instant, keys) :: rest =>
    if instant = now then (instant, keys ++ [key]) :: rest
    else if now < instant then (now, [key]) :: (instant, keys) :: rest
    else (instant, keys) :: enter now key rest

/-- The entry of a key, expired or not. -/
def entry? (key : Octets) (store : Expiring) : Option Written :=
  store.entries.lookup key

/-- Older than the lifetime. An entry is still there at the very end of its lifetime. -/
def hasExpired (now : Nanoseconds) (store : Expiring) (written : Written) : Bool :=
  decide (store.lifetime < now - written.instant)

def put (now : Nanoseconds) (key value : Octets) (store : Expiring) : Expiring :=
  { store with
    entries := assign key ⟨value, now⟩ store.entries
    journal := enter now key store.journal }

/-- Forgets a key. The journal keeps mentioning it. -/
def erase (key : Octets) (store : Expiring) : Expiring :=
  { store with entries := store.entries.filter fun entry => entry.1 != key }

/-- The value of a key, unless it has expired, in which case it is forgotten. -/
def get (now : Nanoseconds) (key : Octets) (store : Expiring) : Option Octets × Expiring :=
  match store.entry? key with
  | none => (none, store)
  | some written =>
    if store.hasExpired now written then (none, store.erase key) else (some written.value, store)

/-- A listing of the entries that have not expired. Later writes do not show in it. -/
def listing (now : Nanoseconds) (store : Expiring) : List Listed :=
  (store.entries.filter fun entry => !store.hasExpired now entry.2).map fun entry =>
    ⟨entry.1, entry.2.value, some (entry.2.instant + store.lifetime)⟩

def eraseExpired (now : Nanoseconds) (store : Expiring) (key : Octets) : Expiring :=
  match store.entry? key with
  | some written => if store.hasExpired now written then store.erase key else store
  | none => store

/-- Forgets every expired entry, and the journal up to where entries can have expired. Before the
clock has run for a lifetime nothing can have expired. -/
def cull (now : Nanoseconds) (store : Expiring) : Expiring :=
  if now < store.lifetime then store
  else
    let cutoff := now - store.lifetime
    let (old, kept) := store.journal.partition fun page => decide (page.1 < cutoff)
    (old.flatMap Prod.snd).foldl (eraseExpired now) { store with journal := kept }

end Expiring
end XorOverlay
