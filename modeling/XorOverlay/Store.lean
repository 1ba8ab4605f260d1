import XorOverlay.Store.Adaptive

/-!
The store of a node: one of the two engines behind one interface. An empty value is a stored value
like any other; it is what marks a key as deleted.
-/

set_option autoImplicit false

namespace XorOverlay

/-- A store with either engine. -/
inductive Store where
  | expiring (store : Expiring)
  | adaptive (cache : Adaptive)
  deriving DecidableEq

namespace Store

def put (now : Nanoseconds) (key value : Octets) : Store → Store
  | .expiring store => .expiring (store.put now key value)
  | .adaptive cache => .adaptive (cache.put key value)

/-- Reads a value. Reading is an event in both engines: it forgets an expired entry, or moves a
cached one. -/
def get (now : Nanoseconds) (key : Octets) : Store → Option Octets × Store
  | .expiring store =>
    let (value, store) := store.get now key
    (value, .expiring store)
  | .adaptive cache =>
    let (value, cache) := cache.get key
    (value, .adaptive cache)

/-- A listing of all entries, fixed at the instant it is made. -/
def listing (now : Nanoseconds) : Store → List Listed
  | .expiring store => store.listing now
  | .adaptive cache => cache.listing

/-- Forgets what has expired; a cache has nothing to do. -/
def cull (now : Nanoseconds) : Store → Store
  | .expiring store => .expiring (store.cull now)
  | .adaptive cache => .adaptive cache

def contents (now : Nanoseconds) (store : Store) : List (Octets × Octets) :=
  (store.listing now).map fun item => (item.key, item.value)

end Store
end XorOverlay
