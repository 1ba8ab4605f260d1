import XorOverlay.Node.Scene
import XorOverlay.Sha1

/-!
What a node does for its user: join the overlay, read, write and delete keys, and the periodic
refresh that keeps buckets filled and values replicated.
-/

set_option autoImplicit false

namespace XorOverlay.Scene

variable {ε : Type}

/-- Joins the overlay through seeds. Each seed is asked for its name under the zero identifier, and
those that answered are where the search for the node's own name begins. Answers with the contacts
found, or none if no seed answered. -/
def bootstrap (carrier : Carrier ε) (seeds : List Endpoint) (scene : Scene ε) :
    List Contact × Scene ε :=
  let (names, scene) := each (ping carrier) (seeds.map fun seed => ⟨Ident.zero, some seed⟩) scene
  let peers := names.filterMap fun answer =>
    answer.2.map fun id => ⟨id, answer.1.endpoint⟩
  if peers.isEmpty then ([], scene) else scene.lookup carrier scene.node.id peers

def readOwn (key : Ident) (scene : Scene ε) : Option Octets × Scene ε :=
  let (value, store) := scene.node.store.get scene.clock key.octets
  (value, scene.mapNode fun node => { node with store := store })

/-- Reads a key: from the node's own store if the key is there, and otherwise by a search, which is
reported to the quorum. An empty value marks a deleted key. A read that has to search and has no room
to gather the contacts it is to begin with breaks off: it has no answer, and nothing is reported. -/
def get? (carrier : Carrier ε) (key : String) (scene : Scene ε) :
    Option (Option Octets) × Scene ε :=
  let digest := Ident.digest key
  let (own, scene) := scene.readOwn digest
  match own with
  | some value => (some (if value.isEmpty then none else some value), scene)
  | none =>
    match scene.node.neighbours? digest scene.node.width with
    | none => (none, scene)
    | some nearest =>
      if nearest.isEmpty then (some none, scene)
      else
        let begun := scene.clock
        let (found, scene) := scene.lookupValue carrier digest nearest
        let value := found.filter fun value => !value.isEmpty
        (some value, scene.mapNode fun node =>
          node.report scene.clock (scene.clock - begun) value.isSome)

/-- The value that a read brings, if it brings one. -/
def get (carrier : Carrier ε) (key : String) (scene : Scene ε) : Option Octets × Scene ε :=
  ((scene.get? carrier key).1.join, (scene.get? carrier key).2)

/-- Whether the node itself is one of the replicas: none was found, or it is no farther from the
key than the farthest one found. -/
def isReplica (self key : Ident) (replicas : List Contact) : Bool :=
  match (replicas.map fun contact => contact.id.rank key).max? with
  | none => true
  | some farthest => decide (self.rank key ≤ farthest)

/-- Stores a value on the contacts closest to a key, and in the node's own store if it is one of
the replicas. Succeeds if at least one contact accepted it. Without room to gather the contacts it is
to begin with it breaks off and has no answer. -/
def publish? (carrier : Carrier ε) (key : Ident) (value : Octets) (scene : Scene ε) :
    Option Bool × Scene ε :=
  match scene.node.neighbours? key scene.node.width with
  | none => (none, scene)
  | some nearest =>
    if nearest.isEmpty then (some false, scene)
    else
      let (replicas, scene) := scene.lookup carrier key nearest
      let scene :=
        if isReplica scene.node.id key replicas then
          scene.mapNode fun node => node.keep scene.clock key.octets value
        else scene
      let (answers, scene) :=
        each (fun dest scene => scene.storeAt carrier dest key.octets value) replicas scene
      (some (answers.any fun answer => answer.2 == some true), scene)

/-- Whether a value has been stored. -/
def publish (carrier : Carrier ε) (key : Ident) (value : Octets) (scene : Scene ε) :
    Bool × Scene ε :=
  ((scene.publish? carrier key value).1.getD false, (scene.publish? carrier key value).2)

/-- Writes a key, and reports the outcome to the quorum. A write that breaks off has none, and nothing
is reported. -/
def set? (carrier : Carrier ε) (key : String) (value : Octets) (scene : Scene ε) :
    Option Bool × Scene ε :=
  let begun := scene.clock
  match scene.publish? carrier (Ident.digest key) value with
  | (none, scene) => (none, scene)
  | (some success, scene) =>
    (some success, scene.mapNode fun node => node.report scene.clock (scene.clock - begun) success)

/-- Whether a write has succeeded. -/
def set (carrier : Carrier ε) (key : String) (value : Octets) (scene : Scene ε) :
    Bool × Scene ε :=
  ((scene.set? carrier key value).1.getD false, (scene.set? carrier key value).2)

/-- Deletes a key by writing an empty value. -/
def delete? (carrier : Carrier ε) (key : String) (scene : Scene ε) : Option Bool × Scene ε :=
  scene.set? carrier key []

def delete (carrier : Carrier ε) (key : String) (scene : Scene ε) : Bool × Scene ε :=
  scene.set carrier key []

section Equations

variable (carrier : Carrier ε) (scene : Scene ε)

theorem get_eq (key : String) :
    scene.get carrier key =
      let digest := Ident.digest key
      let (own, read) := scene.readOwn digest
      match own with
      | some value => (if value.isEmpty then none else some value, read)
      | none =>
        let nearest := read.node.neighbours digest read.node.width
        if nearest.isEmpty then (none, read)
        else
          let (found, searched) := read.lookupValue carrier digest nearest
          let value := found.filter fun value => !value.isEmpty
          (value, searched.mapNode fun node =>
            node.report searched.clock (searched.clock - read.clock) value.isSome) := by
  rw [get, get?]
  dsimp only
  generalize scene.readOwn (Ident.digest key) = result
  obtain ⟨own, read⟩ := result
  cases own with
  | some value => rfl
  | none =>
      dsimp only
      rw [Node.neighbours]
      cases read.node.neighbours? (Ident.digest key) read.node.width with
      | none => rfl
      | some nearest =>
          dsimp only [Option.getD_some]
          split
          · rfl
          · generalize read.lookupValue carrier (Ident.digest key) nearest = searched
            rfl

/-- A read for which there is room comes back. -/
theorem get_of_room (key : String) (room : scene.node.canGather scene.node.width = true) :
    scene.get? carrier key =
      (some (scene.get carrier key).1, (scene.get carrier key).2) := by
  have begun : (scene.readOwn (Ident.digest key)).2.node.canGather
      (scene.readOwn (Ident.digest key)).2.node.width = true := room
  rw [get, get?]
  dsimp only
  generalize scene.readOwn (Ident.digest key) = result at begun
  obtain ⟨own, read⟩ := result
  cases own with
  | some value => rfl
  | none =>
      rw [Node.neighbours?, if_pos begun]
      dsimp only
      split
      · rfl
      · generalize read.lookupValue carrier (Ident.digest key) _ = searched
        rfl

theorem publish_eq (key : Ident) (value : Octets) :
    scene.publish carrier key value =
      let nearest := scene.node.neighbours key scene.node.width
      if nearest.isEmpty then (false, scene)
      else
        let (replicas, searched) := scene.lookup carrier key nearest
        let kept :=
          if isReplica searched.node.id key replicas then
            searched.mapNode fun node => node.keep searched.clock key.octets value
          else searched
        let (answers, stored) :=
          each (fun dest scene => scene.storeAt carrier dest key.octets value) replicas kept
        (answers.any fun answer => answer.2 == some true, stored) := by
  rw [publish, publish?, Node.neighbours]
  cases scene.node.neighbours? key scene.node.width with
  | none => rfl
  | some nearest =>
      dsimp only [Option.getD_some]
      split
      · rfl
      · generalize scene.lookup carrier key nearest = looked
        rfl

/-- Nothing is published, and nothing happens, for want of room. -/
theorem publish_breaks_off (key : Ident) (value : Octets)
    (narrow : scene.node.canGather scene.node.width = false) :
    scene.publish? carrier key value = (none, scene) := by
  rw [publish?, Node.neighbours?, narrow]
  rfl

theorem publish_of_room (key : Ident) (value : Octets)
    (room : scene.node.canGather scene.node.width = true) :
    scene.publish? carrier key value =
      (some (scene.publish carrier key value).1, (scene.publish carrier key value).2) := by
  rw [publish, publish?, Node.neighbours?, room, if_pos rfl]
  dsimp only
  split
  · rfl
  · generalize scene.lookup carrier key _ = looked
    rfl

/-- A write for which there is no room is not carried out, and not reported. -/
theorem set_breaks_off (key : String) (value : Octets)
    (narrow : scene.node.canGather scene.node.width = false) :
    scene.set? carrier key value = (none, scene) := by
  rw [set?, publish_breaks_off carrier scene (Ident.digest key) value narrow]

/-- A write for which there is room reports what comes of publishing. -/
theorem set_of_room (key : String) (value : Octets)
    (room : scene.node.canGather scene.node.width = true) :
    scene.set? carrier key value =
      (some (scene.publish carrier (Ident.digest key) value).1,
        (scene.publish carrier (Ident.digest key) value).2.mapNode fun node =>
          node.report (scene.publish carrier (Ident.digest key) value).2.clock
            ((scene.publish carrier (Ident.digest key) value).2.clock - scene.clock)
            (scene.publish carrier (Ident.digest key) value).1) := by
  rw [set?, publish_of_room carrier scene (Ident.digest key) value room]

theorem set_eq (key : String) (value : Octets) :
    scene.set carrier key value =
      ((scene.publish carrier (Ident.digest key) value).1,
        if scene.node.canGather scene.node.width then
          (scene.publish carrier (Ident.digest key) value).2.mapNode fun node =>
            node.report (scene.publish carrier (Ident.digest key) value).2.clock
              ((scene.publish carrier (Ident.digest key) value).2.clock - scene.clock)
              (scene.publish carrier (Ident.digest key) value).1
        else (scene.publish carrier (Ident.digest key) value).2) := by
  cases gathers : scene.node.canGather scene.node.width with
  | false =>
      rw [set, set_breaks_off carrier scene key value gathers, publish,
        publish_breaks_off carrier scene _ value gathers]
      rfl
  | true =>
      rw [set, set_of_room carrier scene key value gathers]
      rfl

end Equations

/-- The least number of lookups of a refresh. -/
def refreshLookups : Nat := 5

/-- The targets of a refresh: one in every silent bucket, and random ones up to the least number.
The random numbers come from `draw`. -/
def refreshTargets (draw : Nat → Nat) (scene : Scene ε) : List Ident :=
  let stale := scene.node.table.refreshTargets scene.node.refreshInterval scene.clock draw
  stale ++ (List.range (refreshLookups - stale.length)).map fun place =>
    Ident.ofNat (draw (stale.length + place))

/-- Looks up one refresh target, if there is anyone to ask. -/
def refreshToward (carrier : Carrier ε) (scene : Scene ε) (target : Ident) : Scene ε :=
  let peers := scene.node.neighbours target scene.node.parallelism
  if peers.isEmpty then scene else (scene.lookup carrier target peers).2

/-- Publishes the entries of a listing again. One that has expired since ends it, and one whose key
is no identifier is passed over. -/
def republish (carrier : Carrier ε) : List Listed → Scene ε → Scene ε
  | [], scene => scene
  | item :: rest, scene =>
    match item.read scene.clock with
    | .error _ => scene
    | .ok (key, value) =>
      match Ident.ofOctets key with
      | .ok digest => republish carrier rest (scene.publish carrier digest value).2
      | .error _ => republish carrier rest scene

/-- Drops what has expired, looks up the refresh targets, and publishes every stored value again. A
node that was killed does nothing. -/
def refresh (carrier : Carrier ε) (draw : Nat → Nat) (scene : Scene ε) : Scene ε :=
  if !scene.node.active then scene
  else
    let scene := scene.mapNode fun node => { node with store := node.store.cull scene.clock }
    let scene := (scene.refreshTargets draw).foldl (refreshToward carrier) scene
    scene.republish carrier (scene.node.store.listing scene.clock)

end XorOverlay.Scene
