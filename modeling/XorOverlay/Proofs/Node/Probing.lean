import Mathlib
import XorOverlay.Node.Operation

/-!
Probes of a node. A probe sends one query and picks from the reply what was asked for, so the
outcomes of a round are those of its calls with the replies of any other kind taken for failures.
-/

namespace XorOverlay

set_option autoImplicit false

namespace Reply

def pong? : Reply → Option Ident
  | .pong id => some id
  | _ => none

def contacts? : Reply → Option (List Contact)
  | .nodes contacts => some contacts
  | _ => none

def stored? : Reply → Option Bool
  | .stored accepted => some accepted
  | _ => none

def finding? : Reply → Option Lookup.Finding
  | .found value => some (.found value)
  | .closest contacts => some (.closest contacts)
  | _ => none

theorem eq_of_pong {reply : Reply} {id : Ident} (chosen : reply.pong? = some id) :
    reply = .pong id := by
  cases reply with
  | pong name => exact congrArg Reply.pong (Option.some.inj chosen)
  | nodes named => cases chosen
  | stored accepted => cases chosen
  | found value => cases chosen
  | closest named => cases chosen

theorem eq_of_contacts {reply : Reply} {contacts : List Contact}
    (chosen : reply.contacts? = some contacts) : reply = .nodes contacts := by
  cases reply with
  | nodes named => exact congrArg Reply.nodes (Option.some.inj chosen)
  | pong id => cases chosen
  | stored accepted => cases chosen
  | found value => cases chosen
  | closest named => cases chosen

theorem eq_of_finding {reply : Reply} {finding : Lookup.Finding}
    (chosen : reply.finding? = some finding) :
    (∃ value, reply = .found value ∧ finding = .found value) ∨
      ∃ contacts, reply = .closest contacts ∧ finding = .closest contacts := by
  cases reply with
  | found value => exact Or.inl ⟨value, rfl, (Option.some.inj chosen).symm⟩
  | closest contacts => exact Or.inr ⟨contacts, rfl, (Option.some.inj chosen).symm⟩
  | pong id => cases chosen
  | stored accepted => cases chosen
  | nodes contacts => cases chosen

end Reply

namespace Lookup

variable {σ α β : Type}

/-- The outcomes of probes, of whose answers a part is picked; where it is missing, they failed. -/
def picked (choose : α → Option β) (outcomes : List (Contact × Option α)) :
    List (Contact × Option β) :=
  outcomes.map fun outcome => (outcome.1, outcome.2.bind choose)

/-- Asks, and picks a part from every answer. -/
def picking (choose : α → Option β) (ask : Ask σ α) : Ask σ β :=
  fun state probes => (picked choose (ask state probes).1, (ask state probes).2)

end Lookup

namespace Scene

variable {ε : Type}

theorem each_cons {α : Type} (call : Contact → Scene ε → Called α × Scene ε)
    (dest : Contact) (dests : List Contact) (scene : Scene ε) :
    (each call (dest :: dests) scene).2 = (each call dests (call dest scene).2).2 := by
  rw [each]
  generalize call dest scene = result
  obtain ⟨_ | _ | _, next⟩ := result
  · rfl
  · rfl
  · rfl

/-- A call of one kind, of whose answers a part is picked. -/
theorem picked_answered {α β : Type} {choose : α → Option β} {called : Called α} {value : β}
    (picked : called.pick choose = .answered value) :
    ∃ brought, called = .answered brought ∧ choose brought = some value := by
  cases called with
  | answered brought =>
      cases chosen : choose brought with
      | none =>
          simp only [Called.pick, chosen] at picked
          cases picked
      | some part =>
          simp only [Called.pick, chosen] at picked
          exact ⟨brought, rfl, chosen.trans (congrArg some (Called.answered.inj picked))⟩
  | failed => cases picked
  | lost => cases picked

/-- Calls of one kind bring what is picked from all they brought. -/
theorem each_picked {α β : Type} (call : Contact → Scene ε → Called α × Scene ε)
    (choose : α → Option β) (dests : List Contact) (scene : Scene ε) :
    each (fun dest scene => ((call dest scene).1.pick choose, (call dest scene).2)) dests scene =
      (Lookup.picked choose (each call dests scene).1, (each call dests scene).2) := by
  induction dests generalizing scene with
  | nil => rfl
  | cons dest dests ih =>
      rw [each, each]
      generalize call dest scene = result
      obtain ⟨called, next⟩ := result
      simp only [ih]
      cases called with
      | answered value =>
          cases chosen : choose value with
          | none => simp [Called.pick, Lookup.picked, chosen]
          | some part => simp [Called.pick, Lookup.picked, chosen]
      | failed => rfl
      | lost => rfl

/-- Sends a query to a contact, and comes back with its reply. -/
abbrev Caller (ε : Type) :=
  Contact → Query → Scene ε → Called Reply × Scene ε

/-- Probes contacts by calls. -/
def callAll (caller : Caller ε) (query : Query) : Lookup.Ask (Scene ε) Reply :=
  fun scene probes => each (fun dest scene => caller dest query scene) probes scene

/-- What a probe is reported to have brought, if anything. -/
def outcomes {α : Type} (dest : Contact) : Called α → List (Contact × Option α)
  | .answered value => [(dest, some value)]
  | .failed => [(dest, none)]
  | .lost => []

theorem call_all_cons (caller : Caller ε) (query : Query) (scene : Scene ε) (dest : Contact)
    (dests : List Contact) :
    callAll caller query scene (dest :: dests) =
      let result := caller dest query scene
      let others := callAll caller query result.2 dests
      (outcomes dest result.1 ++ others.1, others.2) := by
  unfold callAll
  rw [each]
  generalize caller dest query scene = result
  obtain ⟨_ | _ | _, next⟩ := result
  · rfl
  · rfl
  · rfl

/-- The search of a node asks for contacts by calls, and takes other replies for failures. -/
theorem lookup_eq (carrier : Carrier ε) (target : Ident) (seeds : List Contact) (scene : Scene ε) :
    scene.lookup carrier target seeds =
      Lookup.findNodes scene.node.id
        (Lookup.picking Reply.contacts? fun scene probes =>
          each (fun dest scene => scene.call carrier dest (.findNode target)) probes scene)
        target scene.node.width scene.node.parallelism seeds scene := by
  unfold lookup
  congr 1
  funext scene probes
  exact each_picked (fun dest scene => scene.call carrier dest (.findNode target))
    Reply.contacts? probes scene

/-- The search of a node for a value, however its probes are carried out. -/
def searchValue (ask : Lookup.Ask (Scene ε) Reply) (key : Ident) (seeds : List Contact)
    (scene : Scene ε) : Option Octets × Scene ε :=
  let searched := Lookup.findValue scene.node.id (Lookup.picking Reply.finding? ask) key
    scene.node.width scene.node.parallelism seeds scene
  let repairs := searched.1.bind fun hit =>
    hit.repair.map fun peer => (⟨peer, key.octets, hit.value⟩ : Errand)
  (searched.1.map Lookup.Hit.value, searched.2.mapNode fun node =>
    { node with errands := node.errands ++ repairs.toList })

/-- The search for a value asks by calls too. What it orders to be repaired is the one errand it adds
to those that its calls left behind. -/
theorem lookup_value_eq (carrier : Carrier ε) (key : Ident) (seeds : List Contact)
    (scene : Scene ε) : scene.lookupValue carrier key seeds =
      scene.searchValue (callAll (call carrier) (.findValue key.octets)) key seeds := by
  have asks : (fun (scene : Scene ε) probes => each (findValue carrier key) probes scene) =
      Lookup.picking Reply.finding? (callAll (call carrier) (.findValue key.octets)) := by
    funext scene probes
    exact each_picked (fun dest scene => scene.call carrier dest (.findValue key.octets))
      Reply.finding? probes scene
  rw [lookupValue, searchValue, asks]
  generalize Lookup.findValue scene.node.id _ key _ _ seeds scene = searched
  obtain ⟨_ | ⟨value, _ | peer⟩, last⟩ := searched
  · simp [mapNode]
  · simp [mapNode]
  · rfl

/-- The seeds as they are pinged, under a name that stands for any. -/
def placeholders (seeds : List Endpoint) : List Contact :=
  seeds.map fun seed => ⟨Ident.zero, some seed⟩

/-- Those that answered a ping, under the names they gave. -/
def introduced (outcomes : List (Contact × Option Reply)) : List Contact :=
  outcomes.filterMap fun outcome =>
    (outcome.2.bind Reply.pong?).map fun id => ⟨id, outcome.1.endpoint⟩

/-- A node joins by calling its seeds, and searches its own name from those that answered. -/
theorem bootstrap_eq (carrier : Carrier ε) (seeds : List Endpoint) (scene : Scene ε) :
    scene.bootstrap carrier seeds =
      let pinged := callAll (call carrier) .ping scene (placeholders seeds)
      if (introduced pinged.1).isEmpty then ([], pinged.2)
      else pinged.2.lookup carrier pinged.2.node.id (introduced pinged.1) := by
  have asks : each (ping carrier) (placeholders seeds) scene =
      (Lookup.picked Reply.pong? (callAll (call carrier) .ping scene (placeholders seeds)).1,
        (callAll (call carrier) .ping scene (placeholders seeds)).2) :=
    each_picked (fun dest scene => scene.call carrier dest .ping) Reply.pong? _ scene
  unfold placeholders at asks
  rw [bootstrap, asks]
  simp only [Lookup.picked, List.filterMap_map]
  rfl

end Scene
end XorOverlay
