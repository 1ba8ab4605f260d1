import Mathlib
import XorOverlay.Proofs.Exchange.Operations
import XorOverlay.Proofs.Entries

/-!
The histories of a cluster of honest nodes. Nodes are started at endpoints of their own and then act
one after another, in any order; errands run in between, any number of them at a time. Whatever the
history, the cluster is honest after it.
-/

namespace XorOverlay

set_option autoImplicit false

theorem getElem?_concat {α : Type} (list : List α) (last : α) (place : Nat) :
    (list ++ [last])[place]? = if place = list.length then some last else list[place]? := by
  split_ifs with here
  · rw [here, List.getElem?_concat_length]
  · rcases Nat.lt_or_gt_of_ne here with below | above
    · rw [List.getElem?_append_left below]
    · rw [List.getElem?_eq_none (by rw [List.length_append, List.length_singleton]; omega),
        List.getElem?_eq_none above.le]

namespace Network

theorem route_bind (endpoint other : Endpoint) (network : Network) :
    (network.bind endpoint).2.route other =
      if other = endpoint then some network.lines.length else network.route other := by
  show List.lookup other ((endpoint, network.lines.length) ::
    network.bindings.filter fun binding => binding.1 != endpoint) = _
  by_cases same : other = endpoint
  · rw [List.lookup_cons, beq_iff_eq.mpr same, if_pos same]
  · rw [List.lookup_cons, beq_false_of_ne same, if_neg same]
    exact (lookup_without endpoint other network.bindings).trans (if_neg same)

theorem endpoint_bind (endpoint : Endpoint) (network : Network) (line : Nat) :
    (network.bind endpoint).2.endpoint? line =
      if line = network.lines.length then some endpoint else network.endpoint? line := by
  show ((network.lines ++ [⟨endpoint, Pending.empty⟩])[line]?).map Line.endpoint = _
  rw [getElem?_concat]
  split_ifs
  · rfl
  · rfl

end Network

namespace Cluster

variable {cluster : Cluster}

theorem empty_honest : Cluster.empty.Honest where
  still := rfl
  counted := rfl
  attached := nofun
  routed := nofun
  sane := nofun

/-- A node that is started where nobody else is takes nobody's line. -/
theorem attached_spawn (counted : cluster.network.lines.length = cluster.nodes.length)
    (attached : cluster.Attached) (settings : Settings) (id : Ident) {host : UInt32} {port : UInt16}
    (store : Store) (free : ∀ node ∈ cluster.nodes, node.endpoint ≠ .v4 host port) :
    (cluster.spawn settings id (.v4 host port) store).Attached := by
  intro line node stands
  rw [show (cluster.spawn settings id (.v4 host port) store).network =
    (cluster.network.bind (.v4 host port)).2 from rfl, Network.endpoint_bind, Network.route_bind]
  change (cluster.nodes ++ [_])[line]? = some node at stands
  rw [getElem?_concat, ← counted] at stands
  split_ifs at stands with last
  · obtain rfl := Option.some.inj stands
    rw [if_pos last]
    exact ⟨rfl, (if_pos rfl).trans (congrArg some last.symm), host, port, rfl⟩
  · rw [if_neg last, if_neg (free node (List.mem_of_getElem? stands))]
    exact attached line node stands

theorem counted_spawn (counted : cluster.network.lines.length = cluster.nodes.length)
    (settings : Settings) (id : Ident) (endpoint : Endpoint) (store : Store) :
    (cluster.spawn settings id endpoint store).network.lines.length =
      (cluster.spawn settings id endpoint store).nodes.length := by
  show (cluster.network.lines ++ [_]).length = (cluster.nodes ++ [_]).length
  rw [List.length_append, List.length_append, counted]
  rfl

/-- A node that is started where nobody else is joins the cluster without disturbing it. -/
theorem spawn_honest (honest : cluster.Honest) {settings : Settings} (id : Ident) {host : UInt32}
    {port : UInt16} {store : Store} (free : cluster.network.route (.v4 host port) = none)
    (unlimited : settings.room = none) (narrow : settings.width < 2 ^ 32) (slim : store.Slim) :
    (cluster.spawn settings id (.v4 host port) store).Honest := by
  have count := honest.counted
  -- The endpoint was free, so the new binding hides none of the old ones.
  have apart : ∀ node ∈ cluster.nodes, node.endpoint ≠ .v4 host port := by
    intro node member same
    obtain ⟨line, stands⟩ := List.mem_iff_getElem?.mp member
    have routed := (honest.attached line node stands).2.1
    rw [same, free] at routed
    cases routed
  refine ⟨honest.still, counted_spawn count _ _ _ _,
    attached_spawn count honest.attached _ _ _ apart, ?_, ?_⟩
  · intro endpoint line reached
    rw [show (cluster.spawn settings id (.v4 host port) store).network =
      (cluster.network.bind (.v4 host port)).2 from rfl, Network.route_bind] at reached
    split_ifs at reached with same
    · obtain rfl := Option.some.inj reached
      refine ⟨Node.start settings id (.v4 host port) store cluster.clock, ?_, same.symm⟩
      show (cluster.nodes ++ [_])[cluster.network.lines.length]? = _
      rw [getElem?_concat, if_pos count]
    · obtain ⟨node, stands, lives⟩ := honest.routed endpoint line reached
      have inside := (List.getElem?_eq_some_iff.mp stands).1
      refine ⟨node, ?_, lives⟩
      show (cluster.nodes ++ [_])[line]? = _
      rw [getElem?_concat, if_neg (by omega), stands]
  · intro node member
    have grows : cluster.roster ⊆
        (cluster.spawn settings id (.v4 host port) store).roster := by
      show cluster.nodes.map Node.contact ⊆ (cluster.nodes ++ [_]).map Node.contact
      rw [List.map_append]
      exact List.subset_append_left _ _
    rcases List.mem_append.mp member with old | new
    · exact Node.sane_mono grows (honest.sane node old)
    · rw [List.mem_singleton.mp new]
      exact Node.start_sane settings id (.v4 host port) cluster.clock unlimited narrow slim

theorem scene_honest (honest : cluster.Honest) {line : Nat} {node : Node}
    (stands : cluster.nodes[line]? = some node) :
    (⟨node, cluster.clock, cluster⟩ : Scene Cluster).whole line = cluster ∧
      (⟨node, cluster.clock, cluster⟩ : Scene Cluster).Honest line cluster.roster := by
  have same := Scene.whole_start stands
  refine ⟨same, ?_, ?_, (List.getElem?_eq_some_iff.mp stands).1⟩
  · rw [same]
    exact honest
  · rw [same]

theorem act_honest {α : Type} (honest : cluster.Honest) (line : Nat)
    (action : Scene Cluster → α × Scene Cluster)
    (keeps : ∀ scene : Scene Cluster, scene.Honest line cluster.roster →
      (action scene).2.Honest line cluster.roster) :
    (cluster.act line action).2.Honest ∧ (cluster.act line action).2.roster = cluster.roster := by
  unfold act
  cases stands : cluster.nodes[line]? with
  | none => exact ⟨honest, rfl⟩
  | some node =>
      have after := keeps _ (scene_honest honest stands).2
      exact ⟨after.whole, after.roster⟩

theorem errands_honest (count : Nat) (honest : cluster.Honest) :
    (cluster.runErrands count).Honest ∧ (cluster.runErrands count).roster = cluster.roster := by
  induction count generalizing cluster with
  | zero => exact ⟨honest, rfl⟩
  | succ count ih =>
      rw [runErrands]
      cases cluster.busy? with
      | none => exact ⟨honest, rfl⟩
      | some line =>
          obtain ⟨after, names⟩ := act_honest honest line
            (fun scene => ((), scene.runErrand (carrier line)))
            (fun _ good => (Scene.honest_upkeep line _).runErrand good)
          obtain ⟨last, same⟩ := ih after
          exact ⟨last, same.trans names⟩

/-- What a history of honest nodes comes to. -/
inductive Reached : Cluster → Prop where
  | empty : Reached Cluster.empty
  | spawn {cluster : Cluster} (settings : Settings) (id : Ident) (host : UInt32) (port : UInt16) :
      Reached cluster → cluster.network.route (.v4 host port) = none → settings.room = none →
      settings.width < 2 ^ 32 →
      Reached (cluster.spawn settings id (.v4 host port)
        (.expiring (Expiring.empty settings.lifetime)))
  | bootstrap {cluster : Cluster} (line : Nat) (seeds : List Endpoint) : Reached cluster →
      Reached (cluster.act line (Scene.bootstrap (carrier line) seeds)).2
  | set {cluster : Cluster} (line : Nat) (key : String) (value : Octets) : Reached cluster →
      value.Short → Reached (cluster.act line (Scene.set (carrier line) key value)).2
  | delete {cluster : Cluster} (line : Nat) (key : String) : Reached cluster →
      Reached (cluster.act line (Scene.delete (carrier line) key)).2
  | get {cluster : Cluster} (line : Nat) (key : String) : Reached cluster →
      Reached (cluster.act line (Scene.get (carrier line) key)).2
  | refresh {cluster : Cluster} (line : Nat) (draw : Nat → Nat) : Reached cluster →
      Reached (cluster.act line fun scene => ((), scene.refresh (carrier line) draw)).2
  | errands {cluster : Cluster} (count : Nat) : Reached cluster →
      Reached (cluster.runErrands count)

theorem honest_of_reached (reached : cluster.Reached) : cluster.Honest := by
  induction reached with
  | empty => exact empty_honest
  | spawn settings id host port _ free unlimited narrow ih =>
      exact spawn_honest ih id free unlimited narrow (Store.empty_slim settings.lifetime)
  | bootstrap line seeds _ ih =>
      exact (act_honest ih line _ fun _ good =>
        (Scene.honest_upkeep line _).bootstrap good fun _ _ => trivial).1
  | set line key value _ short ih =>
      exact (act_honest ih line _ fun _ good =>
        (Scene.honest_upkeep line _).set good key short).1
  | delete line key _ ih =>
      exact (act_honest ih line _ fun _ good =>
        (Scene.honest_upkeep line _).set good key
          (show Octets.Short [] from Nat.two_pow_pos 32)).1
  | get line key _ ih =>
      exact (act_honest ih line _ fun _ good =>
        (Scene.honest_upkeep line _).get good key).1
  | refresh line draw _ ih =>
      exact (act_honest ih line _ fun _ good =>
        (Scene.honest_upkeep line _).refresh good draw).1
  | errands count _ ih => exact (errands_honest count ih).1

end Cluster
end XorOverlay
