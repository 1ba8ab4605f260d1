import Mathlib
import XorOverlay.Proofs.Exchange.Snapshot

/-!
The copies of a value. A write goes to the contacts that a search finds closest to the key, and to
the writer itself if it is no farther from the key than the farthest of them. Every one of these
holds the value afterwards, and nobody else's copy has changed.
-/

namespace XorOverlay

set_option autoImplicit false

namespace Cluster

/-- The copy of a value that a node holds itself. -/
def held (line : Nat) (key : Ident) (cluster : Cluster) : Option Octets :=
  (cluster.nodes[line]?).bind fun node => (node.store.get cluster.clock key.octets).1

/-- The contacts closest to a key, as far as a search by a node finds them. -/
def replicas (line : Nat) (key : Ident) (cluster : Cluster) : List Contact :=
  match cluster.nodes[line]? with
  | none => []
  | some node =>
    (Lookup.findNodes node.id (cluster.probe node.id (.findNode key) Reply.contacts?) key
      node.width node.parallelism (node.neighbours key node.width) ()).1

/-- Whether a write by the node of a line leaves a copy at the node of a place. -/
def receives (line place : Nat) (key : Ident) (cluster : Cluster) : Bool :=
  match cluster.nodes[line]?, cluster.nodes[place]? with
  | some node, some peer =>
    if place = line then Scene.isReplica node.id key (cluster.replicas line key)
    else (cluster.replicas line key).contains peer.contact
  | _, _ => false

end Cluster

namespace Scene

variable {line : Nat} {start : Cluster} {asker : Node} {scene : Scene Cluster}

/-- In the course of the calls that store a value, the nodes called so far hold it, and the copies
of the others are the old ones. -/
structure Storing (line : Nat) (start : Cluster) (key value : Octets) (done : List Contact)
    (scene : Scene Cluster) : Prop where
  honest : scene.Honest line start.roster
  lines : (scene.whole line).network.SameLines start.network
  peers : ∀ place peer, place ≠ line → start.nodes[place]? = some peer →
    ∃ now, (scene.whole line).nodes[place]? = some now ∧
      (now.store.get 0 key).1 =
        if peer.contact ∈ done then some value else (peer.store.get 0 key).1

theorem storing_start (still : Still line start asker scene) (key value : Octets) :
    Storing line start key value [] scene := by
  refine ⟨still.honest, still.lines, ?_⟩
  intro place peer apart found
  obtain ⟨now, standsNow, hears⟩ := still.peers place peer apart found
  refine ⟨now, standsNow, ?_⟩
  rw [hears.store, if_neg List.not_mem_nil]

theorem storing_map {key value : Octets} {done : List Contact}
    (storing : Storing line start key value done scene) (change : Node → Node)
    (same : (change scene.node).contact = scene.node.contact)
    (sane : (change scene.node).Sane start.roster) :
    Storing line start key value done (scene.mapNode change) := by
  refine ⟨honest_map storing.honest change same sane, storing.lines, ?_⟩
  intro place peer apart found
  rw [whole_map, List.getElem?_set, if_neg (Ne.symm apart)]
  exact storing.peers place peer apart found

theorem contact_injective (honest : start.Honest) {place other : Nat} {peer known : Node}
    (found : start.nodes[place]? = some peer) (there : start.nodes[other]? = some known)
    (same : known.contact = peer.contact) : other = place := by
  have endpoint : known.endpoint = peer.endpoint :=
    Option.some.inj (congrArg Contact.endpoint same)
  have routed := (honest.attached other known there).2.1
  rw [endpoint, (honest.attached place peer found).2.1] at routed
  exact (Option.some.inj routed).symm

theorem storing_call (honest : start.Honest) (stands : start.nodes[line]? = some asker)
    {key value : Octets} (shortKey : key.Short) (shortValue : value.Short) {done : List Contact}
    (storing : Storing line start key value done scene) {dest : Contact}
    (foreign : Foreign start asker dest) :
    Storing line start key value (dest :: done)
        (scene.storeAt (Cluster.carrier line) dest key value).2 ∧
      (scene.storeAt (Cluster.carrier line) dest key value).2.node.store = scene.node.store := by
  obtain ⟨place, peer, apart, found, rfl, routed⟩ := foreign_line honest stands foreign
  obtain ⟨now, standsNow, _⟩ := storing.peers place peer apart found
  have routedNow : (scene.whole line).network.route peer.endpoint = some place :=
    (Network.route_congr storing.lines _).trans routed
  obtain ⟨reply, later, called, good, _, _, _, asks⟩ := call_answers storing.honest rfl routedNow
    (Or.inl foreign.1) (show (Query.store key value).Short from ⟨shortKey, shortValue⟩)
  have asked := asks apart
  have result : (scene.storeAt (Cluster.carrier line) peer.contact key value).2 = later := by
    unfold storeAt
    rw [called]
  rw [result]
  refine ⟨⟨good, Network.same_lines_trans asked.lines storing.lines, ?_⟩, asked.asker.store⟩
  intro other known notAsker there
  by_cases same : other = place
  · subst same
    rw [found] at there
    obtain rfl := Option.some.inj there
    obtain ⟨_, heard, hears, standsLater⟩ := asked.asked now standsNow
    have slim := (Cluster.sane_at storing.honest.whole standsNow).store
    refine ⟨_, standsLater, ?_⟩
    rw [if_pos List.mem_cons_self]
    show ((heard.store.put 0 key value).get 0 key).1 = some value
    rw [hears.store, Store.get_put (Store.timed_of_slim slim), if_pos rfl]
  · obtain ⟨later, standsLater, copy⟩ := storing.peers other known notAsker there
    refine ⟨later, (asked.others other notAsker same).trans standsLater, ?_⟩
    have differs : known.contact ≠ peer.contact :=
      fun equal => same (contact_injective honest found there equal)
    rw [copy]
    simp only [List.mem_cons, differs, false_or]

theorem storing_all (honest : start.Honest) (stands : start.nodes[line]? = some asker)
    {key value : Octets} (shortKey : key.Short) (shortValue : value.Short)
    {dests done : List Contact} (foreign : ∀ dest ∈ dests, Foreign start asker dest)
    (storing : Storing line start key value done scene) :
    Storing line start key value (dests.reverse ++ done)
        (each (fun dest scene => scene.storeAt (Cluster.carrier line) dest key value) dests
          scene).2 ∧
      (each (fun dest scene => scene.storeAt (Cluster.carrier line) dest key value) dests
        scene).2.node.store = scene.node.store := by
  induction dests generalizing scene done with
  | nil => exact ⟨storing, rfl⟩
  | cons dest dests ih =>
      rw [List.forall_mem_cons] at foreign
      obtain ⟨after, kept⟩ := storing_call honest stands shortKey shortValue storing foreign.1
      obtain ⟨last, same⟩ := ih foreign.2 after
      rw [each_cons, List.reverse_cons, List.append_assoc, List.singleton_append]
      exact ⟨last, same.trans kept⟩

/-- The search of a write finds the replicas. -/
theorem lookup_replicas (honest : start.Honest) (stands : start.nodes[line]? = some asker)
    (key : Ident) {replicas : List Contact} {later : Scene Cluster}
    (searched : lookup (Cluster.carrier line) key (asker.neighbours key asker.width)
      ⟨asker, start.clock, start⟩ = (replicas, later)) :
    replicas = start.replicas line key ∧ Still line start asker later ∧
      ∀ replica ∈ replicas, Foreign start asker replica := by
  have found := lookup_still honest stands (still_start honest stands) key
    (neighbours_listed (Cluster.sane_at honest stands) key asker.width)
  rw [searched] at found
  refine ⟨found.1.trans ?_, found.2⟩
  unfold Cluster.replicas
  rw [stands]

/-- What a successful write leaves: a copy at every replica, and at the writer if it is one. -/
theorem publish_stores (honest : start.Honest) (stands : start.nodes[line]? = some asker)
    (key : Ident) {value : Octets} (short : value.Short)
    (done : ((⟨asker, start.clock, start⟩ : Scene Cluster).publish (Cluster.carrier line) key
      value).1 = true) :
    Storing line start key.octets value (start.replicas line key).reverse
        ((⟨asker, start.clock, start⟩ : Scene Cluster).publish (Cluster.carrier line) key value).2 ∧
      ((⟨asker, start.clock, start⟩ : Scene Cluster).publish (Cluster.carrier line) key
          value).2.node.store =
        if isReplica asker.id key (start.replicas line key) then
          asker.store.put 0 key.octets value
        else asker.store := by
  -- A write with nobody to ask fails, so this one had neighbours and was looked up.
  have company : ¬(asker.neighbours key asker.width).isEmpty = true := by
    intro alone
    rw [publish_eq] at done
    simp only [alone, if_true] at done
    cases done
  clear done
  rw [publish_eq]
  simp only
  rw [if_neg company]
  generalize searched : lookup (Cluster.carrier line) key (asker.neighbours key asker.width)
    ⟨asker, start.clock, start⟩ = result
  obtain ⟨replicas, later⟩ := result
  obtain ⟨rfl, last, found⟩ := lookup_replicas honest stands key searched
  have clock : later.clock = 0 := last.honest.whole.still
  have begun : Storing line start key.octets value [] later := storing_start last key.octets value
  have id : later.node.id = asker.id := last.alike.id
  have store : later.node.store = asker.store := last.alike.store
  simp only [id]
  split_ifs
  · have kept := storing_map begun (fun node => node.keep later.clock key.octets value) rfl
      (Node.keep_sane (sane_acting begun.honest) _ key.short_octets short)
    obtain ⟨stored, own⟩ := storing_all honest stands key.short_octets short found kept
    rw [List.append_nil] at stored
    refine ⟨stored, own.trans ?_⟩
    show later.node.store.put later.clock key.octets value = _
    rw [clock, store]
  · obtain ⟨stored, own⟩ := storing_all honest stands key.short_octets short found begun
    rw [List.append_nil] at stored
    exact ⟨stored, own.trans store⟩

end Scene

namespace Cluster

variable {line : Nat} {cluster : Cluster}

theorem held_none {place : Nat} (absent : cluster.nodes[place]? = none) (key : Ident) :
    cluster.held place key = none := by
  rw [held, absent]
  rfl

theorem held_some {place : Nat} {node : Node} (honest : cluster.Honest)
    (stands : cluster.nodes[place]? = some node) (key : Ident) :
    cluster.held place key = (node.store.get 0 key.octets).1 := by
  rw [held, stands, honest.still]
  rfl

theorem copies_of_storing {asker : Node} {key : Ident} {value : Octets} {scene : Scene Cluster}
    (honest : cluster.Honest) (stands : cluster.nodes[line]? = some asker)
    (after : (scene.whole line).Honest) (names : (scene.whole line).roster = cluster.roster)
    (stored : Scene.Storing line cluster key.octets value (cluster.replicas line key).reverse scene)
    (own : scene.node.store =
      if Scene.isReplica asker.id key (cluster.replicas line key) then
        asker.store.put 0 key.octets value
      else asker.store) (place : Nat) :
    (scene.whole line).held place key =
      if cluster.receives line place key then some value else cluster.held place key := by
  have count := length_of_roster names
  by_cases here : place = line
  · subst here
    rw [held_some after (Scene.whole_acting stored.honest.inside), held_some honest stands, own]
    unfold receives
    simp only [stands, if_true]
    split_ifs
    · rw [Store.get_put (Store.timed_of_slim (sane_at honest stands).store), if_pos rfl]
    · rfl
  · cases found : cluster.nodes[place]? with
    | none =>
        have beyond := List.getElem?_eq_none_iff.mp found
        have absent : (scene.whole line).nodes[place]? = none :=
          List.getElem?_eq_none_iff.mpr (by omega)
        rw [held_none absent, held_none found]
        unfold receives
        rw [stands, found]
        rfl
    | some peer =>
        obtain ⟨now, standsNow, copy⟩ := stored.peers place peer here found
        rw [held_some after standsNow, held_some honest found, copy]
        unfold receives
        simp only [stands, found, if_neg here, List.mem_reverse, List.contains_iff_mem]

/-- A successful write leaves copies at its replicas, and changes no other copy. -/
theorem set_copies (honest : cluster.Honest) (key : String) {value : Octets}
    (short : value.Short)
    (done : (cluster.act line (Scene.set (carrier line) key value)).1 = some true) (place : Nat) :
    (cluster.act line (Scene.set (carrier line) key value)).2.held place (Ident.digest key) =
      if cluster.receives line place (Ident.digest key) then some value
      else cluster.held place (Ident.digest key) := by
  obtain ⟨after, names⟩ := act_honest honest line (Scene.set (carrier line) key value)
    fun _ good => (Scene.honest_upkeep line _).set good key short
  unfold act at done after names ⊢
  cases stands : cluster.nodes[line]? with
  | none =>
      rw [stands] at done
      cases done
  | some asker =>
      rw [stands] at done after names
      have written := Scene.set_eq (carrier line) ⟨asker, cluster.clock, cluster⟩ key value
      rw [if_pos (Node.can_gather (sane_at honest stands) asker.width)] at written
      simp only [written] at done after names ⊢
      obtain ⟨stored, own⟩ :=
        Scene.publish_stores honest stands (Ident.digest key) short (Option.some.inj done)
      exact copies_of_storing honest stands after names (Scene.storing_map stored
        (fun node => node.report _ _ _) rfl
        (Node.report_sane (Scene.sane_acting stored.honest) _ _ _)) own place

end Cluster
end XorOverlay
