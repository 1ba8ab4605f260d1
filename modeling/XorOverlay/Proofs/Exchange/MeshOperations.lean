import Mathlib
import XorOverlay.Node.Operation
import XorOverlay.Proofs.Exchange.MeshSearches

/-!
Operations in a mesh. Whoever writes, the write leaves a copy at the node closest to the key: either
the writer is that node and counts as a replica, or that node is the first of the replicas found.
Whoever reads the key then holds a copy itself or finds the one of that node.
-/

namespace XorOverlay

set_option autoImplicit false

/-- Nodes of different names, none of them the key's, and whoever of them is closest to the key. -/
structure Home (key : Ident) (roster : List Contact) (home : Contact) : Prop where
  distinct : (roster.map Contact.id).Nodup
  unnamed : ∀ contact ∈ roster, contact.id ≠ key
  listed : home ∈ roster
  closest : ∀ contact ∈ roster, home.id.distance key ≤ contact.id.distance key

namespace Scene

/-- Among replicas that were found, a node is one if it is no farther from the key than one of them. -/
theorem is_replica_iff {self key : Ident} {replicas : List Contact} (some : replicas ≠ []) :
    isReplica self key replicas = true ↔
      ∃ contact ∈ replicas, self.rank key ≤ contact.id.rank key := by
  unfold isReplica
  cases most : (replicas.map fun contact => contact.id.rank key).max? with
  | none => exact (some (List.map_eq_nil_iff.mp (List.max?_eq_none_iff.mp most))).elim
  | some farthest =>
      obtain ⟨member, greatest⟩ := List.max?_eq_some_iff.mp most
      obtain ⟨contact, listed, rank⟩ := List.mem_map.mp member
      rw [decide_eq_true_iff, ← rank]
      constructor
      · exact fun within => ⟨contact, listed, within⟩
      · rintro ⟨other, among, within⟩
        rw [rank]
        exact within.trans (greatest _ (List.mem_map_of_mem among))

theorem is_replica_of_closest {self key : Ident} {replicas : List Contact}
    (closest : ∀ contact ∈ replicas, self.distance key ≤ contact.id.distance key) :
    isReplica self key replicas = true := by
  cases replicas with
  | nil => rfl
  | cons first rest =>
      refine (is_replica_iff (List.cons_ne_nil first rest)).mpr ⟨first, List.mem_cons_self, ?_⟩
      exact Ident.rank_mono (closest first List.mem_cons_self)

variable {line : Nat} {roster : List Contact} {write : Write} {scene : Scene Cluster}
  {home : Contact}

/-- Someone closest to the key is the first of all others, unless it is the acting node. -/
theorem home_first {key own : Ident} {all : List Contact} (at_home : Home key roster home)
    (others : Others key roster own all) (apart : home.id ≠ own) :
    ∃ rest, all = home :: rest := by
  have member := (others.mem home).mpr ⟨at_home.listed, apart⟩
  cases all with
  | nil => cases member
  | cons first rest =>
      have known := ((others.mem first).mp List.mem_cons_self).1
      have least := at_home.closest first known
      rcases List.mem_cons.mp member with rfl | behind
      · exact ⟨rest, rfl⟩
      · have before := (List.pairwise_cons.mp others.ascending).1 home behind
        omega

theorem home_acting (meshed : scene.Meshed line roster write)
    (at_home : Home write.key roster home) (same : home.id = scene.node.id) :
    home = scene.node.contact :=
  List.inj_on_of_nodup_map at_home.distinct at_home.listed
    (List.mem_of_getElem? (meshed_contact meshed)) same

theorem held_acting (meshed : scene.Meshed line roster write) :
    (scene.whole line).HeldBy write scene.node.contact ↔
      scene.node.copy write.now write.key = some write.value := by
  have acting := whole_acting meshed.inside
  constructor
  · rintro ⟨holder, member, same, copied⟩
    obtain ⟨place, found⟩ := List.mem_iff_getElem?.mp member
    obtain rfl := Cluster.mesh_unique meshed.mesh found acting same
    rw [acting] at found
    rw [Option.some.inj found]
    exact copied
  · intro copied
    exact ⟨scene.node, List.mem_of_getElem? acting, rfl, copied⟩

theorem clock_meshed (meshed : scene.Meshed line roster write) : scene.clock = write.now :=
  meshed.mesh.clock

theorem keep_meshed (meshed : scene.Meshed line roster write) (short : write.value.Short) :
    Leads line roster write scene
        (scene.mapNode fun node => node.keep scene.clock write.key.octets write.value) ∧
      ((scene.mapNode fun node => node.keep scene.clock write.key.octets write.value).whole
        line).HeldBy write scene.node.contact := by
  have insider := meshed_insider meshed
  have copied := Node.copy_keep insider write.key.octets write.value
  rw [if_pos rfl] at copied
  rw [clock_meshed meshed]
  have leads := leads_map meshed (fun node => node.keep write.now write.key.octets write.value) rfl
    (Node.keep_insider insider ⟨⟨write.key.short_octets, short⟩, fun _ => rfl⟩) fun _ => copied
  exact ⟨leads, (held_acting leads.meshed).mpr copied⟩

theorem store_each (key value : Octets) (dests : List Contact) (scene : Scene Cluster) :
    each (fun dest scene => scene.storeAt (Cluster.carrier line) dest key value) dests scene =
      Lookup.picking Reply.stored? (asking line (.store key value)) scene dests :=
  each_picked (fun dest scene => scene.call (Cluster.carrier line) dest (.store key value))
    Reply.stored? dests scene

/-- The value is stored at all others that are asked to. -/
theorem store_all_meshed (meshed : scene.Meshed line roster write) (short : write.value.Short)
    {dests : List Contact} (others : ∀ dest ∈ dests, dest ∈ roster ∧ dest.id ≠ scene.node.id)
    (company : dests ≠ []) :
    let stored := each (fun dest scene =>
      scene.storeAt (Cluster.carrier line) dest write.key.octets write.value) dests scene
    stored.1.any (fun answer => answer.2 == some true) = true ∧
      Leads line roster write scene stored.2 ∧
      ∀ dest ∈ dests, (stored.2.whole line).HeldBy write dest := by
  have asks : write.Asks (.store write.key.octets write.value) :=
    ⟨⟨write.key.short_octets, short⟩, fun _ => rfl⟩
  obtain ⟨leads, brings, kept⟩ := asking_meshed meshed short asks others
  dsimp only
  rw [store_each]
  refine ⟨?_, leads, kept write.value rfl⟩
  obtain ⟨first, rest, rfl⟩ := List.exists_cons_of_ne_nil company
  have asked : first ∈ (asking line (.store write.key.octets write.value) scene
      (first :: rest)).1.map Prod.fst := by
    rw [brings.asked]
    exact List.mem_cons_self
  obtain ⟨outcome, listed, _⟩ := List.mem_map.mp asked
  obtain ⟨_, reply, replied, accepted, _⟩ := brings.told outcome listed
  refine List.any_eq_true.mpr ⟨_, List.mem_map_of_mem listed, ?_⟩
  rw [replied, show reply = .stored true from accepted]
  rfl

/-- Stored at the closest of all others, the value is stored at the node closest to the key. -/
theorem store_home_meshed {width : Nat} (wide : 0 < width)
    (meshed : scene.Meshed line roster write) (short : write.value.Short)
    (at_home : Home write.key roster home) {all : List Contact}
    (others : Others write.key roster scene.node.id all) (company : all ≠ [])
    (own : home.id = scene.node.id → (scene.whole line).HeldBy write home) :
    let stored := each (fun dest scene =>
      scene.storeAt (Cluster.carrier line) dest write.key.octets write.value) (all.take width) scene
    stored.1.any (fun answer => answer.2 == some true) = true ∧
      Leads line roster write scene stored.2 ∧ (stored.2.whole line).HeldBy write home := by
  obtain ⟨first, rest, rfl⟩ := List.exists_cons_of_ne_nil company
  obtain ⟨width, rfl⟩ := Nat.exists_eq_succ_of_ne_zero wide.ne'
  obtain ⟨accepted, leads, copies⟩ := store_all_meshed meshed short
    (fun dest chosen => (others.mem dest).mp (List.mem_of_mem_take chosen))
    (show (first :: rest).take (width + 1) ≠ [] from List.cons_ne_nil _ _)
  refine ⟨accepted, leads, ?_⟩
  by_cases here : home.id = scene.node.id
  · exact leads.keeps home (own here)
  · obtain ⟨rest, same⟩ := home_first at_home others here
    apply copies
    rw [(List.cons.inj same).1]
    exact List.mem_cons_self

/-- Whoever is not alone has neighbours, and they are the closest of all others. -/
theorem neighbours_meshed (meshed : scene.Meshed line roster write)
    (at_home : Home write.key roster home)
    (company : ∃ contact ∈ roster, contact.id ≠ scene.node.id) :
    ∃ all, Others write.key roster scene.node.id all ∧ all ≠ [] ∧
      scene.node.neighbours write.key scene.node.width = all.take scene.node.width ∧
      ¬(all.take scene.node.width).isEmpty = true := by
  have insider := meshed_insider meshed
  obtain ⟨all, ascending, mem, near⟩ := Node.neighbours_insider insider at_home.unnamed
  obtain ⟨peer, other⟩ := company
  have some : all ≠ [] := List.ne_nil_of_mem ((mem peer).mpr other)
  refine ⟨all, ⟨ascending, mem⟩, some, near, ?_⟩
  rw [List.isEmpty_iff, List.take_eq_nil_iff]
  exact fun none => none.elim insider.wide.ne' some

/-- A write succeeds and leaves a copy at the node closest to the key. -/
theorem publish_meshed (meshed : scene.Meshed line roster write) (short : write.value.Short)
    (at_home : Home write.key roster home)
    (company : ∃ contact ∈ roster, contact.id ≠ scene.node.id) :
    (scene.publish (Cluster.carrier line) write.key write.value).1 = true ∧
      Leads line roster write scene
        (scene.publish (Cluster.carrier line) write.key write.value).2 ∧
      ((scene.publish (Cluster.carrier line) write.key write.value).2.whole line).HeldBy write
        home := by
  have wide := (meshed_insider meshed).wide
  obtain ⟨all, others, some, near, asked⟩ := neighbours_meshed meshed at_home company
  obtain ⟨found, leads⟩ := lookup_meshed meshed short others
  have same := leads_id meshed leads
  rw [publish_eq]
  rw [near]
  simp only [if_neg asked, found]
  split_ifs with replica
  · obtain ⟨kept, held⟩ := keep_meshed leads.meshed short
    have last := leads_trans leads kept
    obtain ⟨accepted, stored, copy⟩ := store_home_meshed wide last.meshed short at_home
      ((leads_id meshed last).symm ▸ others) some (fun here => by
        rw [home_acting leads.meshed at_home here]
        exact held)
    exact ⟨accepted, leads_trans last stored, copy⟩
  · -- The node closest to the key counts itself as a replica, so the writer is not that node.
    have apart : home.id ≠ scene.node.id := by
      intro here
      apply replica
      apply is_replica_of_closest
      intro contact chosen
      rw [same, ← here]
      exact at_home.closest contact ((others.mem contact).mp (List.mem_of_mem_take chosen)).1
    obtain ⟨accepted, stored, copy⟩ := store_home_meshed wide leads.meshed short at_home
      (same.symm ▸ others) some fun here => (apart (here.trans same)).elim
    exact ⟨accepted, leads_trans leads stored, copy⟩

theorem report_meshed (meshed : scene.Meshed line roster write) (now latency : Nanoseconds)
    (success : Bool) :
    Leads line roster write scene (scene.mapNode fun node => node.report now latency success) :=
  leads_map meshed (fun node => node.report now latency success) rfl
    (Node.report_insider (meshed_insider meshed) now latency success) fun held => held

/-- A write reports what became of it. -/
theorem set_meshed (meshed : scene.Meshed line roster write) (short : write.value.Short)
    (at_home : Home write.key roster home)
    (company : ∃ contact ∈ roster, contact.id ≠ scene.node.id) {key : String}
    (named : Ident.digest key = write.key) :
    (scene.set (Cluster.carrier line) key write.value).1 = true ∧
      Leads line roster write scene (scene.set (Cluster.carrier line) key write.value).2 ∧
      ((scene.set (Cluster.carrier line) key write.value).2.whole line).HeldBy write home := by
  obtain ⟨accepted, leads, copy⟩ := publish_meshed meshed short at_home company
  rw [set_eq, if_pos (meshed_insider meshed).room, named]
  generalize publish (Cluster.carrier line) write.key write.value scene = result
    at accepted leads copy ⊢
  obtain ⟨success, later⟩ := result
  have reported :=
    report_meshed leads.meshed later.clock (later.clock - scene.clock) success
  exact ⟨accepted, leads_trans leads reported, reported.keeps home copy⟩

theorem read_own_meshed (meshed : scene.Meshed line roster write) :
    (scene.readOwn write.key).1 = scene.node.copy write.now write.key ∧
      Leads line roster write scene (scene.readOwn write.key).2 := by
  have insider := meshed_insider meshed
  unfold readOwn
  rw [clock_meshed meshed]
  refine ⟨rfl, leads_map meshed (fun node =>
    { node with store := (scene.node.store.get write.now write.key.octets).2 }) rfl
    (Node.read_insider insider write.key.octets) ?_⟩
  intro held
  exact (Node.copy_read insider write.key.octets).trans held

/-- Once the node closest to the key holds the value, everyone reads it. -/
theorem get_meshed (meshed : scene.Meshed line roster write) (short : write.value.Short)
    (full : write.value ≠ []) (at_home : Home write.key roster home)
    (held : (scene.whole line).HeldBy write home) {key : String}
    (named : Ident.digest key = write.key) :
    (scene.get (Cluster.carrier line) key).1 = some write.value ∧
      Leads line roster write scene (scene.get (Cluster.carrier line) key).2 := by
  obtain ⟨own, leads⟩ := read_own_meshed meshed
  have filled : write.value.isEmpty = false := by simpa using full
  rw [get_eq, named]
  dsimp only
  generalize readOwn write.key scene = result at own leads ⊢
  obtain ⟨copy, later⟩ := result
  change copy = _ at own
  cases copy with
  | some value =>
      have same := (meshed_insider meshed).copies value own.symm
      simp only [same, filled]
      exact ⟨rfl, leads⟩
  | none =>
      have apart : home.id ≠ later.node.id := by
        intro here
        rw [leads_id meshed leads] at here
        rw [home_acting meshed at_home here, held_acting meshed, ← own] at held
        cases held
      obtain ⟨all, others, _, near, asked⟩ :=
        neighbours_meshed leads.meshed at_home ⟨home, at_home.listed, apart⟩
      obtain ⟨rest, rfl⟩ := home_first at_home others apart
      obtain ⟨found, searched⟩ := lookup_value_meshed leads.meshed short others
        (leads.keeps home held)
      simp only [near, if_neg asked]
      generalize lookupValue (Cluster.carrier line) write.key _ later = result
        at found searched ⊢
      obtain ⟨value, last⟩ := result
      change value = _ at found
      simp only [found, Option.filter, filled]
      refine ⟨rfl, leads_trans leads (leads_trans searched ?_)⟩
      exact report_meshed searched.meshed last.clock (last.clock - later.clock) true

/-- An errand in a mesh only adds to the copies. -/
theorem run_errand_meshed (meshed : scene.Meshed line roster write) (short : write.value.Short) :
    Leads line roster write scene (scene.runErrand (Cluster.carrier line)) := by
  have insider := meshed_insider meshed
  unfold runErrand
  split
  · exact leads_refl meshed
  · next errand rest due =>
      obtain ⟨listed, apart, asks⟩ := insider.errands errand (by rw [due]; exact List.mem_cons_self)
      have begun := leads_map meshed (fun node => { node with errands := rest }) rfl
        (Node.errands_insider insider fun other later =>
          insider.errands other (by rw [due]; exact List.mem_cons_of_mem _ later)) fun held => held
      obtain ⟨_, _, later, called, leads, _⟩ :=
        @meshed_call line roster write _ begun.meshed short errand.dest listed apart _ asks
      unfold storeAt
      rw [called]
      exact leads_trans begun leads

end Scene

namespace Cluster

variable {roster : List Contact} {write : Write} {home : Contact} {cluster : Cluster}

theorem scene_meshed (mesh : cluster.Mesh roster write) {line : Nat} {node : Node}
    (stands : cluster.nodes[line]? = some node) :
    (⟨node, cluster.clock, cluster⟩ : Scene Cluster).Meshed line roster write := by
  refine ⟨?_, (List.getElem?_eq_some_iff.mp stands).1⟩
  rw [Scene.whole_start stands]
  exact mesh

/-- An action of a node that leads on from a mesh in which the value has its home leads to one. -/
theorem act_meshed {α : Type} (mesh : cluster.Mesh roster write)
    (held : cluster.HeldBy write home) (line : Nat) {action : Scene Cluster → α × Scene Cluster}
    (leads : ∀ scene : Scene Cluster, scene.Meshed line roster write →
      (scene.whole line).HeldBy write home → Scene.Leads line roster write scene (action scene).2) :
    (cluster.act line action).2.Mesh roster write ∧
      (cluster.act line action).2.HeldBy write home := by
  unfold act
  cases stands : cluster.nodes[line]? with
  | none => exact ⟨mesh, held⟩
  | some node =>
      have start : (Scene.whole line ⟨node, cluster.clock, cluster⟩).HeldBy write home := by
        rw [Scene.whole_start stands]
        exact held
      have after := leads _ (scene_meshed mesh stands) start
      exact ⟨after.meshed.mesh, after.keeps home start⟩

theorem errands_meshed (short : write.value.Short) (count : Nat)
    (mesh : cluster.Mesh roster write) (held : cluster.HeldBy write home) :
    (cluster.runErrands count).Mesh roster write ∧
      (cluster.runErrands count).HeldBy write home := by
  induction count generalizing cluster with
  | zero => exact ⟨mesh, held⟩
  | succ count ih =>
      rw [runErrands]
      cases cluster.busy? with
      | none => exact ⟨mesh, held⟩
      | some line =>
          obtain ⟨after, copy⟩ := @act_meshed roster write home cluster _ mesh held line
            (fun scene => ((), scene.runErrand (carrier line)))
            fun scene meshed _ => Scene.run_errand_meshed meshed short
          exact ih after copy

end Cluster
end XorOverlay
