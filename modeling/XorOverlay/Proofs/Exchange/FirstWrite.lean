import Mathlib
import XorOverlay.Proofs.Exchange.Copies
import XorOverlay.Proofs.Exchange.MeshOperations

/-!
The first write of a key where all nodes know each other. However many they are, and however few of
them a search asks for, the write succeeds at any of them, and from then on all of them read it.
-/

namespace XorOverlay

set_option autoImplicit false

theorem exists_home {key : Ident} {roster : List Contact}
    (distinct : (roster.map Contact.id).Nodup) (unnamed : ∀ contact ∈ roster, contact.id ≠ key)
    (some : roster ≠ []) : ∃ home, Home key roster home := by
  obtain ⟨home, listed, closest⟩ := Finset.exists_min_image roster.toFinset
    (fun contact => contact.id.distance key) (List.toFinset_nonempty_iff roster |>.mpr some)
  refine ⟨home, distinct, unnamed, List.mem_toFinset.mp listed, ?_⟩
  exact fun contact member => closest contact (List.mem_toFinset.mpr member)

namespace Cluster

/-- Nodes that know each other. They have names of their own, and IPv4 endpoints and lines of their
own on the network; all of them answer, and each has exactly the others for its live contacts. How
many contacts it asks for, and how many at a time, may be any number from one on, and differ between
nodes. Its table has come about by contacts that were heard from and contacts that failed, its store
is an expiring one with anything in it, and its errands go to other nodes. -/
structure Acquainted (cluster : Cluster) : Prop where
  distinct : (cluster.nodes.map Node.id).Nodup
  attached : ∀ line node, cluster.nodes[line]? = some node →
    cluster.network.endpoint? line = some node.endpoint ∧
      cluster.network.route node.endpoint = some line ∧
      ∃ host port, node.endpoint = .v4 host port
  answering : ∀ node ∈ cluster.nodes, node.Answering
  wide : ∀ node ∈ cluster.nodes, 0 < node.width
  busy : ∀ node ∈ cluster.nodes, 0 < node.parallelism
  grown : ∀ node ∈ cluster.nodes, ∃ capacity start changes,
    node.table = (Table.empty node.id capacity start).after changes
  live : ∀ node ∈ cluster.nodes,
    node.table.live.Perm (cluster.roster.filter fun contact => contact.id != node.id)
  stores : ∀ node ∈ cluster.nodes, ∃ held, node.store = .expiring held
  errands : ∀ node ∈ cluster.nodes, ∀ errand ∈ node.errands,
    errand.dest ∈ cluster.roster ∧ errand.dest.id ≠ node.id ∧
      errand.key.Short ∧ errand.value.Short

/-- Nobody is named like the key, and nobody holds a value under it or is about to store one. -/
structure Unwritten (key : Ident) (cluster : Cluster) : Prop where
  unnamed : ∀ node ∈ cluster.nodes, node.id ≠ key
  unheld : ∀ place, cluster.held place key = none
  unsent : ∀ node ∈ cluster.nodes, ∀ errand ∈ node.errands, errand.key ≠ key.octets

/-- What becomes of a cluster while its nodes read a key and run their errands, in any order. -/
inductive ReadOn (key : String) (start : Cluster) : Cluster → Prop where
  | refl : ReadOn key start start
  | get {cluster : Cluster} (line : Nat) : ReadOn key start cluster →
      ReadOn key start (cluster.act line (Scene.get (carrier line) key)).2
  | errands {cluster : Cluster} (count : Nat) : ReadOn key start cluster →
      ReadOn key start (cluster.runErrands count)

variable {cluster : Cluster}

/-- Whatever contacts a table has heard from and lost, it is in good order. -/
theorem order_of_grown {table : Table} {owner : Ident}
    (grown : ∃ capacity start changes, table = (Table.empty owner capacity start).after changes) :
    table.Sound ∧ table.Coarse ∧ table.owner = owner := by
  obtain ⟨capacity, start, changes, rfl⟩ := grown
  have fresh := Table.empty_sound owner capacity start
  exact ⟨Table.after_sound fresh changes,
    Table.after_coarse fresh (Table.empty_coarse owner capacity start) changes,
    (Table.after_owner (Table.empty owner capacity start) changes).1⟩

theorem insider_of_acquainted (acquainted : cluster.Acquainted) {key : Ident}
    (unwritten : cluster.Unwritten key) (value : Octets) {node : Node}
    (member : node ∈ cluster.nodes) :
    node.Insider cluster.roster ⟨key, value, cluster.clock⟩ := by
  obtain ⟨sound, coarse, owner⟩ := order_of_grown (acquainted.grown node member)
  obtain ⟨active, room⟩ := node.answering_iff.mp (acquainted.answering node member)
  refine { active, room, sound, coarse, owner, wide := acquainted.wide node member,
           busy := acquainted.busy node member, live := ?live, timed := ?timed,
           copies := ?copies, errands := ?errands }
  case live =>
    intro contact
    rw [(acquainted.live node member).mem_iff, List.mem_filter, bne_iff_ne]
  case timed =>
    obtain ⟨held, same⟩ := acquainted.stores node member
    rw [same]
    trivial
  case copies =>
    intro held found
    obtain ⟨place, stands⟩ := List.mem_iff_getElem?.mp member
    have none := unwritten.unheld place
    rw [Cluster.held, stands] at none
    cases none.symm.trans found
  case errands =>
    intro errand due
    obtain ⟨listed, apart, shortKey, shortValue⟩ := acquainted.errands node member errand due
    exact ⟨listed, apart, ⟨shortKey, shortValue⟩,
      fun same => (unwritten.unsent node member errand due same).elim⟩

theorem mesh_of_acquainted (acquainted : cluster.Acquainted) {key : Ident}
    (unwritten : cluster.Unwritten key) (value : Octets) :
    cluster.Mesh cluster.roster ⟨key, value, cluster.clock⟩ where
  clock := rfl
  names := rfl
  attached := acquainted.attached
  insiders _ member := insider_of_acquainted acquainted unwritten value member

theorem home_of_acquainted (acquainted : cluster.Acquainted) {key : Ident}
    (unwritten : cluster.Unwritten key) (some : cluster.nodes ≠ []) :
    ∃ home, Home key cluster.roster home := by
  apply exists_home
  · rw [roster, List.map_map]
    exact acquainted.distinct
  · intro contact listed
    obtain ⟨node, member, rfl⟩ := List.mem_map.mp listed
    exact unwritten.unnamed node member
  · simpa [roster] using some

/-- With two nodes or more nobody is alone. -/
theorem company_of_acquainted (acquainted : cluster.Acquainted) (pair : 2 ≤ cluster.nodes.length)
    (node : Node) : ∃ contact ∈ cluster.roster, contact.id ≠ node.id := by
  by_contra alone
  push Not at alone
  have all : ∀ id ∈ cluster.nodes.map Node.id, id = node.id := by
    intro id listed
    obtain ⟨peer, member, rfl⟩ := List.mem_map.mp listed
    exact alone peer.contact (List.mem_map_of_mem member)
  have few := acquainted.distinct
  rw [List.eq_replicate_of_mem all, List.nodup_replicate, List.length_map] at few
  omega

section Reading

variable {write : Write} {roster : List Contact} {home : Contact} {key : String}

theorem set_leaves_home (mesh : cluster.Mesh roster write) (short : write.value.Short)
    (at_home : Home write.key roster home) (named : Ident.digest key = write.key) {line : Nat}
    {node : Node} (stands : cluster.nodes[line]? = some node)
    (company : ∃ contact ∈ roster, contact.id ≠ node.id) :
    (cluster.act line (Scene.set (carrier line) key write.value)).1 = some true ∧
      (cluster.act line (Scene.set (carrier line) key write.value)).2.Mesh roster write ∧
      (cluster.act line (Scene.set (carrier line) key write.value)).2.HeldBy write home := by
  obtain ⟨done, leads, held⟩ :=
    Scene.set_meshed (scene_meshed mesh stands) short at_home company named
  rw [act_standing _ stands]
  exact ⟨congrArg some done, leads.meshed.mesh, held⟩

theorem get_finds_home (mesh : cluster.Mesh roster write) (short : write.value.Short)
    (full : write.value ≠ []) (at_home : Home write.key roster home)
    (named : Ident.digest key = write.key) (held : cluster.HeldBy write home) {line : Nat}
    (inside : line < cluster.nodes.length) :
    (cluster.act line (Scene.get (carrier line) key)).1 = some (some write.value) := by
  have stands := List.getElem?_eq_getElem inside
  have start := held
  rw [← Scene.whole_start stands] at start
  have found := (Scene.get_meshed (scene_meshed mesh stands) short full at_home start named).1
  rw [act_standing _ stands]
  exact congrArg some found

/-- While the value is read, its home keeps it. -/
theorem read_on_keeps (short : write.value.Short) (full : write.value ≠ [])
    (at_home : Home write.key roster home) (named : Ident.digest key = write.key)
    (mesh : cluster.Mesh roster write) (held : cluster.HeldBy write home) {later : Cluster}
    (reads : ReadOn key cluster later) :
    later.Mesh roster write ∧ later.HeldBy write home := by
  induction reads with
  | refl => exact ⟨mesh, held⟩
  | get line _ ih =>
      exact act_meshed ih.1 ih.2 line fun scene meshed start =>
        (Scene.get_meshed meshed short full at_home start named).2
  | errands count _ ih => exact errands_meshed short count ih.1 ih.2

end Reading

/-- Among nodes that know each other, the first write of a key succeeds at any of them; from then on
every one of them reads the value, whatever reads of the key and errands come in between. -/
theorem first_write_visible (acquainted : cluster.Acquainted) (pair : 2 ≤ cluster.nodes.length)
    (key : String) (unwritten : cluster.Unwritten (Ident.digest key)) (value : Octets)
    (full : value ≠ []) (short : value.Short) (line : Nat) (inside : line < cluster.nodes.length) :
    let written := cluster.act line (Scene.set (carrier line) key value)
    written.1 = some true ∧
      ∀ later, ReadOn key written.2 later → ∀ reader < cluster.nodes.length,
        (later.act reader (Scene.get (carrier reader) key)).1 = some (some value) := by
  intro written
  let write : Write := ⟨Ident.digest key, value, cluster.clock⟩
  have mesh : cluster.Mesh cluster.roster write := mesh_of_acquainted acquainted unwritten value
  obtain ⟨home, at_home⟩ := home_of_acquainted acquainted unwritten
    (List.ne_nil_of_length_pos (by omega))
  have stands := List.getElem?_eq_getElem inside
  obtain ⟨done, meshWritten, held⟩ := @set_leaves_home cluster write cluster.roster home key mesh
    short at_home rfl line _ stands (company_of_acquainted acquainted pair _)
  refine ⟨done, ?_⟩
  intro later reads reader known
  obtain ⟨meshLater, kept⟩ := read_on_keeps short full at_home rfl meshWritten held reads
  have count := length_of_roster (meshLater.names.trans mesh.names.symm)
  exact get_finds_home meshLater short full at_home rfl kept (count.symm ▸ known)

/-- The same nodes, once each has heard of all others. -/
def introduced (cluster : Cluster) : Cluster :=
  { cluster with
    nodes := cluster.nodes.map fun node =>
      { node with
        table := node.table.after
          ((cluster.roster.filter fun contact => contact.id != node.id).map
            (Table.Change.add cluster.clock)) } }

theorem introduced_grown {capacity : Nat} {start : Nanoseconds}
    (fresh : ∀ node ∈ cluster.nodes, node.table = Table.empty node.id capacity start) :
    ∀ node ∈ cluster.introduced.nodes, ∃ capacity start changes,
      node.table = (Table.empty node.id capacity start).after changes := by
  intro node member
  obtain ⟨old, among, rfl⟩ := List.mem_map.mp member
  refine ⟨capacity, start, (cluster.roster.filter fun contact => contact.id != old.id).map
    (Table.Change.add cluster.clock), ?_⟩
  dsimp only
  rw [fresh old among]

/-- Nodes at the ports of one host, each on the line that its port has the number after of. -/
theorem attached_of_ports
    (placed : ∀ line < cluster.nodes.length, ((cluster.nodes[line]?).all fun node =>
      decide (cluster.network.endpoint? line = some node.endpoint ∧
        cluster.network.route node.endpoint = some line ∧
        node.endpoint = .v4 1 (UInt16.ofNat (line + 1)))) = true) : cluster.Attached := by
  intro line node stands
  have here := placed line (List.getElem?_eq_some_iff.mp stands).1
  rw [stands, Option.all_some, decide_eq_true_eq] at here
  exact ⟨here.1, here.2.1, 1, _, here.2.2⟩

/-- Three nodes that have not met, with buckets of one contact and lists of one closest contact. -/
def strangers : Cluster :=
  [1, 2, 3].foldl
    (fun cluster number => cluster.spawn { Settings.default with width := 1 } (Ident.ofNat number)
      (.v4 1 (UInt16.ofNat number)) (.expiring (Expiring.empty Expiring.defaultLifetime)))
    (Cluster.empty.wait (seconds 1))

theorem introduced_acquainted : strangers.introduced.Acquainted := by
  have able : ∀ node ∈ strangers.introduced.nodes,
      node.active = true ∧ node.canGather node.width = true ∧ 0 < node.width ∧
        0 < node.parallelism ∧ node.errands = [] ∧
        node.store = .expiring (Expiring.empty Expiring.defaultLifetime) := by
    decide +kernel
  have fresh : ∀ node ∈ strangers.nodes, node.table = Table.empty node.id 1 (seconds 1) := by
    decide +kernel
  constructor
  case distinct => decide +kernel
  case attached => exact attached_of_ports (by decide +kernel)
  case answering =>
    intro node member
    exact node.answering_iff.mpr ⟨(able node member).1, (able node member).2.1⟩
  case wide => exact fun node member => (able node member).2.2.1
  case busy => exact fun node member => (able node member).2.2.2.1
  case grown => exact introduced_grown fresh
  case live => decide +kernel
  case stores => exact fun node member => ⟨_, (able node member).2.2.2.2.2⟩
  case errands =>
    intro node member errand due
    rw [(able node member).2.2.2.2.1] at due
    cases due

theorem introduced_unwritten : strangers.introduced.Unwritten (Ident.digest "k") := by
  have empty : ∀ node ∈ strangers.introduced.nodes, node.errands = [] ∧
      (node.store.get strangers.introduced.clock (Ident.digest "k").octets).1 = none := by
    decide +kernel
  constructor
  case unnamed => decide +kernel
  case unheld =>
    intro place
    unfold held
    cases stands : strangers.introduced.nodes[place]? with
    | none => rfl
    | some node => exact (empty node (List.mem_of_getElem? stands)).2
  case unsent =>
    intro node member errand due
    rw [(empty node member).1] at due
    cases due

/-- One of three nodes writes; another reads, errands are run, and everyone reads the value. -/
theorem introduced_read_first_write :
    let written := strangers.introduced.act 0 (Scene.set (carrier 0) "k" [7])
    let later := (written.2.act 2 (Scene.get (carrier 2) "k")).2.runErrands 9
    written.1 = some true ∧
      ∀ reader < 3, (later.act reader (Scene.get (carrier reader) "k")).1 = some (some [7]) := by
  intro written later
  have count : strangers.introduced.nodes.length = 3 := by decide +kernel
  have visible := first_write_visible introduced_acquainted (by rw [count]; decide) "k"
    introduced_unwritten [7] (by decide) (show [7].length < 2 ^ 32 by decide) 0
    (by rw [count]; decide)
  rw [count] at visible
  exact ⟨visible.1, visible.2 later (.errands 9 (.get 2 .refl))⟩

end Cluster
end XorOverlay
