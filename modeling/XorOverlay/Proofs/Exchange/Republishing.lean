import Mathlib
import XorOverlay.Proofs.Exchange.CompanyOperations
import XorOverlay.Proofs.Exchange.FirstWrite
import XorOverlay.Proofs.Exchange.ReadOwnWrite

/-!
Refreshes after a write. A refresh writes again whatever the refreshing node holds, and a value carries
no mark of its age. A write does not always reach the node that makes it, nor one that is named like the
key, and an older value which such a node holds comes back with its next refresh. This is the condition
under which the write stays, and a cluster of two nodes in which it does not.
-/

namespace XorOverlay

set_option autoImplicit false

namespace Copies

variable {roster : List Contact} {copies : Copies} {key : Ident} {value : Octets}

/-- Whoever holds a copy of the key holds the value. -/
def Only (key : Ident) (value : Octets) (copies : Copies) : Prop :=
  ∀ place, copies place key = none ∨ copies place key = some value

theorem spread_only (only : copies.Only key value) (line : Nat) {other : Ident}
    (apart : other ≠ key) (written : Octets) :
    (copies.spread roster line other written).Only key value := by
  intro place
  rw [spread, if_neg fun both => apart both.1.symm]
  exact only place

/-- A refresh lays one copy of the key over another, and both are the value. -/
theorem refreshed_only (only : copies.Only key value) (line : Nat) :
    (copies.refreshed roster line).Only key value := by
  intro place
  rw [refreshed]
  split_ifs
  · rcases only line with none | own
    · rw [none]
      exact only place
    · rw [own]
      exact Or.inr rfl
  · exact only place

theorem refreshed_keeps (only : copies.Only key value) (line : Nat) {place : Nat}
    (held : copies place key = some value) :
    copies.refreshed roster line place key = some value := by
  rw [refreshed, held]
  split_ifs
  · rcases only line with none | own
    · rw [none, Option.none_or]
    · rw [own, Option.some_or]
  · rfl

/-- A repair sends round what is held already. -/
theorem repaired_only (only : copies.Only key value) {other : Ident} {held : Octets}
    (hold : copies.Hold other held) (dests : List Contact) :
    ((Query.store other.octets held).leaves roster dests copies).Only key value := by
  intro place
  rw [Query.leaves, Query.stores_store]
  split_ifs with _ same
  · subst same
    obtain ⟨holder, found⟩ := hold
    rcases only holder with none | same
    · cases none.symm.trans found
    · rw [← Option.some.inj (same.symm.trans found)]
      exact Or.inr rfl
  · exact only place
  · exact only place

end Copies

namespace Cluster

/-- Nodes that know each other, with room for all others in their lists of closest contacts. They have
names of their own, and IPv4 endpoints and lines of their own on the network; all of them answer. Their
tables have come about by contacts that were heard from and contacts that failed, their stores are
expiring ones with anything in them that the wire has room for, and they have no errands to run. -/
structure Familiar (cluster : Cluster) : Prop where
  distinct : (cluster.nodes.map Node.id).Nodup
  attached : cluster.Attached
  answering : ∀ node ∈ cluster.nodes, node.Answering
  crowd : ∀ node ∈ cluster.nodes, cluster.nodes.length ≤ node.width + 1
  grown : ∀ node ∈ cluster.nodes, ∃ capacity start changes,
    node.table = (Table.empty node.id capacity start).after changes
  live : ∀ node ∈ cluster.nodes,
    node.table.live.Perm (cluster.roster.filter fun contact => contact.id != node.id)
  stores : ∀ node ∈ cluster.nodes, node.store.Tidy
  idle : ∀ node ∈ cluster.nodes, node.errands = []

/-- What becomes of a cluster while its nodes work, one operation after another, and write no keys but
those that may be written. -/
inductive Works (writes : Ident → Prop) (start : Cluster) : Cluster → Prop where
  | refl : Works writes start start
  | set {cluster : Cluster} (line : Nat) (key : String) {value : Octets} :
      writes (Ident.digest key) → value.Short → Works writes start cluster →
      Works writes start (cluster.perform line fun carrier => Scene.set carrier key value).2
  | delete {cluster : Cluster} (line : Nat) (key : String) : writes (Ident.digest key) →
      Works writes start cluster →
      Works writes start (cluster.perform line fun carrier => Scene.delete carrier key).2
  | get {cluster : Cluster} (line : Nat) (key : String) : Works writes start cluster →
      Works writes start (cluster.perform line fun carrier => Scene.get carrier key).2
  | refresh {cluster : Cluster} (line : Nat) (draw : Nat → Nat) : Works writes start cluster →
      Works writes start
        (cluster.perform line fun carrier scene => ((), Scene.refresh carrier draw scene)).2

variable {start later : Cluster}

theorem companion_of_familiar (familiar : start.Familiar) {node : Node}
    (member : node ∈ start.nodes) : node.Companion start.roster := by
  obtain ⟨sound, coarse, owner⟩ := order_of_grown (familiar.grown node member)
  obtain ⟨active, room⟩ := node.answering_iff.mp (familiar.answering node member)
  refine { active, room, sound, coarse, owner, crowd := ?crowd, listed := ?listed, live := ?live,
           store := familiar.stores node member }
  case crowd =>
    rw [roster, List.length_map]
    exact familiar.crowd node member
  case listed => exact List.mem_map_of_mem member
  case live =>
    intro contact
    rw [(familiar.live node member).mem_iff, List.mem_filter, bne_iff_ne]

theorem company_of_familiar (familiar : start.Familiar) :
    start.Company start.roster start.clock (fun place key => start.held place key)
      (idle start.roster) where
  clock := rfl
  names := rfl
  distinct := by
    rw [roster, List.map_map]
    exact familiar.distinct
  attached := familiar.attached
  companions _ member := companion_of_familiar familiar member
  held _ _ := rfl
  due := by
    rw [roster, XorOverlay.idle, List.map_map]
    exact List.map_congr_left fun node member => familiar.idle node member

/-- Work leaves a company, and where everyone who holds a copy of a key holds one value, it stays so as
long as the key is not written. -/
theorem works_company {writes : Ident → Prop} {roster : List Contact} {now : Nanoseconds}
    {copies : Copies} (company : start.Company roster now copies (XorOverlay.idle roster))
    (works : start.Works writes later) :
    ∃ changed, later.Company roster now changed (XorOverlay.idle roster) ∧
      ∀ key value, ¬writes key → copies.Only key value → changed.Only key value := by
  induction works with
  | refl => exact ⟨copies, company, fun _ _ _ only => only⟩
  | set line key allowed short _ ih =>
      obtain ⟨changed, good, kept⟩ := ih
      refine ⟨_, (perform_set good line key short).1, fun other value refused only => ?_⟩
      exact Copies.spread_only (kept other value refused only) line
        (fun same => refused (same ▸ allowed)) _
  | delete line key allowed _ ih =>
      obtain ⟨changed, good, kept⟩ := ih
      have short : Octets.Short [] := Nat.two_pow_pos 32
      refine ⟨_, (perform_set good line key short).1, fun other value refused only => ?_⟩
      exact Copies.spread_only (kept other value refused only) line
        (fun same => refused (same ▸ allowed)) _
  | get line key _ ih =>
      obtain ⟨changed, good, kept⟩ := ih
      obtain ⟨copied, read, same | ⟨dest, value, hold, repaired⟩⟩ := perform_get good line key
      · subst same
        exact ⟨_, read, kept⟩
      · refine ⟨copied, read, fun other held refused only => ?_⟩
        rw [repaired]
        exact Copies.repaired_only (kept other held refused only) hold [dest]
  | refresh line draw _ ih =>
      obtain ⟨changed, good, kept⟩ := ih
      refine ⟨_, perform_refresh good line draw, fun other value refused only => ?_⟩
      exact Copies.refreshed_only (kept other value refused only) line

/-- A write that succeeded leaves a copy with everyone it reaches, and changes no other copy of the
key. Whatever comes after it, while the key is not written again no refresh turns a copy of the value
into something else exactly if nobody the write passed by held another value; a delete is the write of
an empty value. -/
theorem refresh_keeps_write_iff (familiar : start.Familiar) {before : Cluster}
    (history : start.Works (fun _ => True) before) (line : Nat) (key : String) (value : Octets)
    (short : value.Short)
    (done : (before.perform line fun carrier => Scene.set carrier key value).1 = some true) :
    let digest := Ident.digest key
    let written := (before.perform line fun carrier => Scene.set carrier key value).2
    (∀ place, written.held place digest =
      if reaches start.roster digest line place = true then some value
      else before.held place digest) ∧
    ((∀ later, written.Works (fun other => other ≠ digest) later →
        ∀ refresher draw place, later.held place digest = some value →
          (later.perform refresher fun carrier scene =>
            ((), Scene.refresh carrier draw scene)).2.held place digest = some value) ↔
      ∀ place, reaches start.roster digest line place = true ∨
        before.held place digest = none ∨ before.held place digest = some value) := by
  intro digest written
  obtain ⟨copies, company, _⟩ := works_company (company_of_familiar familiar) history
  obtain ⟨spread, reached⟩ := perform_set company line key short
  have after : ∀ place, written.held place digest =
      if reaches start.roster digest line place = true then some value
      else before.held place digest := by
    intro place
    rw [spread.held, company.held, Copies.spread]
    simp only [digest, true_and]
  refine ⟨after, ?_, ?_⟩
  · intro keeps place
    by_contra passed
    push Not at passed
    obtain ⟨unreached, some, other⟩ := passed
    obtain ⟨stale, held⟩ := Option.ne_none_iff_exists'.mp some
    obtain ⟨copied, away, copy⟩ := reached done
    have apart : copied ≠ place := fun same => unreached (same ▸ copy)
    obtain ⟨holder, holds⟩ : ∃ holder, start.roster[place]? = Option.some holder := by
      cases stands : before.nodes[place]? with
      | none => exact (some (held_none stands digest)).elim
      | some node => exact ⟨_, contact_at company stands⟩
    have fresh : written.held copied digest = Option.some value := by rw [after, if_pos copy]
    have old : written.held place digest = Option.some stale := by rw [after, if_neg unreached, held]
    -- The next refresh of the holder brings the older value back.
    have kept := keeps written .refl place (fun _ => 0) copied fresh
    rw [(perform_refresh spread place _).held, Copies.refreshed,
      if_pos (reaches_from holds apart away copy), ← spread.held, old, Option.some_or] at kept
    exact other (held.trans kept)
  · intro agreed later works refresher draw place held
    have only : (copies.spread start.roster line digest value).Only digest value := by
      intro place
      rw [← spread.held, after]
      rcases agreed place with reached | same
      · rw [if_pos reached]
        exact Or.inr rfl
      · split_ifs
        · exact Or.inr rfl
        · exact same
    obtain ⟨changed, good, kept⟩ := works_company spread works
    rw [(perform_refresh good refresher draw).held]
    exact Copies.refreshed_keeps (kept digest value (fun apart => apart rfl) only) refresher
      ((good.held place digest).symm.trans held)

/-- Two nodes that have not met, one far from the key `k` and one right beside it. -/
def unmet : Cluster :=
  (Cluster.empty.settled (2 ^ 159) 1).settled 1 2

def couple : Cluster :=
  unmet.introduced

theorem couple_familiar : couple.Familiar := by
  have able : ∀ node ∈ couple.nodes,
      node.active = true ∧ node.canGather node.width = true ∧ node.width = 1 ∧
        node.errands = [] ∧ node.store = .expiring (Expiring.empty slender.lifetime) := by
    decide +kernel
  have fresh : ∀ node ∈ unmet.nodes, node.table = Table.empty node.id 1 0 := by decide +kernel
  have count : couple.nodes.length = 2 := by decide +kernel
  constructor
  case distinct => decide +kernel
  case attached => exact attached_of_ports (by decide +kernel)
  case answering =>
    intro node member
    exact node.answering_iff.mpr ⟨(able node member).1, (able node member).2.1⟩
  case crowd =>
    intro node member
    rw [count, (able node member).2.2.1]
  case grown => exact introduced_grown fresh
  case live => decide +kernel
  case stores =>
    intro node member
    rw [(able node member).2.2.2.2]
    exact Store.empty_tidy slender.lifetime
  case idle => exact fun node member => (able node member).2.2.2.1

/-- The write of the near node reaches both, and no refresh undoes it. -/
theorem near_write_stays :
    let written := (couple.perform 1 fun carrier => Scene.set carrier "k" [1]).2
    (couple.perform 1 fun carrier => Scene.set carrier "k" [1]).1 = some true ∧
      written.held 0 (Ident.digest "k") = some [1] ∧
      ∀ refresher draw, (written.perform refresher fun carrier scene =>
        ((), Scene.refresh carrier draw scene)).2.held 0 (Ident.digest "k") = some [1] := by
  intro written
  have done : (couple.perform 1 fun carrier => Scene.set carrier "k" [1]).1 = some true := by
    decide +kernel
  have everywhere : ∀ place < 2, reaches couple.roster (Ident.digest "k") 1 place = true := by
    decide +kernel
  obtain ⟨copies, stays⟩ := refresh_keeps_write_iff couple_familiar .refl 1 "k" [1]
    (show [1].length < 2 ^ 32 by decide) done
  have held : written.held 0 (Ident.digest "k") = some [1] := by
    rw [copies, if_pos (everywhere 0 (by decide))]
  refine ⟨done, held, fun refresher draw => stays.mpr ?_ written .refl refresher draw 0 held⟩
  intro place
  by_cases inside : place < 2
  · exact Or.inl (everywhere place inside)
  · have count : couple.nodes.length = 2 := by decide +kernel
    exact Or.inr (Or.inl (held_none (List.getElem?_eq_none (count ▸ not_lt.mp inside)) _))

/-- The write of the far node, and likewise its delete, reaches only the near one. It succeeds; then the
far node is refreshed, and the near one holds the older value again. -/
theorem far_refresh_undoes_write :
    let before := (couple.perform 1 fun carrier => Scene.set carrier "k" [1]).2
    let written := (before.perform 0 fun carrier => Scene.set carrier "k" [2]).2
    let deleted := (before.perform 0 fun carrier => Scene.delete carrier "k").2
    let refresh := fun (cluster : Cluster) => (cluster.perform 0 fun carrier scene =>
      ((), Scene.refresh carrier (fun _ => 0) scene)).2
    couple.Familiar ∧ couple.Works (fun _ => True) before ∧
      ((before.perform 0 fun carrier => Scene.set carrier "k" [2]).1 = some true ∧
        written.held 1 (Ident.digest "k") = some [2] ∧
        (refresh written).held 1 (Ident.digest "k") = some [1]) ∧
      (before.perform 0 fun carrier => Scene.delete carrier "k").1 = some true ∧
        deleted.held 1 (Ident.digest "k") = some [] ∧
        (refresh deleted).held 1 (Ident.digest "k") = some [1] := by
  intro before written deleted refresh
  refine ⟨couple_familiar,
    .set 1 "k" trivial (show [1].length < 2 ^ 32 by decide) .refl, ?_⟩
  decide +kernel

end Cluster
end XorOverlay
