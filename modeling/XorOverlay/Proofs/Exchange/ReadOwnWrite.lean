import Mathlib
import XorOverlay.Proofs.Exchange.Copies

/-!
Reading back what was written. A node reads its own copy if it has one, and otherwise what a search
finds. A write does not always reach the writer: once enough closer contacts are known, it passes
the writer by, and an older copy that the writer holds from the time when it was a replica stays
where it is and hides the new value. This is the condition under which the writer reads its own
write, and a cluster of three nodes in which it does not.
-/

namespace XorOverlay

set_option autoImplicit false

/-- A stored value as it is read: an empty one marks a deleted key. -/
def Octets.shown (value : Octets) : Option Octets :=
  if value.isEmpty then none else some value

namespace Lookup

theorem findValue_alone {σ : Type} (self : Ident) (ask : Ask σ Finding) (key : Ident)
    (width parallelism : Nat) (state : σ) :
    (findValue self ask key width parallelism [] state).1 = none := by
  have nobody : (Frontier.start key width parallelism []).probes.isEmpty = true := by
    simp [Frontier.start, Frontier.probes, Candidates.pushAll, Candidates.empty,
      Candidates.uncontacted, Candidates.closest]
  unfold findValue
  rw [maxRounds, ValueSearch.run]
  simp only [ValueSearch.State.start, nobody, if_true]
  rfl

end Lookup

namespace Cluster

variable {line : Nat} {cluster : Cluster}

/-- The value of a key, as far as a search by a node finds it while the cluster stands still. -/
def searched (line : Nat) (key : Ident) (cluster : Cluster) : Option Octets :=
  match cluster.nodes[line]? with
  | none => none
  | some node =>
    (Lookup.findValue node.id (cluster.probe node.id (.findValue key.octets) Reply.finding?) key
      node.width node.parallelism (node.neighbours key node.width) ()).1.map Lookup.Hit.value

def reads (line : Nat) (key : Ident) (cluster : Cluster) : Option Octets :=
  match cluster.held line key with
  | some copy => copy.shown
  | none => (cluster.searched line key).bind Octets.shown

theorem get_reads (honest : cluster.Honest) {node : Node}
    (stands : cluster.nodes[line]? = some node) (key : String) :
    (cluster.act line (Scene.get (carrier line) key)).1 =
      some (cluster.reads line (Ident.digest key)) := by
  have still := Scene.still_start honest stands
  have own := Scene.read_own_eq still.honest (Ident.digest key)
  unfold act reads
  rw [stands, held_some honest stands]
  simp only [Scene.get_eq, own]
  cases (node.store.get 0 (Ident.digest key).octets).1 with
  | some copy => rfl
  | none =>
      have found := Scene.lookup_value_still honest stands still (Ident.digest key)
        (Scene.neighbours_listed (sane_at honest stands) (Ident.digest key) node.width)
      unfold searched
      rw [stands]
      -- With nobody to ask no search is made, and the pure search finds nothing either.
      by_cases alone : (node.neighbours (Ident.digest key) node.width).isEmpty = true
      · simp only [List.isEmpty_iff.mp alone, Lookup.findValue_alone]
        rfl
      · simp only [alone, ← found]
        cases (Scene.lookupValue (carrier line) (Ident.digest key)
          (node.neighbours (Ident.digest key) node.width) ⟨node, cluster.clock, cluster⟩).1 with
        | none => rfl
        | some value =>
            cases value with
            | nil => rfl
            | cons byte rest => rfl

theorem reads_iff (honest : cluster.Honest) (inside : line < cluster.nodes.length)
    (key : String) (value : Octets) :
    (cluster.act line (Scene.get (carrier line) key)).1 = some value.shown ↔
      (∃ copy, cluster.held line (Ident.digest key) = some copy ∧ copy.shown = value.shown) ∨
      cluster.held line (Ident.digest key) = none ∧
        (cluster.searched line (Ident.digest key)).bind Octets.shown = value.shown := by
  rw [get_reads honest (List.getElem?_eq_getElem inside), Option.some_inj, reads]
  cases cluster.held line (Ident.digest key) with
  | some copy => simp
  | none => simp

theorem inside_of_done {α : Type} {action : Scene Cluster → α × Scene Cluster} {answer : α}
    (done : (cluster.act line action).1 = some answer) : line < cluster.nodes.length := by
  by_contra beyond
  unfold act at done
  rw [List.getElem?_eq_none (not_lt.mp beyond)] at done
  cases done

/-- When a node reads its own write; a delete is the write of an empty value. A write leaves copies
exactly at the replicas that were found, the writer among them only if it is one. Read back at once,
it is there if the writer is a replica, if the copy it held before shows the same, or if it held
none and a search finds the value. Read back after errands have run, which may have brought older
copies, it is there if the copy that the writer holds by then shows the same, or if it holds none
and a search finds the value. -/
theorem read_own_write (reached : cluster.Reached) (line : Nat) (key : String) (value : Octets)
    (short : value.Short) (count : Nat)
    (done : (cluster.act line (Scene.set (carrier line) key value)).1 = some true) :
    let digest := Ident.digest key
    let written := (cluster.act line (Scene.set (carrier line) key value)).2
    let later := written.runErrands count
    (∀ place, written.held place digest =
      if cluster.receives line place digest then some value else cluster.held place digest) ∧
    ((written.act line (Scene.get (carrier line) key)).1 = some value.shown ↔
      cluster.receives line line digest = true ∨
      (∃ copy, cluster.held line digest = some copy ∧ copy.shown = value.shown) ∨
      cluster.held line digest = none ∧
        (written.searched line digest).bind Octets.shown = value.shown) ∧
    ((later.act line (Scene.get (carrier line) key)).1 = some value.shown ↔
      (∃ copy, later.held line digest = some copy ∧ copy.shown = value.shown) ∨
      later.held line digest = none ∧
        (later.searched line digest).bind Octets.shown = value.shown) := by
  intro digest written later
  have honest := honest_of_reached reached
  have inside := inside_of_done done
  obtain ⟨honestWritten, names⟩ : written.Honest ∧ written.roster = cluster.roster :=
    act_honest honest line _ fun _ good => (Scene.honest_upkeep line _).set good key short
  obtain ⟨honestLater, same⟩ : later.Honest ∧ later.roster = written.roster :=
    errands_honest count honestWritten
  have insideWritten : line < written.nodes.length := by
    rw [length_of_roster names]
    exact inside
  have insideLater : line < later.nodes.length := by
    rw [length_of_roster same]
    exact insideWritten
  have copies : ∀ place, written.held place digest =
      if cluster.receives line place digest then some value else cluster.held place digest :=
    set_copies honest key short done
  refine ⟨copies, ?_, reads_iff honestLater insideLater key value⟩
  rw [reads_iff honestWritten insideWritten, copies line]
  by_cases replica : cluster.receives line line digest = true
  · rw [if_pos replica]
    exact iff_of_true (Or.inl ⟨value, rfl, rfl⟩) (Or.inl replica)
  · rw [if_neg replica]
    exact (or_iff_right replica).symm

/-- The usual settings, but for buckets of one contact. -/
def slender : Settings :=
  { Settings.default with width := 1 }

/-- The identifier at some distance from the key `k`. -/
def nearKey (distance : Nat) : Ident :=
  (Ident.digest "k").offset (Ident.ofNat distance)

/-- A fresh node at some distance from the key `k`. -/
def settled (distance : Nat) (port : UInt16) (cluster : Cluster) : Cluster :=
  cluster.spawn slender (nearKey distance) (.v4 1 port)
    (.expiring (Expiring.empty slender.lifetime))

/-- The first node stores a value when it knows one contact, which is farther from the key. -/
def sown : Cluster :=
  ((((Cluster.empty.settled (2 ^ 150) 1).settled (2 ^ 159) 2).act 0
    (Scene.bootstrap (carrier 0) [.v4 1 2])).2.act 0 (Scene.set (carrier 0) "k" [1])).2

/-- Then a node right beside the key joins, and is sent the value. -/
def outgrown : Cluster :=
  ((sown.settled 1 3).act 2 (Scene.bootstrap (carrier 2) [.v4 1 1])).2.runErrands 1

theorem outgrown_reached : outgrown.Reached := by
  have alone : (Cluster.empty.settled (2 ^ 150) 1).Reached :=
    .spawn slender _ 1 1 .empty rfl rfl (by decide)
  have pair : ((Cluster.empty.settled (2 ^ 150) 1).settled (2 ^ 159) 2).Reached :=
    .spawn slender _ 1 2 alone (by decide) rfl (by decide)
  have old : sown.Reached :=
    .set 0 "k" [1] (.bootstrap 0 [.v4 1 2] pair) (show [1].length < 2 ^ 32 by decide)
  have grown : (sown.settled 1 3).Reached :=
    .spawn slender _ 1 3 old (by decide +kernel) rfl (by decide)
  exact .errands 1 (.bootstrap 2 [.v4 1 1] grown)

/-- The newcomer is a replica of its own write, and reads it. -/
theorem newcomer_reads_own_write :
    (outgrown.act 2 (Scene.set (carrier 2) "k" [2])).1 = some true ∧
      ((outgrown.act 2 (Scene.set (carrier 2) "k" [2])).2.act 2
        (Scene.get (carrier 2) "k")).1 = some (some [2]) := by
  have done : (outgrown.act 2 (Scene.set (carrier 2) "k" [2])).1 = some true := by decide +kernel
  have replica : outgrown.receives 2 2 (Ident.digest "k") = true := by decide +kernel
  have condition := read_own_write outgrown_reached 2 "k" [2] (show [2].length < 2 ^ 32 by decide) 0
    done
  exact ⟨done, condition.2.1.mpr (Or.inl replica)⟩

/-- The first node is no replica of the key any more. Its write and its delete succeed, at the
newcomer alone, and afterwards it still reads its older copy. -/
theorem older_copy_hides_write :
    outgrown.Reached ∧
      ((outgrown.perform 0 fun carrier => Scene.set carrier "k" [2]).1 = some true ∧
        ((outgrown.perform 0 fun carrier => Scene.set carrier "k" [2]).2.perform 0
          fun carrier => Scene.get carrier "k").1 = some (some [1])) ∧
      (outgrown.perform 0 fun carrier => Scene.delete carrier "k").1 = some true ∧
        ((outgrown.perform 0 fun carrier => Scene.delete carrier "k").2.perform 0
          fun carrier => Scene.get carrier "k").1 = some (some [1]) := by
  refine ⟨outgrown_reached, ⟨?_, ?_⟩, ?_, ?_⟩
  · decide +kernel
  · decide +kernel
  · decide +kernel
  · decide +kernel

end Cluster
end XorOverlay
