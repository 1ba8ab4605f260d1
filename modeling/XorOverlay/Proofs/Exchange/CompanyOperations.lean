import Mathlib
import XorOverlay.Proofs.Exchange.Spreading

/-!
Operations of companions, told by the copies before and after. Writes spread a value, reads change no
copies but may send one of them to one more place, and a refresh lays the copies of one member over
those of all it reaches.
-/

namespace XorOverlay

set_option autoImplicit false

namespace Scene

variable {line : Nat} {roster : List Contact} {now : Nanoseconds} {copies : Copies}
  {due : List (List Errand)} {scene : Scene Cluster}

theorem keep_in_company (accompanied : scene.Accompanied line roster now copies due) (key : Ident)
    {value : Octets} (short : value.Short) :
    (scene.mapNode fun node => node.keep scene.clock key.octets value).Accompanied line roster now
      (fun place named => if place = line ∧ named = key then some value else copies place named)
      due := by
  have companion := companion_acting accompanied
  have still := Cluster.due_still accompanied.company (whole_acting accompanied.inside)
  rw [clock_acting accompanied, ← still]
  refine accompanied_map accompanied (fun node => node.keep now key.octets value) rfl
    (Node.keep_companion companion now key.short_octets short) ?_ ?_
  · intro named
    rw [Node.keep_copy companion, copy_acting accompanied]
    simp only [true_and, Ident.octets_injective.eq_iff]
  · intro other apart named
    rw [if_neg fun both => apart both.1]

theorem report_in_company (accompanied : scene.Accompanied line roster now copies due)
    (latency : Nanoseconds) (success : Bool) :
    (scene.mapNode fun node => node.report scene.clock latency success).Accompanied line roster now
      copies due :=
  calm_map accompanied (fun node => node.report scene.clock latency success) rfl
    { companion_acting accompanied with } (fun _ => rfl) rfl

/-- What is left once the value has been stored at all others that a write goes to. -/
theorem leaves_spread (copies : Copies) {all : List Contact} {key : Ident} (value : Octets)
    (distinct : (roster.map Contact.id).Nodup) {writer : Contact}
    (writes : roster[line]? = some writer) (fellows : Node.Fellows key roster writer.id all)
    {kept : Copies} (own : ∀ place named, kept place named =
      if place = line ∧ named = key ∧ all ≠ [] ∧ isReplica writer.id key all = true then some value
      else copies place named) :
    (Query.store key.octets value).leaves roster all kept =
      copies.spread roster line key value := by
  funext place named
  rw [Query.leaves, Query.stores_store, own]
  simp only [Copies.spread, reaches_iff distinct writes fellows place]
  by_cases same : named = key
  · subst same
    by_cases stored : (roster[place]?).any all.contains = true
    · simp only [stored, if_true, or_true, and_self, Option.some_or]
    · simp only [stored, Bool.false_eq_true, if_false, true_and, or_false]
  · simp only [same, if_false, false_and, and_false, Option.none_or, ite_self]

/-- A write by a member spreads the value; if it succeeds, it reaches somebody else. -/
theorem publish_in_company (accompanied : scene.Accompanied line roster now copies due) (key : Ident)
    {value : Octets} (short : value.Short) :
    (scene.publish (Cluster.carrier line) key value).2.Accompanied line roster now
        (copies.spread roster line key value) due ∧
      ((scene.publish (Cluster.carrier line) key value).1 = true →
        ∃ place, place ≠ line ∧ reaches roster key line place = true) := by
  have distinct := accompanied.company.distinct
  have writes := contact_acting accompanied
  obtain ⟨all, fellows, few, near, _⟩ :=
    Node.neighbours_companion (companion_acting accompanied) key
  obtain ⟨after, found⟩ :=
    lookup_in_company accompanied fellows fun seed (listed : seed ∈ all) => listed
  rw [publish_eq]
  rw [near]
  dsimp only
  by_cases alone : all = []
  · subst alone
    have nothing := @leaves_spread line roster copies _ _ value distinct _ writes fellows copies
      fun place named => by simp
    rw [Query.leaves_nil] at nothing
    rw [← nothing]
    exact ⟨accompanied, nofun⟩
  · rw [if_neg (by simpa using alone), found few rfl]
    generalize (scene.lookup (Cluster.carrier line) key all).2 = later at after ⊢
    have same : later.node.id = scene.node.contact.id := same_id_acting accompanied after
    have kept : (if isReplica later.node.id key all = true then
        later.mapNode fun node => node.keep later.clock key.octets value else later).Accompanied
        line roster now (fun place named =>
          if place = line ∧ named = key ∧ all ≠ [] ∧ isReplica scene.node.contact.id key all = true then
            some value
          else copies place named) due := by
      rw [same]
      split_ifs with replica
      · have stored := keep_in_company after key short
        simpa only [replica, alone, ne_eq, not_false_eq_true, and_true] using stored
      · simpa only [replica, Bool.false_eq_true, and_false, if_false] using after
    have others : ∀ dest ∈ all, dest ∈ roster ∧ dest.id ≠ scene.node.id :=
      fun dest listed => ⟨((fellows.mem dest).mp listed).1, ((fellows.mem dest).mp listed).2.1⟩
    have plain : (Query.store key.octets value).Plain := ⟨⟨key, rfl⟩, short⟩
    rw [← same_id_acting accompanied kept] at others
    obtain ⟨stored, _⟩ := asking_in_company kept plain others
    rw [leaves_spread copies value distinct writes fellows fun _ _ => rfl] at stored
    rw [store_each]
    exact ⟨stored, fun _ => reaches_another distinct writes fellows alone⟩

theorem set_in_company (accompanied : scene.Accompanied line roster now copies due) (key : String)
    {value : Octets} (short : value.Short) :
    (scene.set (Cluster.carrier line) key value).2.Accompanied line roster now
        (copies.spread roster line (Ident.digest key) value) due ∧
      ((scene.set (Cluster.carrier line) key value).1 = true →
        ∃ place, place ≠ line ∧ reaches roster (Ident.digest key) line place = true) := by
  obtain ⟨spread, another⟩ := publish_in_company accompanied (Ident.digest key) short
  rw [set_eq, if_pos (companion_acting accompanied).room]
  exact ⟨report_in_company spread _ _, another⟩

theorem republish_in_company {items : List Listed}
    (accompanied : scene.Accompanied line roster now copies due)
    (readable : ∀ item ∈ items, item.read now = .ok (item.key, item.value) ∧ item.value.Short) :
    (scene.republish (Cluster.carrier line) items).Accompanied line roster now
      (copies.respread roster line items) due := by
  induction items generalizing scene copies with
  | nil => exact accompanied
  | cons item rest ih =>
      rw [List.forall_mem_cons] at readable
      unfold republish Copies.respread
      rw [clock_acting accompanied, readable.1.1]
      dsimp only
      cases parsed : Ident.ofOctets item.key with
      | error failure => exact ih accompanied readable.2
      | ok key => exact ih (publish_in_company accompanied key readable.1.2).1 readable.2

theorem targets_in_company (targets : List Ident)
    (accompanied : scene.Accompanied line roster now copies due) :
    (targets.foldl (refreshToward (Cluster.carrier line)) scene).Accompanied line roster now copies
      due := by
  induction targets generalizing scene with
  | nil => exact accompanied
  | cons target rest ih => exact ih (refresh_toward_in_company accompanied target)

/-- What a member reads of its listing is the copies it holds. -/
theorem listed_in_company (accompanied : scene.Accompanied line roster now copies due)
    (key : Ident) : listed? key (scene.node.store.listing now) = copies line key := by
  obtain ⟨distinct, _, reads⟩ := Store.listing_reads (companion_acting accompanied).store now
  apply Option.ext
  intro value
  rw [listed_eq_some_iff distinct, ← copy_acting accompanied key]
  exact (reads key.octets value).symm

theorem refresh_in_company (accompanied : scene.Accompanied line roster now copies due)
    (draw : Nat → Nat) :
    (scene.refresh (Cluster.carrier line) draw).Accompanied line roster now
      (copies.refreshed roster line) due := by
  have companion := companion_acting accompanied
  have culled : (scene.mapNode fun node =>
      { node with store := node.store.cull scene.clock }).Accompanied line roster now copies due := by
    rw [clock_acting accompanied]
    exact calm_map accompanied (fun node => { node with store := node.store.cull now }) rfl
      { companion with store := Store.cull_tidy companion.store now }
      (fun key => Store.get_cull companion.store now key.octets) rfl
  unfold refresh
  simp only [companion.active, Bool.not_true, Bool.false_eq_true, if_false]
  have searched := targets_in_company
    ((scene.mapNode fun node => { node with store := node.store.cull scene.clock }).refreshTargets
      draw) culled
  generalize List.foldl (refreshToward (Cluster.carrier line)) _ _ = later at searched ⊢
  obtain ⟨distinct, readable, _⟩ := Store.listing_reads (companion_acting searched).store now
  have written := republish_in_company searched readable
  have same : copies.respread roster line (later.node.store.listing now) =
      copies.refreshed roster line := by
    funext place key
    rw [Copies.respread_eq distinct, listed_in_company searched, Copies.refreshed]
  rw [same] at written
  rw [clock_acting searched]
  exact written

theorem get_in_company (accompanied : scene.Accompanied line roster now copies due) (key : String) :
    ∃ extra, Repairs roster scene.node.id copies (Ident.digest key) extra ∧
      (scene.get (Cluster.carrier line) key).2.Accompanied line roster now copies
        (due.set line (scene.node.errands ++ extra)) := by
  have companion := companion_acting accompanied
  have still := owed_still accompanied
  have read : (scene.readOwn (Ident.digest key)).2.Accompanied line roster now copies due := by
    unfold readOwn
    rw [clock_acting accompanied]
    exact calm_map accompanied (fun node =>
      { node with store := (scene.node.store.get now (Ident.digest key).octets).2 }) rfl
      (Node.read_companion companion now _) (Node.read_copy companion now _) rfl
  rw [get_eq]
  dsimp only
  generalize asked : readOwn (Ident.digest key) scene = result at read ⊢
  obtain ⟨own, later⟩ := result
  cases own with
  | some value => exact ⟨[], .none, still.symm ▸ read⟩
  | none =>
      obtain ⟨all, fellows, _, near, _⟩ :=
        Node.neighbours_companion (companion_acting read) (Ident.digest key)
      simp only [near]
      split_ifs
      · exact ⟨[], .none, still.symm ▸ read⟩
      · obtain ⟨extra, repairs, found⟩ :=
          lookup_value_in_company read fellows fun seed (listed : seed ∈ all) => listed
        have owed : later.node.errands = scene.node.errands := by
          rw [show later = (scene.readOwn (Ident.digest key)).2 by rw [asked]]
          rfl
        rw [same_id_acting accompanied read] at repairs
        rw [owed] at found
        exact ⟨extra, repairs, report_in_company found _ _⟩

/-- An errand leaves the value it carries with its destination. -/
theorem errand_in_company (accompanied : scene.Accompanied line roster now copies due)
    {dest : Contact} {key : Ident} {value : Octets} {rest : List Errand}
    (owed : scene.node.errands = ⟨dest, key.octets, value⟩ :: rest) (listed : dest ∈ roster)
    (apart : dest.id ≠ scene.node.id) (short : value.Short) :
    (scene.runErrand (Cluster.carrier line)).Accompanied line roster now
      ((Query.store key.octets value).leaves roster [dest] copies) (due.set line rest) := by
  have begun := accompanied_map accompanied (fun node => { node with errands := rest }) rfl
    { companion_acting accompanied with } (fun key => (copy_acting accompanied key).symm)
    fun _ _ _ => rfl
  have plain : (Query.store key.octets value).Plain := ⟨⟨key, rfl⟩, short⟩
  obtain ⟨reply, later, called, stored, _⟩ := call_in_company begun listed apart plain
  unfold runErrand storeAt
  rw [owed]
  dsimp only
  rw [called]
  exact stored

end Scene

/-- Nobody has an errand to run. -/
def idle (roster : List Contact) : List (List Errand) :=
  roster.map fun _ => []

theorem idle_set (roster : List Contact) (line : Nat) : (idle roster).set line [] = idle roster := by
  unfold idle
  apply List.ext_getElem?
  intro place
  rw [List.getElem?_set]
  split_ifs with here inside
  · subst here
    rw [List.length_map] at inside
    rw [List.getElem?_map, List.getElem?_eq_getElem inside]
    rfl
  · subst here
    rw [List.getElem?_eq_none (not_lt.mp inside)]
  · rfl

namespace Cluster

variable {line : Nat} {roster : List Contact} {now : Nanoseconds} {copies : Copies}
  {due : List (List Errand)} {cluster : Cluster}

theorem scene_accompanied (company : cluster.Company roster now copies due) {node : Node}
    (stands : cluster.nodes[line]? = some node) :
    (⟨node, cluster.clock, cluster⟩ : Scene Cluster).Accompanied line roster now copies due := by
  refine ⟨?_, (List.getElem?_eq_some_iff.mp stands).1⟩
  rw [Scene.whole_start stands]
  exact company

theorem absent_in_company (company : cluster.Company roster now copies due)
    (absent : cluster.nodes[line]? = none) : roster[line]? = none := by
  rw [← company.names, Cluster.roster, List.getElem?_map, absent]
  rfl

theorem idle_at (company : cluster.Company roster now copies (idle roster)) {node : Node}
    (stands : cluster.nodes[line]? = some node) : node.errands = [] := by
  have owed := errands_at company stands
  rw [idle, List.getElem?_map, contact_at company stands] at owed
  exact (Option.some.inj owed).symm

theorem errands_idle (company : cluster.Company roster now copies (idle roster)) (count : Nat) :
    cluster.runErrands count = cluster := by
  have nobody : cluster.busy? = none := by
    apply List.findIdx?_eq_none_iff.mpr
    intro node member
    obtain ⟨place, stands⟩ := List.mem_iff_getElem?.mp member
    rw [idle_at company stands]
    rfl
  cases count with
  | zero => rfl
  | succ count => rw [runErrands, nobody]

theorem settle_idle (company : cluster.Company roster now copies (idle roster)) :
    cluster.settle = cluster :=
  errands_idle company Scene.errandLimit

section Repairing

variable {errand : Errand} {rest : List Errand} {node : Node}

theorem owed_by (company : cluster.Company roster now copies
      ((idle roster).set line (errand :: rest))) (stands : cluster.nodes[line]? = some node) :
    node.errands = errand :: rest := by
  have owed := errands_at company stands
  have inside := (List.getElem?_eq_some_iff.mp owed).1
  rw [List.getElem?_set, if_pos rfl, if_pos (by rwa [List.length_set] at inside)] at owed
  exact (Option.some.inj owed).symm

theorem busy_with (company : cluster.Company roster now copies
      ((idle roster).set line (errand :: rest))) (stands : cluster.nodes[line]? = some node) :
    cluster.busy? = some line := by
  obtain ⟨inside, here⟩ := List.getElem?_eq_some_iff.mp stands
  refine List.findIdx?_eq_some_iff_getElem.mpr ⟨inside, ?_, ?_⟩
  · rw [here, owed_by company stands]
    rfl
  · intro other before
    have there := List.getElem?_eq_getElem (before.trans inside)
    have owed := errands_at company there
    rw [List.getElem?_set, if_neg before.ne', idle, List.getElem?_map,
      contact_at company there] at owed
    rw [← Option.some.inj owed]
    exact Bool.false_ne_true

end Repairing

/-- One errand is run, and then there is nothing more to run. -/
theorem settle_repair {extra : List Errand} {key : Ident} {asker : Contact}
    (asks : roster[line]? = some asker) (repairs : Scene.Repairs roster asker.id copies key extra)
    (company : cluster.Company roster now copies ((idle roster).set line extra)) :
    ∃ changed, cluster.settle.Company roster now changed (idle roster) ∧
      (changed = copies ∨ ∃ (dest : Contact) (value : Octets), copies.Hold key value ∧
        changed = (Query.store key.octets value).leaves roster [dest] copies) := by
  cases repairs with
  | none =>
      rw [idle_set] at company
      refine ⟨copies, ?_, Or.inl rfl⟩
      rw [settle_idle company]
      exact company
  | @one dest value listed apart held short =>
      obtain ⟨place, node, stands, rfl⟩ := found_in_company company (List.mem_of_getElem? asks)
      obtain rfl := place_unique company.distinct (contact_at company stands) asks
      have run := Scene.errand_in_company (scene_accompanied company stands)
        (owed_by company stands) listed apart short
      have after := run.company
      rw [List.set_set, idle_set] at after
      refine ⟨_, ?_, Or.inr ⟨dest, value, held, rfl⟩⟩
      rw [settle, show Scene.errandLimit = 99999 + 1 from rfl, runErrands, busy_with company stands]
      dsimp only
      rw [act_standing _ stands]
      dsimp only
      rw [errands_idle after]
      exact after

theorem perform_absent {α : Type} (company : cluster.Company roster now copies (idle roster))
    (absent : cluster.nodes[line]? = none)
    (action : Carrier Cluster → Scene Cluster → α × Scene Cluster) :
    cluster.perform line action = (none, cluster) := by
  unfold perform act
  rw [absent]
  dsimp only
  rw [settle_idle company]

theorem perform_set (company : cluster.Company roster now copies (idle roster)) (line : Nat)
    (key : String) {value : Octets} (short : value.Short) :
    let written := cluster.perform line fun carrier => Scene.set carrier key value
    written.2.Company roster now (copies.spread roster line (Ident.digest key) value)
        (idle roster) ∧
      (written.1 = some true →
        ∃ place, place ≠ line ∧ reaches roster (Ident.digest key) line place = true) := by
  cases stands : cluster.nodes[line]? with
  | none =>
      rw [perform_absent company stands, Copies.spread_absent (absent_in_company company stands)]
      exact ⟨company, nofun⟩
  | some node =>
      obtain ⟨spread, another⟩ := Scene.set_in_company (scene_accompanied company stands) key short
      rw [perform, act_standing _ stands]
      dsimp only
      rw [settle_idle spread.company]
      exact ⟨spread.company, fun done => another (Option.some.inj done)⟩

theorem perform_refresh (company : cluster.Company roster now copies (idle roster)) (line : Nat)
    (draw : Nat → Nat) :
    (cluster.perform line fun carrier scene => ((), Scene.refresh carrier draw scene)).2.Company
      roster now (copies.refreshed roster line) (idle roster) := by
  cases stands : cluster.nodes[line]? with
  | none =>
      rw [perform_absent company stands, Copies.refreshed_absent (absent_in_company company stands)]
      exact company
  | some node =>
      have refreshed := Scene.refresh_in_company (scene_accompanied company stands) draw
      rw [perform, act_standing _ stands]
      dsimp only
      rw [settle_idle refreshed.company]
      exact refreshed.company

theorem perform_get (company : cluster.Company roster now copies (idle roster)) (line : Nat)
    (key : String) :
    ∃ changed, (cluster.perform line fun carrier => Scene.get carrier key).2.Company roster now
        changed (idle roster) ∧
      (changed = copies ∨ ∃ (dest : Contact) (value : Octets),
        copies.Hold (Ident.digest key) value ∧
          changed = (Query.store (Ident.digest key).octets value).leaves roster [dest] copies) := by
  cases stands : cluster.nodes[line]? with
  | none =>
      rw [perform_absent company stands]
      exact ⟨copies, company, Or.inl rfl⟩
  | some node =>
      obtain ⟨extra, repairs, found⟩ :=
        Scene.get_in_company (scene_accompanied company stands) key
      have after := found.company
      rw [show (Scene.node ⟨node, cluster.clock, cluster⟩).errands = [] from
        idle_at company stands, List.nil_append] at after
      rw [perform, act_standing _ stands]
      exact settle_repair (contact_at company stands) repairs after

end Cluster
end XorOverlay
