import Mathlib
import XorOverlay.Proofs.Exchange.History
import XorOverlay.Proofs.Exchange.Joining

/-!
A crew that gathers through one seed. Its members are started on one network and join one after
another, each through the first of them. Whoever has joined has met exactly the others that have, so
that a newcomer finds all of those, closest first.
-/

namespace XorOverlay

set_option autoImplicit false

/-- What a node is started with. -/
structure Recruit where
  settings : Settings
  id : Ident
  host : UInt32
  port : UInt16
  store : Store

namespace Recruit

def endpoint (recruit : Recruit) : Endpoint :=
  .v4 recruit.host recruit.port

def contact (recruit : Recruit) : Contact :=
  ⟨recruit.id, some recruit.endpoint⟩

def start (now : Nanoseconds) (recruit : Recruit) : Node :=
  Node.start recruit.settings recruit.id recruit.endpoint recruit.store now

end Recruit

/-- Recruits with names and endpoints of their own and with nothing in their stores. Started at any
time they answer whatever they are asked; each asks for all the others at once, or for more, and
probes one contact at a time, or more. -/
structure Recruits (recruits : List Recruit) : Prop where
  distinct : (recruits.map Recruit.id).Nodup
  separate : (recruits.map Recruit.endpoint).Nodup
  few : recruits.length ≤ 2 ^ 32 + 1
  wide : ∀ recruit ∈ recruits, recruits.length ≤ recruit.settings.width + 1
  busy : ∀ recruit ∈ recruits, 0 < recruit.settings.parallelism
  bare : ∀ recruit ∈ recruits, ∀ now, recruit.store.contents now = []
  answering : ∀ recruit ∈ recruits, ∀ now, (recruit.start now).Answering

section Recruits

variable {recruits : List Recruit} {recruit : Recruit} (fit : Recruits recruits)
include fit

theorem crew_of_recruits : Crew (recruits.map Recruit.contact) where
  distinct := by
    rw [List.map_map]
    exact fit.distinct
  separate := by
    have places := fit.separate.map (Option.some_injective Endpoint)
    rw [List.map_map] at places ⊢
    exact places
  writable := by
    intro contact listed
    obtain ⟨recruit, _, rfl⟩ := List.mem_map.mp listed
    exact ⟨recruit.host, recruit.port, rfl⟩
  few := by
    rw [List.length_map]
    exact fit.few

/-- A recruit that has just been started has met nobody. -/
theorem start_attends (listed : recruit ∈ recruits) (now : Nanoseconds) :
    (recruit.start now).Attends (recruits.map Recruit.contact) fun _ => False where
  active := rfl
  room := ((Node.answering_iff _).mp (fit.answering recruit listed now)).2
  busy := fit.busy recruit listed
  wide := by
    rw [List.length_map]
    exact fit.wide recruit listed
  sound := Table.empty_sound _ _ _
  coarse := Table.empty_coarse _ _ _
  owner := rfl
  capacity := rfl
  bare := fit.bare recruit listed
  errands := rfl
  listed := List.mem_map_of_mem listed
  within _ known := known.elim
  live _ := List.mem_nil_iff _

end Recruits

namespace Cluster

def enlist (recruit : Recruit) (cluster : Cluster) : Cluster :=
  cluster.spawn recruit.settings recruit.id recruit.endpoint recruit.store

/-- How recruits gather. They are started in any order. The first of them is there to begin with;
others that have been started join one after another, each with the first as its only seed. In
between time passes and errands are run. -/
inductive Gathered (recruits : List Recruit) : List Contact → Cluster → Prop where
  | empty : Gathered recruits [] Cluster.empty
  | spawn {joined : List Contact} {cluster : Cluster} (recruit : Recruit) :
      Gathered recruits joined cluster → recruit ∈ recruits →
      recruit.contact ∉ cluster.roster → Gathered recruits joined (cluster.enlist recruit)
  | first {cluster : Cluster} {node : Node} : Gathered recruits [] cluster →
      node ∈ cluster.nodes → Gathered recruits [node.contact] cluster
  | bootstrap {first : Contact} {joined : List Contact} {cluster : Cluster} {line : Nat}
      {node : Node} {seed : Endpoint} : Gathered recruits (first :: joined) cluster →
      cluster.nodes[line]? = some node → node.contact ∉ first :: joined →
      first.endpoint = some seed →
      Gathered recruits (first :: joined ++ [node.contact])
        (cluster.act line (Scene.bootstrap (carrier line) [seed])).2
  | errands {joined : List Contact} {cluster : Cluster} (count : Nat) :
      Gathered recruits joined cluster → Gathered recruits joined (cluster.runErrands count)
  | wait {joined : List Contact} {cluster : Cluster} (duration : Nanoseconds) :
      Gathered recruits joined cluster → Gathered recruits joined (cluster.wait duration)

/-- Those who have joined, among members of a crew that have been started, have met all others
that have. -/
structure Assembled (crew joined : List Contact) (cluster : Cluster) : Prop where
  gathers : cluster.Gathers crew cluster.roster (Company joined)
  inside : joined ⊆ cluster.roster
  distinct : joined.Nodup

section Gathered

variable {crew joined roster : List Contact} {met : Contact → Contact → Prop} {cluster : Cluster}
  {recruits : List Recruit} {recruit : Recruit}

theorem roster_enlist (cluster : Cluster) (recruit : Recruit) :
    (cluster.enlist recruit).roster = cluster.roster ++ [recruit.contact] := by
  show (cluster.nodes ++ [_]).map Node.contact = _
  rw [List.map_append]
  rfl

theorem enlist_gathers (fit : Recruits recruits) (listed : recruit ∈ recruits)
    (new : recruit.contact ∉ cluster.roster)
    (gathers : cluster.Gathers (recruits.map Recruit.contact) cluster.roster met)
    (stranger : ∀ other, ¬met recruit.contact other) :
    (cluster.enlist recruit).Gathers (recruits.map Recruit.contact)
      (cluster.roster ++ [recruit.contact]) met := by
  have member : recruit.contact ∈ recruits.map Recruit.contact := List.mem_map_of_mem listed
  -- Endpoints differ in a crew, so whoever is at the recruit's endpoint is the recruit.
  have free : ∀ node ∈ cluster.nodes, node.endpoint ≠ recruit.endpoint := by
    intro node among same
    obtain ⟨line, stands⟩ := List.mem_iff_getElem?.mp among
    have known := (gathers.attends line node stands).listed
    have equal : node.contact = recruit.contact :=
      List.inj_on_of_nodup_map (crew_of_recruits fit).separate known member (congrArg some same)
    exact new (equal ▸ mem_roster stands)
  refine ⟨roster_enlist cluster recruit, counted_spawn gathers.counted _ _ _ _,
    attached_spawn gathers.counted gathers.attached _ _ _ free, ?_⟩
  intro line node stands
  change (cluster.nodes ++ [recruit.start cluster.clock])[line]? = some node at stands
  rw [getElem?_concat] at stands
  split_ifs at stands with last
  · obtain rfl := Option.some.inj stands
    exact Node.attends_congr (start_attends fit listed cluster.clock)
      fun other => (iff_false_intro (stranger other)).symm
  · exact gathers.attends line node stands

/-- Nobody in a gathering crew has an errand to run. -/
theorem errands_gathers (gathers : cluster.Gathers crew roster met) (count : Nat) :
    cluster.runErrands count = cluster := by
  have idle : cluster.busy? = none := by
    apply List.findIdx?_eq_none_iff.mpr
    intro node member
    obtain ⟨line, stands⟩ := List.mem_iff_getElem?.mp member
    rw [(gathers.attends line node stands).errands]
    rfl
  cases count with
  | zero => rfl
  | succ count => rw [runErrands, idle]

/-- Who has not joined yet is a newcomer among those who have. -/
theorem joins_of_assembled (fit : Crew crew) (assembled : cluster.Assembled crew joined)
    {line : Nat} {node : Node} (stands : cluster.nodes[line]? = some node)
    (new : node.contact ∉ joined) :
    (⟨node, cluster.clock, cluster⟩ : Scene Cluster).Joins line crew cluster.roster joined
      node.contact [] := by
  have inCrew : ∀ contact ∈ cluster.roster, contact ∈ crew :=
    fun contact listed => gathers_listed assembled.gathers listed
  refine ⟨⟨?_, (List.getElem?_eq_some_iff.mp stands).1⟩, rfl, List.nil_subset _,
    assembled.inside, ?_, ?_⟩
  · rw [Scene.whole_start stands]
    exact gathers_congr assembled.gathers company_greets
  · apply List.Nodup.map_on _ assembled.distinct
    intro one member other also same
    exact List.inj_on_of_nodup_map fit.distinct (inCrew one (assembled.inside member))
      (inCrew other (assembled.inside also)) same
  · intro mate member same
    have equal := List.inj_on_of_nodup_map fit.distinct (inCrew mate (assembled.inside member))
      (inCrew _ (mem_roster stands)) same
    exact new (equal ▸ member)

/-- Whoever joins finds all that have joined before, and has met them then. -/
theorem bootstrap_assembled (fit : Crew crew) {first : Contact}
    (assembled : cluster.Assembled crew (first :: joined)) {line : Nat} {node : Node}
    (stands : cluster.nodes[line]? = some node) (new : node.contact ∉ first :: joined)
    {seed : Endpoint} (lives : first.endpoint = some seed) :
    (∃ found, (cluster.act line (Scene.bootstrap (carrier line) [seed])).1 = some found ∧
      found.Perm (first :: joined) ∧ Ascending node.id found) ∧
    (cluster.act line (Scene.bootstrap (carrier line) [seed])).2.roster = cluster.roster ∧
    (cluster.act line (Scene.bootstrap (carrier line) [seed])).2.Assembled crew
      (first :: joined ++ [node.contact]) := by
  have joins := joins_of_assembled fit assembled stands new
  obtain ⟨found, ascending, gathers⟩ :=
    Scene.bootstrap_joins fit joins List.mem_cons_self lives
  have names := gathers.whole.names
  rw [act_standing _ stands]
  refine ⟨⟨_, rfl, found, ascending⟩, names, { gathers.whole with names := rfl }, ?_, ?_⟩
  · rw [names]
    exact List.append_subset.mpr
      ⟨assembled.inside, List.cons_subset.mpr ⟨mem_roster stands, List.nil_subset _⟩⟩
  · rw [List.nodup_append_comm, List.singleton_append, List.nodup_cons]
    exact ⟨new, assembled.distinct⟩

/-- Whatever the history, those who have joined have met each other. -/
theorem assembled_of_gathered (fit : Recruits recruits)
    (gathered : Gathered recruits joined cluster) :
    cluster.Assembled (recruits.map Recruit.contact) joined := by
  induction gathered with
  | empty => exact ⟨⟨rfl, rfl, nofun, nofun⟩, List.nil_subset _, List.nodup_nil⟩
  | @spawn joined cluster recruit _ listed new ih =>
      have gathers := enlist_gathers fit listed new ih.gathers
        fun other known => new (ih.inside known.1)
      rw [← roster_enlist] at gathers
      refine ⟨gathers, ?_, ih.distinct⟩
      rw [roster_enlist]
      exact List.Subset.trans ih.inside (List.subset_append_left _ _)
  | @first cluster node _ member ih =>
      refine ⟨gathers_congr ih.gathers ?_, ?_, List.nodup_singleton _⟩
      · simp [Company]
      · exact List.cons_subset.mpr ⟨List.mem_map_of_mem member, List.nil_subset _⟩
  | bootstrap _ stands new lives ih =>
      exact (bootstrap_assembled (crew_of_recruits fit) ih stands new lives).2.2
  | errands count _ ih =>
      rw [errands_gathers ih.gathers]
      exact ih
  | wait duration _ ih => exact ⟨{ ih.gathers with }, ih.inside, ih.distinct⟩

theorem live_of_assembled (fit : Crew crew) (assembled : cluster.Assembled crew joined)
    {member : Contact} (listed : member ∈ joined) :
    ∃ node ∈ cluster.nodes, node.contact = member ∧
      node.table.live.Perm (joined.filter fun other => other.id != member.id) := by
  have inCrew : ∀ contact ∈ joined, contact ∈ crew :=
    fun contact known => gathers_listed assembled.gathers (assembled.inside known)
  obtain ⟨line, node, stands, rfl⟩ := gathers_found assembled.gathers (assembled.inside listed)
  have attends := assembled.gathers.attends line node stands
  refine ⟨node, List.mem_of_getElem? stands, rfl, ?_⟩
  apply (List.perm_ext_iff_of_nodup (Node.live_nodup attends)
    (assembled.distinct.filter _)).mpr
  intro other
  rw [attends.live, List.mem_filter, bne_iff_ne]
  constructor
  · rintro ⟨_, known, apart⟩
    exact ⟨known, fun same => apart (List.inj_on_of_nodup_map fit.distinct
      (inCrew other known) (inCrew _ listed) same).symm⟩
  · rintro ⟨known, apart⟩
    exact ⟨listed, known, fun same => apart (congrArg Contact.id same).symm⟩

end Gathered

/-- A recruit that joins through the first finds exactly those that have joined before, closest to
its own name first; after that each of them, the new one included, has exactly the others for its
live contacts. -/
theorem one_seed_full_mesh {recruits : List Recruit} (fit : Recruits recruits) {first : Contact}
    {joined : List Contact} {cluster : Cluster}
    (gathered : Gathered recruits (first :: joined) cluster) {line : Nat} {node : Node}
    (stands : cluster.nodes[line]? = some node) (new : node.contact ∉ first :: joined)
    {seed : Endpoint} (lives : first.endpoint = some seed) :
    let joining := cluster.act line (Scene.bootstrap (carrier line) [seed])
    let all := first :: joined ++ [node.contact]
    (∃ found, joining.1 = some found ∧ found.Perm (first :: joined) ∧ Ascending node.id found) ∧
      joining.2.roster = cluster.roster ∧
      ∀ member ∈ all, ∃ peer ∈ joining.2.nodes, peer.contact = member ∧
        peer.table.live.Perm (all.filter fun other => other.id != member.id) := by
  intro joining all
  have crew := crew_of_recruits fit
  obtain ⟨found, names, assembled⟩ :=
    bootstrap_assembled crew (assembled_of_gathered fit gathered) stands new lives
  exact ⟨found, names, fun member listed => live_of_assembled crew assembled listed⟩

def numbered (number : Nat) : Recruit where
  settings := { Settings.default with width := 2 }
  id := Ident.ofNat number
  host := 1
  port := UInt16.ofNat number
  store := .expiring (Expiring.empty Expiring.defaultLifetime)

def trio : List Recruit :=
  [1, 2, 3].map numbered

def startedTrio : Cluster :=
  trio.foldl (fun cluster recruit => cluster.enlist recruit) Cluster.empty

theorem trio_recruits : Recruits trio where
  distinct := by decide +kernel
  separate := by decide +kernel
  few := by decide
  wide := by decide +kernel
  busy := by decide +kernel
  bare := by
    intro recruit listed now
    obtain ⟨number, _, rfl⟩ := List.mem_map.mp listed
    rfl
  answering := by
    intro recruit listed now
    obtain ⟨number, _, rfl⟩ := List.mem_map.mp listed
    exact (Node.answering_iff _).mpr ⟨rfl, rfl⟩

/-- The third of three joins after the second, and all know each other. -/
theorem third_recruit_joins :
    let members := trio.map Recruit.contact
    let pair := (startedTrio.act 1 (Scene.bootstrap (carrier 1) [.v4 1 1])).2
    let joining := pair.act 2 (Scene.bootstrap (carrier 2) [.v4 1 1])
    (∃ found, joining.1 = some found ∧ found.Perm (members.take 2) ∧
      Ascending (Ident.ofNat 3) found) ∧
      joining.2.roster = members ∧
      ∀ member ∈ members, ∃ peer ∈ joining.2.nodes, peer.contact = member ∧
        peer.table.live.Perm (members.filter fun other => other.id != member.id) := by
  intro members pair joining
  have listed : ∀ number ∈ [1, 2, 3], numbered number ∈ trio :=
    fun number known => List.mem_map_of_mem known
  have started : Gathered trio [] startedTrio :=
    .spawn (numbered 3) (.spawn (numbered 2) (.spawn (numbered 1) .empty (listed 1 (by decide))
      (by decide +kernel)) (listed 2 (by decide)) (by decide +kernel)) (listed 3 (by decide))
      (by decide +kernel)
  have alone : Gathered trio [(numbered 1).contact] startedTrio :=
    .first started (@List.mem_of_getElem? _ _ 0 ((numbered 1).start 0) rfl)
  have paired : Gathered trio [(numbered 1).contact, (numbered 2).contact] pair :=
    .bootstrap alone (show startedTrio.nodes[1]? = some ((numbered 2).start 0) from rfl)
      (by decide +kernel) rfl
  have third : pair.nodes[2]? = some ((numbered 3).start 0) := by decide +kernel
  have names : pair.roster = members := by decide +kernel
  obtain ⟨found, same, live⟩ :=
    one_seed_full_mesh trio_recruits paired third (by decide +kernel) rfl
  exact ⟨found, same.trans names, live⟩

end Cluster
end XorOverlay
