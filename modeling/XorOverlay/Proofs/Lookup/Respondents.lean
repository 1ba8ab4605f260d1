import Mathlib
import XorOverlay.Proofs.Lookup.Informed

/-!
Who has answered of those a search finds. Nobody who failed is found, so whoever is found and was
asked has answered; but a search that may go on no longer, or that may not ask anybody, finds
contacts it has only heard of. Such contacts are left exactly if not all of the closest candidates
have been asked when the search ends.
-/

namespace XorOverlay

set_option autoImplicit false

namespace Lookup

variable {σ α : Type}

/-- Every probe of a round is answered or fails, once, and the outcomes come in some order. -/
def Exhaustive (ask : Ask σ α) : Prop :=
  ∀ state probes, ((ask state probes).1.map Prod.fst).Perm probes

/-- A contact was sent a probe. -/
def Asked (log : List (Round α)) (contact : Contact) : Prop :=
  ∃ round ∈ log, contact ∈ round.probes

/-- A contact answered a probe with a list of contacts. -/
def Answered (log : List (Round Reply)) (contact : Contact) : Prop :=
  ∃ round ∈ log, ∃ contacts, (contact, some (.nodes contacts)) ∈ round.outcomes

theorem answered_of_heard {log : List (Round Reply)} {contact : Contact} {contacts : List Contact}
    (listed : (contact, some contacts) ∈ heard Reply.contacts? log) : Answered log contact := by
  obtain ⟨⟨asked, result⟩, among, equal⟩ := List.mem_map.mp listed
  obtain ⟨round, noted, inRound⟩ := List.mem_flatMap.mp among
  obtain ⟨rfl, picked⟩ := Prod.mk.inj equal
  obtain ⟨reply, rfl, chosen⟩ := Option.bind_eq_some_iff.mp picked
  rw [Reply.eq_of_contacts chosen] at inRound
  exact ⟨round, noted, contacts, inRound⟩

namespace NodeSearch

variable {self : Ident} {choose : α → Option (List Contact)} {ask : Ask σ α}

theorem run_exhaustive (exhaustive : Exhaustive ask) (rounds : Nat) {frontier : Frontier}
    (state : σ) {log : List (Round α)}
    (start : ∀ round ∈ log, (round.outcomes.map Prod.fst).Perm round.probes) :
    ∀ round ∈ (run self (logged choose ask) rounds frontier (state, log)).2.2,
      (round.outcomes.map Prod.fst).Perm round.probes := by
  refine run_keeps (motive := fun log _ => ∀ round ∈ log,
    (round.outcomes.map Prod.fst).Perm round.probes) ?_ rounds state log start
  intro log frontier state fair
  exact List.forall_mem_append.mpr
    ⟨fair, List.forall_mem_singleton.mpr (exhaustive state frontier.probes)⟩

/-- The names that count as asked are those of the contacts that were sent probes. -/
theorem run_contacted (rounds : Nat) {frontier : Frontier} (state : σ) {log : List (Round α)}
    (start : ∀ id, id ∈ frontier.candidates.contacted ↔ ∃ contact, Asked log contact ∧ contact.id = id) :
    let ended := run self (logged choose ask) rounds frontier (state, log)
    ∀ id, id ∈ ended.1.candidates.contacted ↔
      ∃ contact, Asked ended.2.2 contact ∧ contact.id = id := by
  refine run_keeps (motive := fun log candidates => ∀ id,
    id ∈ candidates.contacted ↔ ∃ contact, Asked log contact ∧ contact.id = id) ?_ rounds state log
    start
  intro log frontier state known id
  rw [(absorb_all_frame _ _ _).1, Frontier.launch, Candidates.mark_all]
  simp only [List.mem_append, List.mem_reverse, List.mem_map, known id, Asked, List.mem_singleton]
  constructor
  · rintro (⟨probe, chosen, named⟩ | ⟨contact, ⟨round, noted, sent⟩, named⟩)
    · exact ⟨probe, ⟨_, Or.inr rfl, chosen⟩, named⟩
    · exact ⟨contact, ⟨round, Or.inl noted, sent⟩, named⟩
  · rintro ⟨contact, ⟨round, noted | rfl, sent⟩, named⟩
    · exact Or.inr ⟨contact, ⟨round, noted, sent⟩, named⟩
    · exact Or.inl ⟨contact, sent, named⟩

end NodeSearch

/-- A search that may send no probes ends at once. -/
theorem Frontier.probes_idle (target : Ident) (width : Nat) (seeds : List Contact) :
    (start target width 0 seeds).probes = [] := by
  rw [probes, probeCount]
  split_ifs with unchanged
  · have none : (start target width 0 seeds).candidates.closest = [] :=
      List.map_eq_nil_iff.mp unchanged
    rw [Candidates.uncontacted, none, List.filter_nil, List.take_nil]
  · exact List.take_zero

/-- A search that has nobody to begin with asks nobody. -/
theorem NodeSearch.log_idle {choose : α → Option (List Contact)} {self target : Ident}
    {width parallelism : Nat} {seeds : List Contact} {ask : Ask σ α} {state : σ}
    (idle : (Frontier.start target width parallelism seeds).probes = []) :
    (search self (logged choose ask) target width parallelism seeds (state, [])).2.2 = [] := by
  rw [search, show maxRounds = 49 + 1 from rfl, run, idle]
  rfl

section Respondents

variable (self target : Ident) (width parallelism : Nat) (seeds : List Contact) (ask : Ask σ Reply)
  (state : σ)

/-- Who is found and was asked has answered, and who has answered was asked. -/
theorem found_answered (exhaustive : Exhaustive ask) {contact : Contact} :
    let found := (findNodes self (picking Reply.contacts? ask) target width parallelism seeds state).1
    let ended := NodeSearch.search self (logged Reply.contacts? ask) target width parallelism seeds
      (state, [])
    contact ∈ found → (contact.id ∈ ended.1.candidates.contacted ↔ Answered ended.2.2 contact) ∧
      (Asked ended.2.2 contact ↔ Answered ended.2.2 contact) := by
  intro found ended listed
  rw [show found = ended.1.candidates.closest from
    NodeSearch.find_nodes_logged Reply.contacts? self target width parallelism seeds ask state]
    at listed
  have fair : ∀ round ∈ ended.2.2, (round.outcomes.map Prod.fst).Perm round.probes :=
    NodeSearch.run_exhaustive exhaustive maxRounds state nofun
  have contacted : ∀ id, id ∈ ended.1.candidates.contacted ↔
      ∃ contact, Asked ended.2.2 contact ∧ contact.id = id := by
    refine NodeSearch.run_contacted maxRounds state ?_
    intro id
    rw [Frontier.start, (Candidates.push_all_frame _ _).1]
    simp [Asked, Candidates.empty]
  have complete : ∀ round ∈ ended.2.2, round.Complete := fun round noted probe sent =>
    List.mem_map.mp ((fair round noted).mem_iff.mpr sent)
  have answers : contact.id ∈ ended.1.candidates.contacted → Answered ended.2.2 contact := by
    intro asked
    obtain ⟨contacts, answered⟩ := NodeSearch.answered_of_asked self target width seeds
      (NodeSearch.search_follows Reply.contacts? self target width parallelism seeds ask state)
      (NodeSearch.search_accounted Reply.contacts? self target width parallelism seeds ask state
        complete) listed asked
    exact answered_of_heard answered
  have asks : Answered ended.2.2 contact → Asked ended.2.2 contact := by
    rintro ⟨round, noted, contacts, among⟩
    exact ⟨round, noted, (fair round noted).mem_iff.mp (List.mem_map_of_mem among)⟩
  have marks : Asked ended.2.2 contact → contact.id ∈ ended.1.candidates.contacted :=
    fun asked => (contacted contact.id).mpr ⟨contact, asked, rfl⟩
  exact ⟨⟨answers, fun answered => marks (asks answered)⟩,
    fun asked => answers (marks asked), asks⟩

/-- Whoever a search finds has answered exactly if it was asked. All that are found have answered
exactly if all of the closest candidates were asked in the end, and that is so unless all rounds were
used up, or no probe is ever sent because none is allowed. -/
theorem found_answered_iff_asked (exhaustive : Exhaustive ask) :
    let found := (findNodes self (picking Reply.contacts? ask) target width parallelism seeds state).1
    let ended := NodeSearch.search self (logged Reply.contacts? ask) target width parallelism seeds
      (state, [])
    (∀ contact ∈ found, Asked ended.2.2 contact ↔ Answered ended.2.2 contact) ∧
      ((∀ contact ∈ found, Answered ended.2.2 contact) ↔
        ended.1.candidates.allContacted = true) ∧
      ((∀ contact ∈ found, Answered ended.2.2 contact) ∨ ended.2.2.length = maxRounds ∨
        parallelism = 0 ∧ ended.2.2 = []) := by
  intro found ended
  have same : found = ended.1.candidates.closest :=
    NodeSearch.find_nodes_logged Reply.contacts? self target width parallelism seeds ask state
  have answered := fun contact =>
    @found_answered σ self target width parallelism seeds ask state exhaustive contact
  have all : (∀ contact ∈ found, Answered ended.2.2 contact) ↔
      ended.1.candidates.allContacted = true := by
    rw [Candidates.allContacted, List.isEmpty_iff, Candidates.uncontacted,
      List.filter_eq_nil_iff, ← same]
    refine forall₂_congr fun contact listed => (answered contact listed).1.symm.trans ?_
    simp [ended]
  refine ⟨fun contact listed => (answered contact listed).2, all, ?_⟩
  rcases Nat.eq_zero_or_pos parallelism with rfl | busy
  · exact Or.inr (Or.inr ⟨rfl, NodeSearch.log_idle (Frontier.probes_idle target width seeds)⟩)
  rcases Nat.eq_zero_or_pos width with rfl | wide
  · left
    obtain ⟨_, _, _, closest⟩ := Candidates.closest_tracks (NodeSearch.search_follows
      Reply.contacts? self target 0 parallelism seeds ask state)
    rw [same, closest, List.take_zero]
    exact List.forall_mem_nil _
  · rw [all]
    exact (NodeSearch.search_ends Reply.contacts? self target width parallelism seeds ask state wide
      busy).imp_right Or.inl

end Respondents

theorem reporting_exhaustive : Exhaustive reporting := by
  intro state probes
  rw [reporting, List.map_map]
  exact List.Perm.of_eq (List.map_id probes)

/-- The two contacts that are found among four have answered; the two others have failed. -/
theorem reporters_have_answered :
    let found := (findNodes (Ident.ofNat 9) (picking Reply.contacts? reporting) Ident.zero 4 3
      [numbered 1] ()).1
    let ended := NodeSearch.search (Ident.ofNat 9) (logged Reply.contacts? reporting) Ident.zero 4 3
      [numbered 1] ((), [])
    found = [numbered 1, numbered 4] ∧ Exhaustive reporting ∧
      ended.1.candidates.allContacted = true ∧
      ∀ contact ∈ found, Asked ended.2.2 contact ∧ Answered ended.2.2 contact := by
  obtain ⟨asked, all, _⟩ := found_answered_iff_asked (Ident.ofNat 9) Ident.zero 4 3 [numbered 1]
    reporting () reporting_exhaustive
  have done : (NodeSearch.search (Ident.ofNat 9) (logged Reply.contacts? reporting) Ident.zero 4 3
      [numbered 1] ((), [])).1.candidates.allContacted = true := by
    decide +kernel
  have answered := all.mpr done
  refine ⟨?_, reporting_exhaustive, done, fun contact listed =>
    ⟨(asked contact listed).mpr (answered contact listed), answered contact listed⟩⟩
  decide +kernel

/-- Whoever is asked names one contact, nearer to zero than all that were named before. -/
def receding : Ask Nat Reply :=
  fun named probes =>
    (probes.map fun probe => (probe, some (.nodes [numbered (99 - named)])), named + 1)

/-- When the rounds are used up, the contact named last is found although it was never asked; and so
is the contact a search begins with that may send no probes. -/
theorem last_rumour_found_unasked :
    let found := fun parallelism => (findNodes (Ident.ofNat 200)
      (picking Reply.contacts? receding) Ident.zero 1 parallelism [numbered 100] 0).1
    let log := fun parallelism => (NodeSearch.search (Ident.ofNat 200)
      (logged Reply.contacts? receding) Ident.zero 1 parallelism [numbered 100] (0, [])).2.2
    Exhaustive receding ∧
      (found 1 = [numbered 50] ∧ (log 1).length = maxRounds ∧
        ∀ round ∈ log 1, numbered 50 ∉ round.outcomes.map Prod.fst) ∧
      found 0 = [numbered 100] ∧ log 0 = [] := by
  refine ⟨?_, ?_, ?_⟩
  · intro state probes
    rw [receding, List.map_map]
    exact List.Perm.of_eq (List.map_id probes)
  · decide +kernel
  · decide +kernel

end Lookup
end XorOverlay
