import Mathlib
import XorOverlay.Proofs.Exchange.Lobby

/-!
What becomes of callers that share a tag. The first thing that happens under its tag after a caller
got it decides what the caller ends with: a response is its answer, and anyone else who gets or clears
the tag abandons it. So a caller whose tag is given out again is abandoned, and its successor ends as
if it were alone, unless someone who had the tag before clears it while the successor is unanswered.
-/

namespace XorOverlay

set_option autoImplicit false

namespace Lobby

/-- What decides the fate of whoever is listed under a tag. -/
def Event.decides (tag : Tag) : Event → Bool
  | .register _ under => under = tag
  | .take response => response.tag = tag
  | .leave _ under => under = tag
  | _ => false

/-- The response that comes in under a tag, if that is what happens. -/
def Event.answer? (tag : Tag) : Event → Option Response
  | .take response => if response.tag = tag then some response else none
  | _ => none

/-- What a caller ends with that stops waiting after some events since it got its tag. -/
def verdict (tag : Tag) (caller : Caller) (events : List Event) : Except Failure Response :=
  match events.find? (Event.decides tag) with
  | none => .error .timedOut
  | some (.take response) =>
    if .arrive caller ∈ events then .ok response else .error .timedOut
  | some _ => .error Failure.abandoned

/-- What happens until a caller stops waiting. -/
def heard (caller : Caller) (events : List Event) : List Event :=
  events.takeWhile fun event => event ≠ .conclude caller

/-- What a caller ends with that has its tag to itself: the first response, if it has arrived. -/
def alone (tag : Tag) (caller : Caller) (events : List Event) : Except Failure Response :=
  match (events.filterMap (Event.answer? tag)).head? with
  | none => .error .timedOut
  | some response => if .arrive caller ∈ events then .ok response else .error .timedOut

/-- Another than the caller clears the tag before any response comes in under it. -/
def Cleared (tag : Tag) (caller : Caller) (events : List Event) : Prop :=
  ∃ other before rest, events = before ++ .leave other tag :: rest ∧ other ≠ caller ∧
    before.filterMap (Event.answer? tag) = []

variable {tag : Tag} {caller : Caller} {events : List Event} {event : Event} {seen : View}
  {lobby later : Lobby}

theorem heard_cons {first : Event} (goes : first ≠ .conclude caller) (rest : List Event) :
    heard caller (first :: rest) = first :: heard caller rest :=
  List.takeWhile_cons_of_pos (decide_eq_true goes)

theorem heard_concat (caller : Caller) (events : List Event) (event : Event) :
    heard caller (events ++ [event]) =
      if .conclude caller ∈ events then heard caller events
      else if event = .conclude caller then events else events ++ [event] :=
  takeWhile_ne_concat (Event.conclude caller) events event

/-- What has been decided stays decided. -/
theorem decided_kept {decision : Event} (decided : events.find? (Event.decides tag) = some decision)
    (event : Event) : (events ++ [event]).find? (Event.decides tag) = some decision := by
  rw [List.find?_append, decided]
  rfl

theorem decided_now (undecided : events.find? (Event.decides tag) = none) (event : Event) :
    (events ++ [event]).find? (Event.decides tag) =
      if event.decides tag then some event else none := by
  rw [List.find?_append, undecided, Option.none_or, List.find?_singleton]

/-- A step that is not the caller's own, and decides nothing, is not told of. -/
theorem find_silent (silent : event.decides tag = false) :
    (events ++ [event]).find? (Event.decides tag) = events.find? (Event.decides tag) := by
  rw [List.find?_append, List.find?_singleton, silent, if_neg Bool.false_ne_true, Option.or_none]

/-- What a caller sees, told from what has happened since it got its tag. -/
structure Told (tag : Tag) (caller : Caller) (events : List Event) (view : View) : Prop where
  listed : view.listed = true ↔ events.find? (Event.decides tag) = none
  passing : ∀ response, view.passing = some response ↔
    events.find? (Event.decides tag) = some (.take response) ∧ .arrive caller ∉ events
  arrived : .arrive caller ∈ events →
    ∃ response, events.find? (Event.decides tag) = some (.take response)
  mailbox : view.gone = false → view.mailbox.outcome = verdict tag caller events
  outcome : view.outcome = if .conclude caller ∈ events then
    some (verdict tag caller (heard caller events)) else none
  gone : view.gone = true ↔ .leave caller tag ∈ events
  stayed : .conclude caller ∈ events → .leave caller tag ∉ heard caller events

section Told

variable (told : Told tag caller events seen)
include told

/-- What a caller stopped waiting with is what it heard before. -/
theorem outcome_kept (event : Event) (ends : event ≠ .conclude caller) :
    seen.outcome = if .conclude caller ∈ events ++ [event] then
      some (verdict tag caller (heard caller (events ++ [event]))) else none := by
  rw [told.outcome, heard_concat]
  simp only [List.mem_append, List.mem_singleton, Ne.symm ends, or_false, if_neg ends]
  split_ifs <;> rfl

theorem stay_kept (event : Event) (ends : event ≠ .conclude caller)
    (past : .conclude caller ∈ events ++ [event]) :
    .leave caller tag ∉ heard caller (events ++ [event]) := by
  rw [List.mem_append, List.mem_singleton, or_iff_left (Ne.symm ends)] at past
  rw [heard_concat, if_pos past]
  exact told.stayed past

/-- Before anything is decided, no response is on its way or has arrived. -/
theorem undecided_waits (undecided : events.find? (Event.decides tag) = none) :
    .arrive caller ∉ events ∧ ∀ response, seen.passing ≠ some response := by
  refine ⟨?_, ?_⟩
  · intro arrived
    obtain ⟨response, decided⟩ := told.arrived arrived
    rw [undecided] at decided
    cases decided
  · intro response passing
    have decided := ((told.passing response).mp passing).1
    rw [undecided] at decided
    cases decided

/-- What is told of a caller stays true when nothing happens that concerns it. -/
theorem told_silent
    (find : (events ++ [event]).find? (Event.decides tag) = events.find? (Event.decides tag))
    (arrives : event ≠ .arrive caller) (ends : event ≠ .conclude caller)
    (leaves : event ≠ .leave caller tag) : Told tag caller (events ++ [event]) seen := by
  have same : ∀ own : Event, event ≠ own → (own ∈ events ++ [event] ↔ own ∈ events) := by
    intro own apart
    rw [List.mem_append, List.mem_singleton, or_iff_left (Ne.symm apart)]
  refine ⟨?_, ?_, ?_, ?_, (outcome_kept told event ends :), ?_, stay_kept told event ends⟩
  · rw [find]
    exact told.listed
  · rw [find, same _ arrives]
    exact told.passing
  · rw [find, same _ arrives]
    exact told.arrived
  · intro here
    rw [told.mailbox here, verdict, verdict, find]
    simp only [same _ arrives]
  · rw [same _ leaves]
    exact told.gone

/-- A caller that is unseated while nothing has been decided is abandoned. -/
theorem told_unseated (decides : event.decides tag = true)
    (unanswered : ∀ response, event ≠ .take response) (arrives : event ≠ .arrive caller)
    (ends : event ≠ .conclude caller) (leaves : event ≠ .leave caller tag) :
    Told tag caller (events ++ [event]) seen.unseated := by
  rw [View.unseated]
  split_ifs with listed
  · have undecided := told.listed.mp listed
    obtain ⟨waits, silent⟩ := undecided_waits told undecided
    have now : (events ++ [event]).find? (Event.decides tag) = some event := by
      rw [decided_now undecided, if_pos decides]
    refine ⟨?_, ?_, ?_, ?_, (outcome_kept told event ends :), ?_, stay_kept told event ends⟩
    · rw [now]
      exact iff_of_false Bool.false_ne_true (Option.some_ne_none event)
    · intro response
      rw [now]
      exact iff_of_false (silent response) fun both =>
        unanswered response (Option.some.inj both.1)
    · rw [List.mem_append, List.mem_singleton, or_iff_left (Ne.symm arrives)]
      exact fun arrived => (waits arrived).elim
    · intro _
      rw [verdict, now]
      cases event with
      | take response => exact (unanswered response rfl).elim
      | register other under => rfl
      | leave other under => rfl
      | arrive other => rfl
      | conclude other => rfl
    · rw [List.mem_append, List.mem_singleton, or_iff_left (Ne.symm leaves)]
      exact told.gone
  · obtain ⟨decision, decided⟩ := Option.ne_none_iff_exists'.mp (mt told.listed.mpr listed)
    exact told_silent told ((decided_kept decided event).trans decided.symm) arrives ends leaves

theorem told_taken {response : Response} (own : response.tag = tag) :
    Told tag caller (events ++ [.take response])
      (if seen.listed then { seen with listed := false, passing := some response } else seen) := by
  split_ifs with listed
  · have undecided := told.listed.mp listed
    obtain ⟨waits, _⟩ := undecided_waits told undecided
    have now : (events ++ [Event.take response]).find? (Event.decides tag) =
        some (.take response) := by
      rw [decided_now undecided, Event.decides, if_pos (decide_eq_true own)]
    have still : .arrive caller ∉ events ++ [Event.take response] := by
      simp [waits]
    refine ⟨?_, ?_, ?_, ?_, (outcome_kept told (.take response) nofun :), ?_,
      stay_kept told (.take response) nofun⟩
    · rw [now]
      exact iff_of_false Bool.false_ne_true nofun
    · intro other
      rw [now]
      simp [waits]
    · intro _
      exact ⟨response, now⟩
    · intro here
      rw [told.mailbox here, verdict, verdict, now, undecided]
      dsimp only
      rw [if_neg still]
    · rw [told.gone]
      simp
  · obtain ⟨decision, decided⟩ := Option.ne_none_iff_exists'.mp (mt told.listed.mpr listed)
    exact told_silent told ((decided_kept decided _).trans decided.symm) nofun nofun nofun

theorem told_arrived {response : Response} (carries : seen.passing = some response) :
    Told tag caller (events ++ [.arrive caller])
      { seen with
        mailbox := if seen.gone then seen.mailbox else .answered response
        passing := none } := by
  obtain ⟨decided, waits⟩ := (told.passing response).mp carries
  have still := decided_kept decided (.arrive caller)
  refine ⟨?_, ?_, ?_, ?_, (outcome_kept told (.arrive caller) nofun :), ?_,
      stay_kept told (.arrive caller) nofun⟩
  · rw [still, told.listed, decided]
  · intro other
    simp
  · exact fun _ => ⟨response, still⟩
  · intro here
    dsimp only at here ⊢
    rw [here, verdict, still]
    simp [Mailbox.outcome]
  · rw [told.gone]
    simp

theorem told_concluded (here : seen.gone = false) (waits : seen.outcome = none) :
    Told tag caller (events ++ [.conclude caller])
      { seen with outcome := some seen.mailbox.outcome } := by
  have first : .conclude caller ∉ events := by
    intro past
    have ended := told.outcome
    rw [waits, if_pos past] at ended
    cases ended
  have find : (events ++ [Event.conclude caller]).find? (Event.decides tag) =
      events.find? (Event.decides tag) :=
    find_silent rfl
  have before : heard caller (events ++ [Event.conclude caller]) = events := by
    rw [heard_concat, if_neg first, if_pos rfl]
  refine ⟨?_, ?_, ?_, ?_, ?_, ?_, ?_⟩
  · rw [find]
    exact told.listed
  · intro response
    rw [find, told.passing]
    simp
  · intro arrived
    rw [find]
    exact told.arrived (by simpa using arrived)
  · intro _
    rw [told.mailbox here, verdict, verdict, find]
    simp
  · rw [before, told.mailbox here]
    simp
  · rw [told.gone]
    simp
  · intro _
    rw [before, ← told.gone, here]
    exact Bool.false_ne_true

theorem told_left : Told tag caller (events ++ [.leave caller tag])
    { seen with listed := false, mailbox := .abandoned, gone := true } := by
  have decides : (Event.leave caller tag).decides tag = true := decide_eq_true rfl
  cases decided : events.find? (Event.decides tag) with
  | none =>
      obtain ⟨waits, silent⟩ := undecided_waits told decided
      have now := (decided_now decided (.leave caller tag)).trans (if_pos decides)
      refine ⟨?_, ?_, ?_, nofun, (outcome_kept told (.leave caller tag) nofun :), ?_,
      stay_kept told (.leave caller tag) nofun⟩
      · rw [now]
        exact iff_of_false Bool.false_ne_true nofun
      · intro response
        rw [now]
        exact iff_of_false (silent response) nofun
      · intro arrived
        exact (waits (by simpa using arrived)).elim
      · simp
  | some decision =>
      have still := decided_kept decided (.leave caller tag)
      refine ⟨?_, ?_, ?_, nofun, (outcome_kept told (.leave caller tag) nofun :), ?_,
      stay_kept told (.leave caller tag) nofun⟩
      · rw [still]
        exact iff_of_false Bool.false_ne_true nofun
      · intro response
        rw [still, told.passing, decided]
        simp
      · intro arrived
        rw [still, ← decided]
        exact told.arrived (by simpa using arrived)
      · simp

theorem told_step {next : Option View} (observed : View.observe tag caller event seen = some next) :
    ∃ after, next = some after ∧ Told tag caller (events ++ [event]) after := by
  have silent : event.own tag caller = none → event.unseats tag caller = false →
      event.decides tag = false → ∃ after, next = some after ∧
        Told tag caller (events ++ [event]) after := by
    intro foreign spares undecisive
    rw [View.observe, foreign, spares] at observed
    obtain rfl := Option.some.inj observed
    refine ⟨seen, rfl, told_silent told (find_silent undecisive) ?_ ?_ ?_⟩
    · rintro rfl
      simp [Event.own] at foreign
    · rintro rfl
      simp [Event.own] at foreign
    · rintro rfl
      simp [Event.own] at foreign
  have unseated : event.own tag caller = none → event.unseats tag caller = true →
      event.decides tag = true → ∃ after, next = some after ∧
        Told tag caller (events ++ [event]) after := by
    intro foreign unseats decides
    rw [View.observe, foreign, unseats] at observed
    obtain rfl := Option.some.inj observed
    refine ⟨seen.unseated, rfl, told_unseated told decides ?_ ?_ ?_ ?_⟩
    · rintro response rfl
      cases unseats
    · rintro rfl
      cases unseats
    · rintro rfl
      cases unseats
    · rintro rfl
      simp [Event.unseats] at unseats
  cases event with
  | register other under =>
      by_cases same : under = tag
      · by_cases mine : other = caller
        · rw [View.observe, Event.own, if_pos ⟨mine, same⟩] at observed
          cases observed
        · exact unseated (if_neg fun both => mine both.1) (decide_eq_true ⟨mine, same⟩)
            (decide_eq_true same)
      · exact silent (if_neg fun both => same both.2) (decide_eq_false fun both => same both.2)
          (decide_eq_false same)
  | take response =>
      by_cases same : response.tag = tag
      · rw [View.observe, Event.own, if_pos same] at observed
        obtain rfl := Option.some.inj observed
        exact ⟨_, rfl, told_taken told same⟩
      · exact silent (if_neg same) rfl (decide_eq_false same)
  | arrive other =>
      by_cases mine : other = caller
      · subst mine
        rw [View.observe, Event.own, if_pos rfl] at observed
        obtain ⟨response, carries, rfl⟩ := Option.map_eq_some_iff.mp observed
        exact ⟨_, rfl, told_arrived told carries⟩
      · exact silent (if_neg mine) rfl rfl
  | conclude other =>
      by_cases mine : other = caller
      · subst mine
        rw [View.observe, Event.own, if_pos rfl] at observed
        dsimp only at observed
        rw [View.step, Option.bind_some] at observed
        split_ifs at observed with past
        obtain rfl := Option.some.inj observed
        rw [Bool.or_eq_true, not_or, Bool.not_eq_true, Bool.not_eq_true,
          Option.isSome_eq_false_iff, Option.isNone_iff_eq_none] at past
        exact ⟨_, rfl, told_concluded told past.1 past.2⟩
      · exact silent (if_neg mine) rfl rfl
  | leave other under =>
      by_cases same : under = tag
      · subst same
        by_cases mine : other = caller
        · subst mine
          rw [View.observe, Event.own, if_pos ⟨rfl, rfl⟩] at observed
          dsimp only at observed
          rw [View.step, Option.bind_some] at observed
          split_ifs at observed
          obtain rfl := Option.some.inj observed
          exact ⟨_, rfl, told_left told⟩
        · exact unseated (if_neg fun both => mine both.1) (decide_eq_true ⟨mine, rfl⟩)
            (decide_eq_true rfl)
      · exact silent (if_neg fun both => same both.2) (decide_eq_false fun both => same both.2)
          (decide_eq_false same)

end Told

/-- At any time after a caller got its tag, it sees what is told of it. -/
theorem after_told (sound : lobby.Sound)
    (ran : lobby.after (.register caller tag :: events) = some later) :
    ∃ view, later.view tag caller = some view ∧ Told tag caller events view := by
  induction events using List.reverseRecOn generalizing later with
  | nil =>
      obtain ⟨next, stepped, done⟩ := Option.bind_eq_some_iff.mp ran
      obtain rfl := Option.some.inj done
      refine ⟨_, registered_view stepped, ?_⟩
      exact ⟨by simp, by simp, by simp, fun _ => rfl, rfl, by simp, by simp⟩
  | append_singleton events event ih =>
      rw [← List.cons_append, after_concat] at ran
      obtain ⟨before, past, stepped⟩ := Option.bind_eq_some_iff.mp ran
      obtain ⟨view, looks, told⟩ := ih past
      have observed := step_observed (after_sound sound past) looks stepped
      exact told_step told observed

theorem outcome_of_view (looks : lobby.view tag caller = some seen) :
    lobby.outcome caller = seen.outcome := by
  obtain ⟨seat, known, _, rfl⟩ := view_iff.mp looks
  rw [outcome, known]
  rfl

/-- A caller ends with the verdict on what it heard. -/
theorem ends_with_verdict (sound : lobby.Sound)
    (ran : lobby.after (.register caller tag :: events) = some later)
    {ended : Except Failure Response} (stopped : later.outcome caller = some ended) :
    .conclude caller ∈ events ∧ .leave caller tag ∉ heard caller events ∧
      ended = verdict tag caller (heard caller events) := by
  obtain ⟨view, looks, told⟩ := after_told sound ran
  rw [outcome_of_view looks, told.outcome] at stopped
  split_ifs at stopped with past
  exact ⟨past, told.stayed past, (Option.some.inj stopped).symm⟩

/-- A caller can stop waiting as long as it has not, and has not left. -/
theorem can_conclude (sound : lobby.Sound)
    (ran : lobby.after (.register caller tag :: events) = some later)
    (waits : .conclude caller ∉ events) (stays : .leave caller tag ∉ events) :
    (later.step (.conclude caller)).isSome = true := by
  obtain ⟨view, looks, told⟩ := after_told sound ran
  have unended : view.outcome = none := told.outcome.trans (if_neg waits)
  have here : view.gone = false := Bool.eq_false_iff.mpr (mt told.gone.mp stays)
  obtain ⟨seat, known, _, rfl⟩ := view_iff.mp looks
  rw [step, known, Option.bind_some, if_neg (by simpa using ⟨here, unended⟩)]
  rfl

/-- A response decides no more when the tag has been cleared before it. -/
theorem cleared_decision (cleared : Cleared tag caller events) :
    ∃ decision, events.find? (Event.decides tag) = some decision ∧
      ∀ response, decision ≠ .take response := by
  obtain ⟨other, before, rest, rfl, _, unanswered⟩ := cleared
  rw [List.find?_append]
  cases decided : before.find? (Event.decides tag) with
  | none =>
      refine ⟨.leave other tag, ?_, nofun⟩
      have decides : (Event.leave other tag).decides tag = true := decide_eq_true rfl
      rw [Option.none_or, List.find?_cons_of_pos decides]
  | some decision =>
      refine ⟨decision, rfl, ?_⟩
      rintro response rfl
      have decides : (Event.take response).decides tag = true := List.find?_some decided
      have named : response.tag = tag := of_decide_eq_true decides
      have answers : response ∈ before.filterMap (Event.answer? tag) :=
        List.mem_filterMap.mpr ⟨_, List.mem_of_find?_eq_some decided, if_pos named⟩
      rw [unanswered] at answers
      cases answers

/-- What can decide the fate of a caller that stays and whose tag is not given out again. -/
theorem decision_cases (stays : .leave caller tag ∉ events)
    (last : ∀ third, .register third tag ∉ events) :
    events.find? (Event.decides tag) = none ∧ events.filterMap (Event.answer? tag) = [] ∨
      (∃ response, events.find? (Event.decides tag) = some (.take response) ∧
        (events.filterMap (Event.answer? tag)).head? = some response) ∨
      (∃ other, events.find? (Event.decides tag) = some (.leave other tag) ∧
        Cleared tag caller events) := by
  have silent : ∀ before : List Event, before.find? (Event.decides tag) = none →
      before.filterMap (Event.answer? tag) = [] := by
    intro before undecided
    refine List.filterMap_eq_nil_iff.mpr fun event member => ?_
    have undecisive := List.find?_eq_none.mp undecided event member
    cases event with
    | take response => exact if_neg fun named => undecisive (decide_eq_true named)
    | register other under => rfl
    | leave other under => rfl
    | arrive other => rfl
    | conclude other => rfl
  cases decided : events.find? (Event.decides tag) with
  | none => exact Or.inl ⟨rfl, silent events decided⟩
  | some decision =>
      right
      obtain ⟨decides, before, rest, split, undecided⟩ := List.find?_eq_some_iff_append.mp decided
      have unanswered := silent before (List.find?_eq_none.mpr fun event member =>
        by simpa using undecided event member)
      cases decision with
      | take response =>
          refine Or.inl ⟨response, rfl, ?_⟩
          have answer : (Event.take response).answer? tag = some response :=
            if_pos (of_decide_eq_true decides)
          rw [split, List.filterMap_append, unanswered, List.filterMap_cons_some answer]
          rfl
      | register third under =>
          obtain rfl : under = tag := of_decide_eq_true decides
          exact (last third (split ▸ List.mem_append_right _ List.mem_cons_self)).elim
      | leave other under =>
          obtain rfl : under = tag := of_decide_eq_true decides
          refine Or.inr ⟨other, rfl, other, before, rest, split, ?_, unanswered⟩
          rintro rfl
          exact stays (split ▸ List.mem_append_right _ List.mem_cons_self)
      | arrive other => cases decides
      | conclude other => cases decides

theorem verdict_of_stay (stays : .leave caller tag ∉ events)
    (last : ∀ third, .register third tag ∉ events) :
    (Cleared tag caller events → verdict tag caller events = .error Failure.abandoned) ∧
      (¬ Cleared tag caller events → verdict tag caller events = alone tag caller events) := by
  rw [verdict, alone]
  rcases decision_cases stays last with ⟨decided, unanswered⟩ | ⟨response, decided, first⟩ |
    ⟨other, decided, cleared⟩
  · rw [decided, unanswered]
    refine ⟨fun cleared => ?_, fun _ => rfl⟩
    obtain ⟨decision, found, _⟩ := cleared_decision cleared
    rw [decided] at found
    cases found
  · rw [decided, first]
    refine ⟨fun cleared => ?_, fun _ => rfl⟩
    obtain ⟨decision, found, unlike⟩ := cleared_decision cleared
    exact (unlike response (Option.some.inj (found.symm.trans decided))).elim
  · rw [decided]
    exact ⟨fun _ => rfl, fun whole => (whole cleared).elim⟩

/-- A response that comes in first for a caller that stays can arrive. -/
theorem can_arrive {response : Response} (sound : lobby.Sound)
    (ran : lobby.after (.register caller tag :: events) = some later)
    (stays : .leave caller tag ∉ events) (last : ∀ third, .register third tag ∉ events)
    (whole : ¬ Cleared tag caller events)
    (first : (events.filterMap (Event.answer? tag)).head? = some response)
    (waits : .arrive caller ∉ events) : (later.step (.arrive caller)).isSome = true := by
  obtain ⟨view, looks, told⟩ := after_told sound ran
  have decided : events.find? (Event.decides tag) = some (.take response) := by
    rcases decision_cases stays last with ⟨_, unanswered⟩ | ⟨other, decided, also⟩ |
      ⟨_, _, cleared⟩
    · rw [unanswered] at first
      cases first
    · rw [decided, Option.some.inj (first.symm.trans also)]
    · exact (whole cleared).elim
  have passing := (told.passing response).mpr ⟨decided, waits⟩
  obtain ⟨seat, known, _, rfl⟩ := view_iff.mp looks
  rw [step, known, Option.bind_some, show seat.passing = some response from passing]
  rfl

/-- Nothing that happens before a caller stops waiting is left unheard. -/
theorem heard_append {before : List Event} (waits : .conclude caller ∉ before)
    (rest : List Event) : heard caller (before ++ rest) = before ++ heard caller rest :=
  List.takeWhile_append_of_pos fun event member =>
    decide_eq_true fun ends : event = .conclude caller => waits (ends ▸ member)

theorem heard_subset (caller : Caller) (events : List Event) :
    ∀ event ∈ heard caller events, event ∈ events :=
  fun _ member => (List.takeWhile_sublist _).subset member

/-- A caller waits under a tag when another gets it, and no third one does. Whatever happens then,
and in whatever order, the first can only end abandoned. The second ends as if it were alone: with
the first response that comes in, if that arrives before it stops waiting, and otherwise because its
time is up. Only if another that had the tag clears it while the second is unanswered and
waits does the second end abandoned, whatever comes in afterwards. Both can stop waiting as long as
they have not, and a response that comes in first for the second can arrive. Where nothing comes
between them, the steps are those of completing a request and of finishing one. -/
theorem successor_ends {earlier between events : List Event} {first second : Caller}
    (ran : empty.after (earlier ++ .register first tag ::
      (between ++ .register second tag :: events)) = some later)
    (waits : ∀ event ∈ between, event ≠ .conclude first ∧ event.decides tag = false)
    (last : ∀ third, .register third tag ∉ events) :
    (∀ ended, later.outcome first = some ended → ended = .error Failure.abandoned) ∧
    (∀ ended, later.outcome second = some ended →
      (Cleared tag second (heard second events) → ended = .error Failure.abandoned) ∧
      (¬ Cleared tag second (heard second events) →
        ended = alone tag second (heard second events))) ∧
    (.conclude first ∉ events → .leave first tag ∉ events →
      (later.step (.conclude first)).isSome = true) ∧
    (.leave second tag ∉ events →
      (.conclude second ∉ events → (later.step (.conclude second)).isSome = true) ∧
      ∀ response, (events.filterMap (Event.answer? tag)).head? = some response →
        ¬ Cleared tag second events → .arrive second ∉ events →
        (later.step (.arrive second)).isSome = true) ∧
    Composed later := by
  rw [after_append] at ran
  obtain ⟨start, past, since⟩ := Option.bind_eq_some_iff.mp ran
  have sound := after_sound empty_sound past
  have again := since
  rw [← List.cons_append, after_append] at again
  obtain ⟨middle, reached, rest⟩ := Option.bind_eq_some_iff.mp again
  have kept := after_sound sound reached
  have unended : .conclude first ∉ between := fun member => (waits _ member).1 rfl
  refine ⟨?_, ?_, ?_, ?_, composed (after_sound kept rest)⟩
  · intro ended stopped
    obtain ⟨_, _, rfl⟩ := ends_with_verdict sound since stopped
    have undecided : between.find? (Event.decides tag) = none :=
      List.find?_eq_none.mpr fun event member => by simp [(waits event member).2]
    have decides : (Event.register second tag).decides tag = true := decide_eq_true rfl
    have goes : Event.register second tag ≠ .conclude first := nofun
    rw [heard_append unended, heard_cons goes, verdict, List.find?_append, undecided,
      Option.none_or, List.find?_cons_of_pos decides]
  · intro ended stopped
    obtain ⟨_, stays, rfl⟩ := ends_with_verdict kept rest stopped
    exact verdict_of_stay stays fun third member => last third (heard_subset _ _ _ member)
  · intro waits' stays
    refine can_conclude sound since ?_ ?_
    · simp [unended, waits']
    · have stayed : .leave first tag ∉ between := by
        intro member
        have undecisive := (waits _ member).2
        simp [Event.decides] at undecisive
      simp [stayed, stays]
  · intro stays
    exact ⟨fun waits => can_conclude kept rest waits stays, fun response first whole waits =>
      can_arrive kept rest stays last whole first waits⟩

/-- Two callers under one tag, as when the same request is sent twice at once. The first is abandoned
and clears the tag, and thereby its successor, which ends abandoned too, also if a response comes in
while it waits. Alone it would have ended because its time is up, or with that response. -/
theorem successor_abandoned :
    let silence : List Event := [.conclude 0, .leave 0 1, .conclude 1]
    let answer : List Event := [.conclude 0, .leave 0 1, .take ⟨1, .stored true⟩]
    (empty.after (.register 0 1 :: .register 1 1 :: silence)).bind (outcome 0) =
        some (.error Failure.abandoned) ∧
      (empty.after (.register 0 1 :: .register 1 1 :: silence)).bind (outcome 1) =
        some (.error Failure.abandoned) ∧
      alone 1 1 (heard 1 silence) = .error .timedOut ∧
      ((empty.after (.register 0 1 :: .register 1 1 :: answer)).bind fun later =>
        later.step (.arrive 1)).isNone = true ∧
      (empty.after (.register 0 1 :: .register 1 1 :: (answer ++ [.conclude 1]))).bind (outcome 1) =
        some (.error Failure.abandoned) ∧
      alone 1 1 (answer ++ [.arrive 1]) = .ok ⟨1, .stored true⟩ := by
  intro silence answer
  exact ⟨rfl, rfl, rfl, rfl, rfl, rfl⟩

/-- The first caller clears the tag only when the second has been answered, and nothing is lost. -/
theorem answered_before_cleared :
    let events : List Event := [.take ⟨1, .stored true⟩, .conclude 0, .leave 0 1, .arrive 1,
      .conclude 1]
    ∃ later, empty.after (.register 0 1 :: .register 1 1 :: events) = some later ∧
      later.outcome 0 = some (.error Failure.abandoned) ∧
      later.outcome 1 = some (.ok ⟨1, .stored true⟩) := by
  intro events
  obtain ⟨later, ran⟩ : ∃ later, empty.after (.register 0 1 :: .register 1 1 :: events) =
      some later :=
    ⟨_, rfl⟩
  have ended : ∀ caller, ((empty.after (.register 0 1 :: .register 1 1 :: events)).bind
      (outcome caller)).isSome = (later.outcome caller).isSome := by
    intro caller
    rw [ran]
    rfl
  obtain ⟨one, first⟩ := Option.isSome_iff_exists.mp ((ended 0).symm.trans rfl)
  obtain ⟨two, second⟩ := Option.isSome_iff_exists.mp ((ended 1).symm.trans rfl)
  have law := @successor_ends 1 later [] [] events 0 1 ran (by simp) (by simp [events])
  refine ⟨later, ran, ?_, ?_⟩
  · rw [first, law.1 one first]
  · have whole : ¬ Cleared 1 1 (heard 1 events) := by
      intro cleared
      obtain ⟨decision, found, unlike⟩ := cleared_decision cleared
      exact unlike _ (Option.some.inj found).symm
    rw [second, (law.2.1 two second).2 whole]
    rfl

end Lobby
end XorOverlay
