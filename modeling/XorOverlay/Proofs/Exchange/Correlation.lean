import Mathlib
import XorOverlay.Proofs.Exchange.Desk
import XorOverlay.Proofs.Runs

/-!
Which response a caller ends with. A response that comes in for a caller that is unanswered is taken
for it, and is on its way until it arrives in the caller's mailbox, which no step of another can keep
it from. Whatever the order of the steps, a caller that stops waiting does so with the first response
that came in under its tag since it got it, if that has arrived by then, and otherwise because its time
is up; so nothing is lost that arrives while its caller waits. And the tags that are listed are those
of the callers that are unanswered and have not left.
-/

namespace XorOverlay

set_option autoImplicit false

namespace Desk

/-- The response that comes in under a tag, if that is what happens. -/
def Event.answer? (tag : Tag) : Event → Option Response
  | .take response => if response.tag = tag then some response else none
  | _ => none

/-- The responses that came in under a tag after it was given out, first to last. -/
def answersTo (tag : Tag) (history : List Event) : List Response :=
  (history.dropWhile fun event => event ≠ .register tag).filterMap (Event.answer? tag)

/-- A tag was given out to a caller that has had no answer since and has not cleared it. -/
def Unanswered (tag : Tag) (history : List Event) : Prop :=
  .register tag ∈ history ∧ answersTo tag history = [] ∧ .leave tag ∉ history

/-- A response was taken for the caller of its tag: it came in while that caller was unanswered. -/
def Taken (response : Response) (history : List Event) : Prop :=
  ∃ before, before ++ [.take response] <+: history ∧ Unanswered response.tag before

/-- What happens until a caller stops waiting. -/
def heard (tag : Tag) (history : List Event) : List Event :=
  history.takeWhile fun event => event ≠ .conclude tag

/-- What a caller ends with that stops waiting after some steps: the first response that came in under
its tag since it got it, if that has arrived, and otherwise that its time is up. -/
def verdict (tag : Tag) (history : List Event) : Except Failure Response :=
  match (answersTo tag history).head? with
  | some response => if .arrive tag ∈ history then .ok response else .error .timedOut
  | none => .error .timedOut

variable {desk : Desk} {history before : List Event} {tag : Tag} {event : Event}
  {response : Response}

theorem answers_concat (tag : Tag) (history : List Event) (event : Event) :
    answersTo tag (history ++ [event]) = answersTo tag history ++
      if .register tag ∈ history then (event.answer? tag).toList else [] := by
  rw [answersTo, answersTo, List.dropWhile_append]
  by_cases given : Event.register tag ∈ history
  · have kept : history.dropWhile (fun event => event ≠ .register tag) ≠ [] := by
      intro dropped
      have none := List.dropWhile_eq_nil_iff.mp dropped (.register tag) given
      simp at none
    rw [if_neg (mt List.isEmpty_iff.mp kept), if_pos given, List.filterMap_append]
    cases answer : event.answer? tag with
    | none => simp [answer]
    | some response => simp [answer]
  · have dropped : history.dropWhile (fun event => event ≠ .register tag) = [] := by
      apply List.dropWhile_eq_nil_iff.mpr
      intro past happened
      exact decide_eq_true fun same : past = .register tag => given (same ▸ happened)
    rw [if_pos (List.isEmpty_iff.mpr dropped), if_neg given, dropped, List.filterMap_nil,
      List.append_nil]
    by_cases now : event = .register tag
    · simp [now, Event.answer?]
    · simp [now]

theorem after_concat (history : List Event) (event : Event) (desk : Desk) :
    desk.after (history ++ [event]) = (desk.after history).bind fun later => later.step event :=
  run_concat step history event desk

theorem answers_kept (silent : event.answer? tag = none) :
    answersTo tag (history ++ [event]) = answersTo tag history := by
  rw [answers_concat, silent]
  simp

theorem answer_other (other : event.tag ≠ tag) : event.answer? tag = none := by
  cases event with
  | take response => exact if_neg other
  | register tag => rfl
  | arrive tag => rfl
  | conclude tag => rfl
  | leave tag => rfl

/-- What has come in stays, and is only added to. -/
theorem answers_begun (begins : before <+: history) :
    answersTo tag before <+: answersTo tag history := by
  obtain ⟨rest, rfl⟩ := begins
  induction rest using List.reverseRecOn with
  | nil => rw [List.append_nil]
  | append_singleton rest event ih =>
      rw [← List.append_assoc, answers_concat]
      exact ih.trans (List.prefix_append _ _)

theorem head_of_begun {first : Response} {early late : List Response} (begins : early <+: late)
    (head : early.head? = some first) : late.head? = some first := by
  obtain ⟨rest, rfl⟩ := begins
  rw [List.head?_append, head]
  rfl

theorem mem_before {own : Event} (apart : event ≠ own) :
    own ∈ history ++ [event] ↔ own ∈ history := by
  rw [List.mem_append, List.mem_singleton, or_iff_left (Ne.symm apart)]

theorem taken_concat : Taken response (history ++ [event]) ↔
    Taken response history ∨ event = .take response ∧ Unanswered response.tag history := by
  constructor
  · rintro ⟨before, begins, waits⟩
    rcases List.prefix_concat_iff.mp begins with same | early
    · obtain ⟨rfl, now⟩ := List.append_inj' same rfl
      exact Or.inr ⟨(List.singleton_inj.mp now).symm, waits⟩
    · exact Or.inl ⟨before, early, waits⟩
  · rintro (⟨before, begins, waits⟩ | ⟨rfl, waits⟩)
    · exact ⟨before, begins.trans (List.prefix_append _ _), waits⟩
    · exact ⟨history, List.prefix_rfl, waits⟩

theorem taken_kept (silent : event.answer? tag = none) (own : response.tag = tag) :
    Taken response (history ++ [event]) ↔ Taken response history := by
  rw [taken_concat, or_iff_left]
  rintro ⟨rfl, _⟩
  rw [Event.answer?, if_pos own] at silent
  cases silent

theorem taken_later (taken : Taken response before) (begins : before <+: history) :
    Taken response history := by
  obtain ⟨start, early, waits⟩ := taken
  exact ⟨start, early.trans begins, waits⟩

/-- The response that is taken for a caller is the first that comes in for it. -/
theorem taken_first (taken : Taken response history) :
    (answersTo response.tag history).head? = some response := by
  obtain ⟨before, begins, given, silent, _⟩ := taken
  have answers : answersTo response.tag (before ++ [.take response]) = [response] := by
    rw [answers_concat, silent, if_pos given, Event.answer?, if_pos rfl]
    rfl
  exact head_of_begun (answers_begun begins) (by rw [answers]; rfl)

theorem verdict_unarrived (still : .arrive tag ∉ history) :
    verdict tag history = .error .timedOut := by
  rw [verdict]
  cases (answersTo tag history).head? with
  | none => rfl
  | some response => exact if_neg still

theorem verdict_arrived (taken : Taken response history)
    (arrived : .arrive response.tag ∈ history) :
    verdict response.tag history = .ok response := by
  rw [verdict, taken_first taken]
  exact if_pos arrived

/-- What a caller ends with changes only when a response comes in under its tag, or arrives. -/
theorem verdict_kept (silent : event.answer? tag = none) (still : event ≠ .arrive tag) :
    verdict tag (history ++ [event]) = verdict tag history := by
  rw [verdict, verdict, answers_kept silent]
  simp only [mem_before still]

/-- What a caller sees, told from what has happened. -/
structure Stands (tag : Tag) (history : List Event) (view : View) : Prop where
  registered : .register tag ∈ history
  listed : view.listed = true ↔ answersTo tag history = [] ∧ .leave tag ∉ history
  passing : ∀ response, view.passing = some response ↔
    (response.tag = tag ∧ Taken response history) ∧ .arrive tag ∉ history
  arrived : .arrive tag ∈ history → ∃ response, response.tag = tag ∧ Taken response history
  mailbox : view.gone = false → view.mailbox.outcome = verdict tag history
  outcome : view.outcome =
    if .conclude tag ∈ history then some (verdict tag (heard tag history)) else none
  gone : view.gone = true ↔ .leave tag ∈ history

/-- The same of a tag that may not have been given out. -/
def Located (tag : Tag) (history : List Event) (view : Option View) : Prop :=
  match view with
  | none => .register tag ∉ history ∧ .arrive tag ∉ history ∧ .conclude tag ∉ history ∧
      .leave tag ∉ history
  | some view => Stands tag history view

section Steps

variable {view : View} (stands : Stands tag history view)
include stands

/-- A caller that has stopped waiting hears nothing more. -/
theorem outcome_kept (event : Event) (waits : event ≠ .conclude tag) :
    view.outcome = if .conclude tag ∈ history ++ [event] then
      some (verdict tag (heard tag (history ++ [event]))) else none := by
  rw [stands.outcome, heard, heard, takeWhile_ne_concat]
  simp only [mem_before waits, if_neg waits]
  split_ifs
  · rfl
  · rfl

theorem arrived_kept (event : Event) (still : event ≠ .arrive tag) :
    .arrive tag ∈ history ++ [event] →
      ∃ response, response.tag = tag ∧ Taken response (history ++ [event]) := by
  rw [mem_before still]
  intro arrived
  obtain ⟨response, own, taken⟩ := stands.arrived arrived
  exact ⟨response, own, taken_later taken (List.prefix_append _ _)⟩

/-- What is on its way stays so until it arrives. -/
theorem passing_kept (event : Event) (silent : event.answer? tag = none)
    (still : event ≠ .arrive tag) (response : Response) : view.passing = some response ↔
      (response.tag = tag ∧ Taken response (history ++ [event])) ∧
        .arrive tag ∉ history ++ [event] := by
  rw [mem_before still, and_congr_right (taken_kept silent)]
  exact stands.passing response

theorem gone_kept (event : Event) (stays : event ≠ .leave tag) :
    view.gone = true ↔ .leave tag ∈ history ++ [event] :=
  stands.gone.trans (mem_before stays).symm

/-- Nothing that names another tag matters. -/
theorem stands_other (other : event.tag ≠ tag) : Stands tag (history ++ [event]) view := by
  have apart : ∀ own : Event, own.tag = tag → event ≠ own := fun own named same =>
    other (same ▸ named)
  have silent := answer_other other
  refine ⟨List.mem_append_left _ stands.registered, ?_,
    passing_kept stands event silent (apart (.arrive tag) rfl),
    arrived_kept stands event (apart (.arrive tag) rfl), ?_,
    outcome_kept stands event (apart (.conclude tag) rfl),
    gone_kept stands event (apart (.leave tag) rfl)⟩
  · rw [answers_kept silent, mem_before (apart (.leave tag) rfl)]
    exact stands.listed
  · rw [verdict_kept silent (apart (.arrive tag) rfl)]
    exact stands.mailbox

theorem unarrived_of_silent (silent : answersTo tag history = []) : .arrive tag ∉ history := by
  intro arrived
  obtain ⟨response, rfl, taken⟩ := stands.arrived arrived
  have first := taken_first taken
  rw [silent] at first
  cases first

theorem answers_take (own : response.tag = tag) :
    answersTo tag (history ++ [.take response]) = answersTo tag history ++ [response] := by
  rw [answers_concat, if_pos stands.registered, Event.answer?, if_pos own]
  rfl

/-- The first response that comes in for a caller is on its way to it from then on. -/
theorem taken_stands (own : response.tag = tag) (listed : view.listed = true) :
    Stands tag (history ++ [.take response])
      { view with listed := false, passing := some response } := by
  obtain ⟨silent, stayed⟩ := stands.listed.mp listed
  have still := unarrived_of_silent stands silent
  have apart : Event.take response ≠ .arrive tag := nofun
  have yet : .arrive tag ∉ history ++ [.take response] := mt (mem_before apart).mp still
  have waits : Unanswered response.tag history := own ▸ ⟨stands.registered, silent, stayed⟩
  refine ⟨List.mem_append_left _ stands.registered, by simp [answers_take stands own], ?_,
    (arrived_kept stands (.take response) nofun :), ?_,
    (outcome_kept stands (.take response) nofun :), (gone_kept stands (.take response) nofun :)⟩
  · intro first
    rw [taken_concat]
    constructor
    · intro carries
      obtain rfl := Option.some.inj carries
      exact ⟨⟨own, Or.inr ⟨rfl, waits⟩⟩, yet⟩
    · rintro ⟨⟨named, early | ⟨now, _⟩⟩, _⟩
      · have head := taken_first early
        rw [named, silent] at head
        cases head
      · rw [Event.take.inj now]
  · intro here
    rw [verdict_unarrived yet, ← verdict_unarrived still]
    exact stands.mailbox here

/-- Any other that comes in for it is too late. -/
theorem late_stands (own : response.tag = tag) (unlisted : ¬ view.listed = true) :
    Stands tag (history ++ [.take response]) view := by
  have answered : ¬ Unanswered tag history := fun waits => unlisted (stands.listed.mpr waits.2)
  have still : .arrive tag ∈ history ++ [.take response] ↔ .arrive tag ∈ history :=
    mem_before nofun
  refine ⟨List.mem_append_left _ stands.registered,
    by simp [answers_take stands own, unlisted], ?_,
    arrived_kept stands (.take response) nofun, ?_,
    outcome_kept stands (.take response) nofun, gone_kept stands (.take response) nofun⟩
  · intro first
    rw [still, stands.passing, taken_concat]
    refine and_congr_left fun _ => and_congr_right fun named => (or_iff_left ?_).symm
    rintro ⟨_, waits⟩
    exact answered (named ▸ waits)
  · intro here
    rw [stands.mailbox here]
    by_cases past : .arrive tag ∈ history
    · obtain ⟨first, rfl, taken⟩ := stands.arrived past
      have later := taken_later taken (List.prefix_append _ [.take response])
      rw [verdict_arrived taken past, verdict_arrived later (still.mpr past)]
    · rw [verdict_unarrived past, verdict_unarrived (mt still.mp past)]

theorem arrived_stands (carries : view.passing = some response) :
    Stands tag (history ++ [.arrive tag])
      { view with
        mailbox := if view.gone then view.mailbox else .answered response
        passing := none } := by
  obtain ⟨⟨own, taken⟩, _⟩ := (stands.passing response).mp carries
  have later : Taken response (history ++ [.arrive tag]) :=
    taken_later taken (List.prefix_append _ _)
  refine ⟨List.mem_append_left _ stands.registered, ?_, ?_, fun _ => ⟨response, own, later⟩, ?_,
    (outcome_kept stands (.arrive tag) nofun :), (gone_kept stands (.arrive tag) nofun :)⟩
  · rw [answers_kept rfl]
    simp [stands.listed]
  · intro first
    simp
  · intro here
    subst own
    rw [verdict_arrived later (List.mem_append_right _ List.mem_cons_self)]
    exact congrArg Mailbox.outcome (if_neg (Bool.eq_false_iff.mp here))

theorem concluded_stands (here : view.gone = false) (waits : view.outcome = none) :
    Stands tag (history ++ [.conclude tag])
      { view with outcome := some view.mailbox.outcome } := by
  have first : .conclude tag ∉ history := by
    intro past
    have ended := stands.outcome
    rw [waits, if_pos past] at ended
    cases ended
  have before : heard tag (history ++ [Event.conclude tag]) = history := by
    rw [heard, takeWhile_ne_concat, if_neg first, if_pos rfl]
  have kept : verdict tag (history ++ [.conclude tag]) = verdict tag history :=
    verdict_kept rfl nofun
  refine ⟨List.mem_append_left _ stands.registered, ?_, (passing_kept stands (.conclude tag) rfl nofun :),
    (arrived_kept stands (.conclude tag) nofun :), ?_, ?_,
    (gone_kept stands (.conclude tag) nofun :)⟩
  · rw [answers_kept rfl]
    simp [stands.listed]
  · rw [kept]
    exact stands.mailbox
  · rw [before, stands.mailbox here]
    simp

theorem left_stands : Stands tag (history ++ [.leave tag])
    { view with listed := false, mailbox := .abandoned, gone := true } :=
  ⟨List.mem_append_left _ stands.registered, by simp, (passing_kept stands (.leave tag) rfl nofun :),
    (arrived_kept stands (.leave tag) nofun :), nofun,
    (outcome_kept stands (.leave tag) nofun :), by simp⟩

end Steps

theorem registered_stands (unknown : Located tag history none) :
    Stands tag (history ++ [.register tag]) ⟨true, .waiting, none, none, false⟩ := by
  obtain ⟨absent, still, waits, stayed⟩ := unknown
  have answers : answersTo tag (history ++ [.register tag]) = [] := by
    rw [answers_kept rfl, answersTo, List.dropWhile_eq_nil_iff.mpr, List.filterMap_nil]
    intro past happened
    exact decide_eq_true fun same : past = .register tag => absent (same ▸ happened)
  have unarrived : .arrive tag ∉ history ++ [.register tag] := by simp [still]
  refine ⟨by simp, by simp [answers, stayed], ?_, fun past => (unarrived past).elim, ?_,
    by simp [waits], by simp [stayed]⟩
  · intro response
    refine iff_of_false nofun ?_
    rintro ⟨⟨own, taken⟩, _⟩
    have head := taken_first taken
    rw [own, answers] at head
    cases head
  · intro _
    rw [verdict_unarrived unarrived]
    rfl

theorem located_own {view seen : Option View} (located : Located event.tag history view)
    (stepped : View.step view event = some seen) :
    Located event.tag (history ++ [event]) seen := by
  cases view with
  | none =>
      cases event with
      | register tag =>
          obtain rfl := Option.some.inj stepped
          exact registered_stands located
      | take response =>
          obtain rfl := Option.some.inj stepped
          simpa [Located] using located
      | arrive tag => cases stepped
      | conclude tag => cases stepped
      | leave tag => cases stepped
  | some view =>
      have stands : Stands event.tag history view := located
      cases event with
      | register tag => cases stepped
      | take response =>
          obtain rfl := Option.some.inj stepped
          rw [Option.map_some]
          split_ifs with listed
          · exact taken_stands stands rfl listed
          · exact late_stands stands rfl listed
      | arrive tag =>
          obtain ⟨response, carries, rfl⟩ := Option.map_eq_some_iff.mp stepped
          exact arrived_stands stands carries
      | conclude tag =>
          rw [View.step, Option.bind_some] at stepped
          split_ifs at stepped with past
          obtain rfl := Option.some.inj stepped
          rw [Bool.or_eq_true, not_or, Bool.not_eq_true] at past
          exact concluded_stands stands past.1 (by simpa using past.2)
      | leave tag =>
          rw [View.step, Option.bind_some] at stepped
          split_ifs at stepped with past
          obtain rfl := Option.some.inj stepped
          exact left_stands stands

theorem located_other {view : Option View} (located : Located tag history view)
    (other : event.tag ≠ tag) : Located tag (history ++ [event]) view := by
  cases view with
  | none =>
      have same : ∀ own : Event, own.tag = tag → own ∉ history → own ∉ history ++ [event] := by
        intro own named absent
        rw [List.mem_append, List.mem_singleton, not_or]
        exact ⟨absent, fun now => other (now ▸ named)⟩
      exact ⟨same _ rfl located.1, same _ rfl located.2.1, same _ rfl located.2.2.1,
        same _ rfl located.2.2.2⟩
  | some view => exact stands_other located other

/-- After any history, every caller sees what the history says. -/
theorem after_located (ran : empty.after history = some desk) :
    desk.Sound ∧ ∀ tag, Located tag history (desk.view tag) := by
  refine run_induction ran ⟨empty_sound, fun tag => by simp [Located, view, empty]⟩ ?_
  rintro history before event next _ stepped ⟨sound, located⟩
  obtain ⟨kept, own, others⟩ := step_projects sound stepped
  refine ⟨kept, fun tag => ?_⟩
  by_cases mine : event.tag = tag
  · subst mine
    exact located_own (located event.tag) own
  · rw [others tag (Ne.symm mine)]
    exact located_other (located tag) mine

/-- What becomes of a caller is the same if the steps of all the others are left out. -/
theorem alone (ran : empty.after history = some desk) (tag : Tag) :
    ∃ single, empty.after (history.filter fun event => event.tag = tag) = some single ∧
      single.view tag = desk.view tag := by
  induction history using List.reverseRecOn generalizing desk with
  | nil =>
      obtain rfl := Option.some.inj ran
      exact ⟨empty, rfl, rfl⟩
  | append_singleton history event ih =>
      rw [after_concat] at ran
      obtain ⟨before, past, stepped⟩ := Option.bind_eq_some_iff.mp ran
      obtain ⟨single, alike, same⟩ := ih past
      obtain ⟨_, own, others⟩ := step_projects (after_located past).1 stepped
      rw [List.filter_append]
      by_cases mine : event.tag = tag
      · subst mine
        rw [List.filter_singleton, decide_eq_true rfl, cond_true, after_concat, alike]
        rw [← same] at own
        obtain ⟨next, moved⟩ := step_enabled own
        obtain ⟨_, also, _⟩ := step_projects (after_located alike).1 moved
        exact ⟨next, moved, Option.some.inj (also.symm.trans own)⟩
      · rw [List.filter_singleton, decide_eq_false mine, cond_false, List.append_nil,
          others tag (Ne.symm mine)]
        exact ⟨single, alike, same⟩

/-- The caller has the response for as long as it is there, and stops waiting with nothing else. -/
def Holds (response : Response) (seen : Option View) : Prop :=
  ∃ view, seen = some view ∧ (view.gone = false → view.mailbox = .answered response) ∧
    ∀ outcome, view.outcome = some outcome → outcome = .ok response

theorem outcome_eq (ran : empty.after history = some desk) (tag : Tag) :
    (desk.view tag).bind View.outcome =
      if .conclude tag ∈ history then some (verdict tag (heard tag history)) else none := by
  have place := (after_located ran).2 tag
  cases seen : desk.view tag with
  | none =>
      rw [seen] at place
      exact (if_neg place.2.2.1).symm
  | some view =>
      rw [seen] at place
      exact Stands.outcome place

end Desk
end XorOverlay
