import Mathlib
import XorOverlay.Proofs.Exchange.Waiting

/-!
A desk of callers, in small steps. A response that comes in is taken for the caller that waits under
its tag, and arrives in that caller's mailbox afterwards; a caller that waits makes up its mind first
and clears its tag afterwards. Between any two steps the others may take theirs. Beside the steps of
the desk stand the steps that a single caller sees of it: a step that names a caller's tag is a step
of that caller, and no other step is noticed by it.
-/

namespace XorOverlay

set_option autoImplicit false

/-- A step at a desk. -/
inductive Desk.Event where
  /-- A caller gets a tag to wait under. -/
  | register (tag : Tag)
  /-- A response comes in, and is taken for the caller that waits under its tag, if any does. -/
  | take (response : Response)
  /-- The response taken for a caller arrives: it is put into the caller's mailbox. -/
  | arrive (tag : Tag)
  /-- A caller stops waiting, for it has its response or its time is up. -/
  | conclude (tag : Tag)
  /-- A caller clears its tag, for it has stopped waiting or could not send. -/
  | leave (tag : Tag)
  deriving DecidableEq

def Desk.Event.tag : Desk.Event → Tag
  | .register tag => tag
  | .take response => response.tag
  | .arrive tag => tag
  | .conclude tag => tag
  | .leave tag => tag

/-- A caller as the desk knows it. -/
structure Client where
  caller : Caller
  /-- A response on its way, and the caller it was taken for. -/
  passing : Option (Caller × Response)
  /-- What the caller stopped waiting with. -/
  outcome : Option (Except Failure Response)
  gone : Bool

/-- Callers with a tag each, and those of them that wait. -/
structure Desk where
  pending : Pending
  clients : Tag → Option Client

namespace Desk

def empty : Desk :=
  ⟨Pending.empty, fun _ => none⟩

/-- One step, where it can be taken. No tag is given out twice; a caller stops waiting once, and not
after it has cleared its tag; it clears its tag once. -/
def step (desk : Desk) : Event → Option Desk
  | .register tag =>
    match desk.clients tag with
    | none =>
      let (caller, pending) := desk.pending.register tag
      some ⟨pending, Function.update desk.clients tag (some ⟨caller, none, none, false⟩)⟩
    | some _ => none
  | .take response =>
    match desk.pending.take response.tag with
    | none => some desk
    | some (caller, pending) =>
      some ⟨pending, Function.update desk.clients response.tag
        ((desk.clients response.tag).map fun client =>
          { client with passing := some (caller, response) })⟩
  | .arrive tag =>
    match desk.clients tag with
    | none => none
    | some client =>
      client.passing.map fun (caller, response) =>
        ⟨desk.pending.deliverTo caller (.answered response),
          Function.update desk.clients tag (some { client with passing := none })⟩
  | .conclude tag =>
    match desk.clients tag with
    | none => none
    | some client =>
      if client.gone || client.outcome.isSome then none
      else
        some ⟨desk.pending, Function.update desk.clients tag
          (some { client with outcome := some (desk.pending.outcome client.caller) })⟩
  | .leave tag =>
    match desk.clients tag with
    | none => none
    | some client =>
      if client.gone then none
      else
        some ⟨desk.pending.withdraw client.caller tag,
          Function.update desk.clients tag (some { client with gone := true })⟩

/-- The desk after some steps, if each could be taken. -/
def after (history : List Event) (desk : Desk) : Option Desk :=
  history.foldlM step desk

end Desk

/-- What a caller sees of a desk. -/
structure View where
  /-- Whether the caller is listed as waiting. -/
  listed : Bool
  mailbox : Mailbox
  /-- A response on its way to the mailbox. -/
  passing : Option Response
  outcome : Option (Except Failure Response)
  gone : Bool

namespace View

/-- One step of a caller, where it can be taken. -/
def step (view : Option View) : Desk.Event → Option (Option View)
  | .register _ =>
    match view with
    | none => some (some ⟨true, .waiting, none, none, false⟩)
    | some _ => none
  | .take response =>
    some (view.map fun view =>
      if view.listed then { view with listed := false, passing := some response } else view)
  | .arrive _ =>
    view.bind fun view => view.passing.map fun response =>
      some { view with
        mailbox := if view.gone then view.mailbox else .answered response
        passing := none }
  | .conclude _ =>
    view.bind fun view =>
      if view.gone || view.outcome.isSome then none
      else some (some { view with outcome := some view.mailbox.outcome })
  | .leave _ =>
    view.bind fun view =>
      if view.gone then none
      else some (some { view with listed := false, mailbox := .abandoned, gone := true })

end View

namespace Desk

def view (tag : Tag) (desk : Desk) : Option View :=
  (desk.clients tag).map fun client =>
    ⟨(desk.pending.slots.lookup tag).isSome, desk.pending.mailbox client.caller,
      client.passing.map Prod.snd, client.outcome, client.gone⟩

/-- Callers are told apart by their numbers, a tag is held by the caller it was given to, and a
caller has a mailbox until it is gone. -/
structure Sound (desk : Desk) : Prop where
  distinct : (desk.pending.slots.map Prod.fst).Nodup
  held : ∀ tag caller, desk.pending.slots.lookup tag = some caller →
    ∃ client, desk.clients tag = some client ∧ client.caller = caller
  posted : ∀ tag client, desk.clients tag = some client →
    (desk.pending.mail.lookup client.caller).isSome = !client.gone
  numbered : ∀ tag client, desk.clients tag = some client → client.caller < desk.pending.next
  apart : ∀ tag other client also, desk.clients tag = some client →
    desk.clients other = some also → client.caller = also.caller → tag = other
  passing : ∀ tag client caller response, desk.clients tag = some client →
    client.passing = some (caller, response) → caller = client.caller

theorem empty_sound : empty.Sound := by
  have nobody : ∀ tag client, empty.clients tag ≠ some client := fun _ _ found => by cases found
  refine ⟨List.nodup_nil, ?_, ?_, ?_, ?_, ?_⟩
  · intro tag caller listed
    cases listed
  · exact fun tag client found => (nobody tag client found).elim
  · exact fun tag client found => (nobody tag client found).elim
  · exact fun tag other client also found _ => (nobody tag client found).elim
  · exact fun tag client caller response found _ => (nobody tag client found).elim

variable {desk next : Desk} {tag : Tag} {client : Client} {pending : Pending}

/-- What becomes of a desk when one caller changes, and of the rest only what concerns it. -/
theorem amend (sound : desk.Sound) (client : Client)
    (spares : Pending.Spares tag client.caller desk.pending pending)
    (others : ∀ other held, other ≠ tag → desk.clients other = some held →
      held.caller ≠ client.caller)
    (slot : ∀ caller, pending.slots.lookup tag = some caller → caller = client.caller)
    (posted : (pending.mail.lookup client.caller).isSome = !client.gone)
    (numbered : client.caller < pending.next)
    (passing : ∀ caller response, client.passing = some (caller, response) →
      caller = client.caller) :
    Sound ⟨pending, Function.update desk.clients tag (some client)⟩ ∧
      ∀ other, other ≠ tag →
        view other ⟨pending, Function.update desk.clients tag (some client)⟩ = desk.view other := by
  have lookups : ∀ other held,
      Function.update desk.clients tag (some client) other = some held →
      other = tag ∧ held = client ∨ other ≠ tag ∧ desk.clients other = some held := by
    intro other held found
    by_cases same : other = tag
    · rw [same, Function.update_self] at found
      exact Or.inl ⟨same, (Option.some.inj found).symm⟩
    · rw [Function.update_of_ne same] at found
      exact Or.inr ⟨same, found⟩
  refine ⟨⟨spares.distinct sound.distinct, ?_, ?_, ?_, ?_, ?_⟩, ?_⟩
  · intro other caller listed
    by_cases same : other = tag
    · subst same
      exact ⟨client, Function.update_self .., (slot caller listed).symm⟩
    · rw [spares.slots other same] at listed
      obtain ⟨held, found, named⟩ := sound.held other caller listed
      exact ⟨held, (Function.update_of_ne same ..).trans found, named⟩
  · intro other held found
    rcases lookups other held found with ⟨rfl, rfl⟩ | ⟨same, found⟩
    · exact posted
    · dsimp only
      rw [spares.mail _ (others other held same found)]
      exact sound.posted other held found
  · intro other held found
    rcases lookups other held found with ⟨rfl, rfl⟩ | ⟨same, found⟩
    · exact numbered
    · exact (sound.numbered other held found).trans_le spares.next
  · intro first second one two found also equal
    rcases lookups first one found with ⟨here, amended⟩ | ⟨elsewhere, old⟩
    · rcases lookups second two also with ⟨there, _⟩ | ⟨different, older⟩
      · exact here.trans there.symm
      · exact (others second two different older (amended ▸ equal.symm)).elim
    · rcases lookups second two also with ⟨_, amended⟩ | ⟨_, older⟩
      · exact (others first one elsewhere old (amended ▸ equal)).elim
      · exact sound.apart first second one two old older equal
  · intro other held caller response found carries
    rcases lookups other held found with ⟨rfl, rfl⟩ | ⟨same, found⟩
    · exact passing caller response carries
    · exact sound.passing other held caller response found carries
  · intro other same
    rw [view, view]
    dsimp only
    rw [Function.update_of_ne same, spares.slots other same]
    cases found : desk.clients other with
    | none => rfl
    | some held =>
        rw [Option.map_some, Option.map_some, Pending.mailbox, Pending.mailbox,
          spares.mail _ (others other held same found)]

/-- A step of a desk is one of the caller whose tag it names, and of no other caller. -/
structure Projects (event : Event) (desk next : Desk) : Prop where
  sound : next.Sound
  own : View.step (desk.view event.tag) event = some (next.view event.tag)
  others : ∀ other, other ≠ event.tag → next.view other = desk.view other

theorem view_amended (pending : Pending) (clients : Tag → Option Client) (tag : Tag)
    (client : Client) : view tag ⟨pending, Function.update clients tag (some client)⟩ =
      some ⟨(pending.slots.lookup tag).isSome, pending.mailbox client.caller,
        client.passing.map Prod.snd, client.outcome, client.gone⟩ := by
  rw [view]
  dsimp only
  rw [Function.update_self]
  rfl

theorem view_of_client (found : desk.clients tag = some client) : desk.view tag =
    some ⟨(desk.pending.slots.lookup tag).isSome, desk.pending.mailbox client.caller,
      client.passing.map Prod.snd, client.outcome, client.gone⟩ := by
  rw [view, found]
  rfl

section Steps

variable (sound : desk.Sound)
include sound

theorem free_of_unknown (absent : desk.clients tag = none) :
    desk.pending.slots.lookup tag = none := by
  by_contra taken
  obtain ⟨caller, listed⟩ := Option.ne_none_iff_exists'.mp taken
  obtain ⟨client, found, _⟩ := sound.held tag caller listed
  rw [absent] at found
  cases found

theorem own_slot (found : desk.clients tag = some client) :
    ∀ caller, desk.pending.slots.lookup tag = some caller → caller = client.caller := by
  intro caller listed
  obtain ⟨held, also, named⟩ := sound.held tag caller listed
  rw [found] at also
  rw [← named, Option.some.inj also]

theorem told_apart (found : desk.clients tag = some client) :
    ∀ other held, other ≠ tag → desk.clients other = some held →
      held.caller ≠ client.caller :=
  fun other held different also equal =>
    different (sound.apart other tag held client also found equal)

theorem register_projects (absent : desk.clients tag = none)
    (stepped : desk.step (.register tag) = some next) : Projects (.register tag) desk next := by
  have free := free_of_unknown sound absent
  obtain ⟨number, slot, mail, count⟩ := Pending.registered_eq tag desk.pending
  rw [step, absent] at stepped
  dsimp only at stepped
  rw [number] at stepped
  obtain rfl := Option.some.inj stepped
  obtain ⟨sound, others⟩ := amend sound ⟨desk.pending.next, none, none, false⟩
    (Pending.register_spares free) (fun other held _ found => (sound.numbered other held found).ne)
    (fun caller listed => Option.some.inj (listed.symm.trans slot)) (by rw [mail]; rfl)
    (count ▸ Nat.lt_succ_self _) nofun
  refine ⟨sound, ?_, others⟩
  show View.step (desk.view tag) _ = some (view tag _)
  rw [view_amended, slot, Pending.mailbox, mail, view, absent]
  rfl

theorem take_projects {response : Response}
    (stepped : desk.step (.take response) = some next) :
    Projects (.take response) desk next := by
  rw [step, Pending.take] at stepped
  cases listed : desk.pending.slots.lookup response.tag with
  | none =>
      rw [listed] at stepped
      obtain rfl := Option.some.inj stepped
      refine ⟨sound, ?_, fun _ _ => rfl⟩
      show View.step (desk.view response.tag) _ = some (desk.view response.tag)
      cases found : desk.clients response.tag with
      | none =>
          rw [view, found]
          rfl
      | some client =>
          rw [view_of_client found, listed]
          rfl
  | some caller =>
      obtain ⟨client, found, rfl⟩ := sound.held response.tag caller listed
      rw [listed, found] at stepped
      obtain rfl := Option.some.inj stepped
      have apart := told_apart sound found
      have cleared : (desk.pending.slots.filter fun slot => slot.1 != response.tag).lookup
          response.tag = none :=
        (lookup_without response.tag response.tag _).trans (if_pos rfl)
      obtain ⟨amended, others⟩ := amend sound
        { client with passing := some (client.caller, response) }
        (Pending.take_spares response.tag client.caller desk.pending) apart
        (fun caller held => by cases cleared.symm.trans held) (sound.posted response.tag client found)
        (sound.numbered response.tag client found)
        (fun caller response carries => congrArg Prod.fst (Option.some.inj carries.symm))
      refine ⟨amended, ?_, others⟩
      show View.step (desk.view response.tag) _ = some (view response.tag _)
      rw [Option.map_some, view_amended, view_of_client found, listed, cleared]
      rfl

theorem arrive_projects (found : desk.clients tag = some client)
    (stepped : desk.step (.arrive tag) = some next) : Projects (.arrive tag) desk next := by
  rw [step, found] at stepped
  obtain ⟨⟨caller, response⟩, carries, rfl⟩ := Option.map_eq_some_iff.mp stepped
  obtain rfl := sound.passing tag client caller response found carries
  have apart := told_apart sound found
  have own := own_slot sound found
  have posted := sound.posted tag client found
  have delivered := Pending.lookup_deliver client.caller client.caller (.answered response)
    desk.pending
  obtain ⟨amended, others⟩ := amend sound { client with passing := none }
    (Pending.deliver_spares tag client.caller (.answered response) desk.pending) apart own
    (by rw [delivered, Option.isSome_map]; exact posted)
    (sound.numbered tag client found) nofun
  refine ⟨amended, ?_, others⟩
  show View.step (desk.view tag) _ = some (view tag _)
  rw [view_amended, view_of_client found, carries, Pending.mailbox, Pending.mailbox, delivered]
  cases gone : client.gone with
  | false =>
      rw [gone, Bool.not_false] at posted
      obtain ⟨held, has⟩ := Option.isSome_iff_exists.mp posted
      rw [has]
      simp [View.step, Pending.deliverTo]
  | true =>
      rw [gone, Bool.not_true, Option.isSome_eq_false_iff, Option.isNone_iff_eq_none] at posted
      rw [posted]
      simp [View.step, Pending.deliverTo]

theorem conclude_projects (found : desk.clients tag = some client)
    (stepped : desk.step (.conclude tag) = some next) : Projects (.conclude tag) desk next := by
  rw [step, found] at stepped
  dsimp only at stepped
  split_ifs at stepped with past
  obtain rfl := Option.some.inj stepped
  have apart := told_apart sound found
  have own := own_slot sound found
  obtain ⟨amended, others⟩ := amend sound
    { client with outcome := some (desk.pending.outcome client.caller) }
    (Pending.spares_refl tag client.caller desk.pending) apart own
    (sound.posted tag client found) (sound.numbered tag client found)
    (fun caller response carries => sound.passing tag client caller response found carries)
  refine ⟨amended, ?_, others⟩
  show View.step (desk.view tag) _ = some (view tag _)
  rw [view_amended, view_of_client found, Pending.outcome_eq]
  exact if_neg past

theorem leave_projects (found : desk.clients tag = some client)
    (stepped : desk.step (.leave tag) = some next) : Projects (.leave tag) desk next := by
  rw [step, found] at stepped
  dsimp only at stepped
  split_ifs at stepped with past
  obtain rfl := Option.some.inj stepped
  have apart := told_apart sound found
  have spares := Pending.withdraw_spares (own_slot sound found)
  obtain ⟨slot, mail, count⟩ := Pending.withdrawn_eq client.caller tag desk.pending
  obtain ⟨amended, others⟩ := amend sound { client with gone := true } spares apart
    (fun caller listed => by cases slot.symm.trans listed) (by rw [mail]; rfl)
    (count ▸ sound.numbered tag client found)
    (fun caller response carries => sound.passing tag client caller response found carries)
  refine ⟨amended, ?_, others⟩
  show View.step (desk.view tag) _ = some (view tag _)
  rw [view_amended, view_of_client found, slot, Pending.mailbox, Pending.mailbox, mail]
  exact if_neg past

/-- Every step of a desk is a step of one caller. -/
theorem step_projects {event : Event} (stepped : desk.step event = some next) :
    Projects event desk next := by
  have known : ∀ tag, (desk.clients tag = none → desk.step event = none) →
      ∃ client, desk.clients tag = some client := by
    intro tag unknown
    apply Option.ne_none_iff_exists'.mp
    intro absent
    rw [unknown absent] at stepped
    cases stepped
  cases event with
  | register tag =>
      cases found : desk.clients tag with
      | none => exact register_projects sound found stepped
      | some client =>
          rw [step, found] at stepped
          cases stepped
  | take response => exact take_projects sound stepped
  | arrive tag =>
      obtain ⟨client, found⟩ := known tag fun absent => by rw [step, absent]
      exact arrive_projects sound found stepped
  | conclude tag =>
      obtain ⟨client, found⟩ := known tag fun absent => by rw [step, absent]
      exact conclude_projects sound found stepped
  | leave tag =>
      obtain ⟨client, found⟩ := known tag fun absent => by rw [step, absent]
      exact leave_projects sound found stepped

omit sound in
/-- Where a caller can take a step, the desk can. -/
theorem step_enabled {event : Event} {seen : Option View}
    (enabled : View.step (desk.view event.tag) event = some seen) :
    ∃ next, desk.step event = some next := by
  cases event with
  | register tag =>
      cases found : desk.clients tag with
      | none => exact ⟨_, by rw [step, found]⟩
      | some client =>
          rw [Event.tag, view_of_client found] at enabled
          cases enabled
  | take response =>
      rw [step]
      cases desk.pending.take response.tag with
      | none => exact ⟨desk, rfl⟩
      | some taken => exact ⟨_, rfl⟩
  | arrive tag =>
      rw [Event.tag] at enabled
      obtain ⟨seen, found, passing⟩ := Option.bind_eq_some_iff.mp enabled
      obtain ⟨client, known, rfl⟩ := Option.map_eq_some_iff.mp found
      obtain ⟨response, carries, _⟩ := Option.map_eq_some_iff.mp passing
      obtain ⟨carried, held, _⟩ := Option.map_eq_some_iff.mp carries
      rw [step, known]
      exact ⟨_, Option.map_eq_some_iff.mpr ⟨carried, held, rfl⟩⟩
  | conclude tag =>
      rw [Event.tag] at enabled
      obtain ⟨seen, found, allowed⟩ := Option.bind_eq_some_iff.mp enabled
      obtain ⟨client, known, rfl⟩ := Option.map_eq_some_iff.mp found
      split_ifs at allowed with past
      rw [step, known]
      exact ⟨_, if_neg past⟩
  | leave tag =>
      rw [Event.tag] at enabled
      obtain ⟨seen, found, allowed⟩ := Option.bind_eq_some_iff.mp enabled
      obtain ⟨client, known, rfl⟩ := Option.map_eq_some_iff.mp found
      split_ifs at allowed with past
      rw [step, known]
      exact ⟨_, if_neg past⟩

/-- A response that comes in under a listed tag and arrives at once completes its request. -/
theorem complete_of_steps {response : Response}
    (listed : (desk.pending.slots.lookup response.tag).isSome = true) :
    (desk.pending.complete response).1 = true ∧
      ∃ next, desk.after [.take response, .arrive response.tag] = some next ∧
        next.pending = (desk.pending.complete response).2 := by
  obtain ⟨caller, held⟩ := Option.isSome_iff_exists.mp listed
  obtain ⟨client, found, rfl⟩ := sound.held response.tag caller held
  rw [Pending.complete_eq, after, List.foldlM_cons, step, Pending.take, held, found]
  simp only [Option.map_some, Option.bind_eq_bind, Option.bind_some, List.foldlM_cons, step,
    Function.update_self, List.foldlM_nil, Option.pure_def]
  exact ⟨trivial, _, rfl, rfl⟩

omit sound in
/-- A caller that stops waiting and clears its tag at once finishes. -/
theorem finish_of_steps (ran : desk.after [.conclude tag, .leave tag] = some next) :
    ∃ client, desk.clients tag = some client ∧
      (next.view tag).bind View.outcome =
        some (desk.pending.finish client.caller tag).1 ∧
      next.pending = (desk.pending.finish client.caller tag).2 := by
  rw [after, List.foldlM_cons] at ran
  obtain ⟨middle, concluded, left⟩ := Option.bind_eq_some_iff.mp ran
  rw [step] at concluded
  cases found : desk.clients tag with
  | none =>
      rw [found] at concluded
      cases concluded
  | some client =>
      rw [found] at concluded
      dsimp only at concluded
      split_ifs at concluded with past
      obtain rfl := Option.some.inj concluded
      rw [Bool.or_eq_true, not_or] at past
      simp only [List.foldlM_cons, step, Function.update_self, past.1, List.foldlM_nil] at left
      obtain rfl := Option.some.inj left
      refine ⟨client, rfl, ?_, rfl⟩
      rw [view_amended]
      rfl

end Steps

end Desk
end XorOverlay
