import Mathlib
import XorOverlay.Proofs.Exchange.Desk
import XorOverlay.Proofs.Runs

/-!
A lobby: callers in small steps as at a desk, but a tag may be given out again while an earlier
caller has not left. Whoever gets a tag, and whoever clears one, unseats the caller that is listed
under it, whoever that is. So a caller of a lobby sees the steps of a desk, and beside them that it is
unseated by another.
-/

namespace XorOverlay

set_option autoImplicit false

/-- A step in a lobby. Callers are numbered as they come. -/
inductive Lobby.Event where
  /-- A caller gets a tag to wait under. -/
  | register (caller : Caller) (tag : Tag)
  /-- A response comes in, and is taken for the caller that is listed under its tag, if any is. -/
  | take (response : Response)
  /-- The response taken for a caller arrives: it is put into its mailbox. -/
  | arrive (caller : Caller)
  /-- A caller stops waiting. -/
  | conclude (caller : Caller)
  /-- A caller clears its tag, for it has stopped waiting or could not send. -/
  | leave (caller : Caller) (tag : Tag)
  deriving DecidableEq

/-- A caller as the lobby knows it. -/
structure Seat where
  tag : Tag
  /-- A response on its way to the caller. -/
  passing : Option Response
  /-- What the caller stopped waiting with. -/
  outcome : Option (Except Failure Response)
  gone : Bool

/-- Callers by their numbers, and those of them that wait. -/
structure Lobby where
  pending : Pending
  seats : Caller → Option Seat

namespace Lobby

def empty : Lobby :=
  ⟨Pending.empty, fun _ => none⟩

/-- One step, where it can be taken. A caller stops waiting once, and not after it has cleared its
tag; it clears its tag once. -/
def step (lobby : Lobby) : Event → Option Lobby
  | .register caller tag =>
    if caller = lobby.pending.next then
      some ⟨(lobby.pending.register tag).2,
        Function.update lobby.seats caller (some ⟨tag, none, none, false⟩)⟩
    else none
  | .take response =>
    match lobby.pending.take response.tag with
    | none => some lobby
    | some (caller, pending) =>
      some ⟨pending, Function.update lobby.seats caller
        ((lobby.seats caller).map fun seat => { seat with passing := some response })⟩
  | .arrive caller =>
    (lobby.seats caller).bind fun seat => seat.passing.map fun response =>
      ⟨lobby.pending.deliverTo caller (.answered response),
        Function.update lobby.seats caller (some { seat with passing := none })⟩
  | .conclude caller =>
    (lobby.seats caller).bind fun seat =>
      if seat.gone || seat.outcome.isSome then none
      else
        some ⟨lobby.pending, Function.update lobby.seats caller
          (some { seat with outcome := some (lobby.pending.outcome caller) })⟩
  | .leave caller tag =>
    (lobby.seats caller).bind fun seat =>
      if seat.gone ∨ seat.tag ≠ tag then none
      else
        some ⟨lobby.pending.withdraw caller tag,
          Function.update lobby.seats caller (some { seat with gone := true })⟩

/-- The lobby after some steps, if each could be taken. -/
def after (history : List Event) (lobby : Lobby) : Option Lobby :=
  history.foldlM step lobby

/-- What a caller sees of the lobby, if it has the tag. -/
def view (tag : Tag) (caller : Caller) (lobby : Lobby) : Option View :=
  (lobby.seats caller).bind fun seat =>
    if seat.tag = tag then
      some ⟨decide (lobby.pending.slots.lookup tag = some caller), lobby.pending.mailbox caller,
        seat.passing, seat.outcome, seat.gone⟩
    else none

/-- What a caller has stopped waiting with. -/
def outcome (caller : Caller) (lobby : Lobby) : Option (Except Failure Response) :=
  (lobby.seats caller).bind Seat.outcome

namespace Event

/-- A step as the caller's own at a desk, if it is. -/
def own (tag : Tag) (caller : Caller) : Event → Option Desk.Event
  | .register other under => if other = caller ∧ under = tag then some (.register tag) else none
  | .take response => if response.tag = tag then some (.take response) else none
  | .arrive other => if other = caller then some (.arrive tag) else none
  | .conclude other => if other = caller then some (.conclude tag) else none
  | .leave other under => if other = caller ∧ under = tag then some (.leave tag) else none

/-- Another caller gets or clears the tag. -/
def unseats (tag : Tag) (caller : Caller) : Event → Bool
  | .register other under => other ≠ caller ∧ under = tag
  | .leave other under => other ≠ caller ∧ under = tag
  | _ => false

end Event
end Lobby

/-- A caller that another takes its place from, or clears it, is abandoned if it was listed. -/
def View.unseated (view : View) : View :=
  if view.listed then { view with listed := false, mailbox := .abandoned } else view

/-- One step of the lobby as a caller sees it. -/
def View.observe (tag : Tag) (caller : Caller) (event : Lobby.Event) (view : View) :
    Option (Option View) :=
  match event.own tag caller with
  | some own => View.step (some view) own
  | none => some (some (if event.unseats tag caller then view.unseated else view))

namespace Pending

/-- Clearing a tag abandons the caller listed under it, and no other. -/
theorem mail_discard (tag : Tag) (caller : Caller) (pending : Pending) :
    (pending.discard tag).mail.lookup caller = (pending.mail.lookup caller).map fun held =>
      if pending.slots.lookup tag = some caller then .abandoned else held := by
  by_cases listed : pending.slots.lookup tag = some caller
  · rw [discard, listed]
    dsimp only
    rw [lookup_deliver]
    simp
  · rw [lookup_discard listed]
    simp [listed]

theorem slots_withdraw (caller : Caller) (tag other : Tag) (pending : Pending) :
    (pending.withdraw caller tag).slots.lookup other =
      if other = tag then none else pending.slots.lookup other := by
  rw [withdraw, slots_discard, lookup_without]

theorem mail_withdraw (caller other : Caller) (tag : Tag) (pending : Pending) :
    (pending.withdraw caller tag).mail.lookup other =
      if other = caller then none else (pending.discard tag).mail.lookup other := by
  rw [withdraw, lookup_without]

theorem slots_register (tag other : Tag) (pending : Pending) :
    (pending.register tag).2.slots.lookup other =
      if other = tag then some pending.next else pending.slots.lookup other := by
  rw [register, next_discard, slots_discard, List.lookup_cons]
  by_cases same : other = tag
  · simp [same]
  · rw [beq_false_of_ne same, if_neg same]
    exact lookup_cleared tag other pending.slots same

theorem mail_register (tag : Tag) (other : Caller) (pending : Pending) :
    (pending.register tag).2.mail.lookup other =
      if other = pending.next then some .waiting else (pending.discard tag).mail.lookup other := by
  rw [register, next_discard, List.lookup_cons]
  by_cases same : other = pending.next
  · simp [same]
  · rw [beq_false_of_ne same, if_neg same]

theorem mailbox_discard (tag : Tag) (caller : Caller) (pending : Pending) :
    (pending.discard tag).mailbox caller =
      if pending.slots.lookup tag = some caller then .abandoned else pending.mailbox caller := by
  rw [mailbox, mailbox, mail_discard]
  cases pending.mail.lookup caller with
  | none => simp
  | some held => rfl

theorem mailbox_withdraw (caller other : Caller) (tag : Tag) (pending : Pending) :
    (pending.withdraw caller tag).mailbox other =
      if other = caller then .abandoned else (pending.discard tag).mailbox other := by
  rw [mailbox, mail_withdraw, mailbox]
  split_ifs <;> rfl

theorem mailbox_register (tag : Tag) (other : Caller) (pending : Pending) :
    (pending.register tag).2.mailbox other =
      if other = pending.next then .waiting else (pending.discard tag).mailbox other := by
  rw [mailbox, mail_register, mailbox]
  split_ifs <;> rfl

theorem mailbox_deliver (caller other : Caller) (mailbox : Mailbox) (pending : Pending) :
    (pending.deliverTo caller mailbox).mailbox other =
      if other = caller ∧ (pending.mail.lookup other).isSome then mailbox
      else pending.mailbox other := by
  rw [Pending.mailbox, Pending.mailbox, lookup_deliver]
  cases pending.mail.lookup other with
  | none => simp
  | some held => simp

end Pending

namespace Lobby

/-- The caller listed under a tag has that tag; callers have a mailbox until they are gone; they are
numbered below the number of the next. -/
structure Sound (lobby : Lobby) : Prop where
  held : ∀ tag caller, lobby.pending.slots.lookup tag = some caller →
    ∃ seat, lobby.seats caller = some seat ∧ seat.tag = tag
  posted : ∀ caller seat, lobby.seats caller = some seat →
    (lobby.pending.mail.lookup caller).isSome = !seat.gone
  numbered : ∀ caller seat, lobby.seats caller = some seat → caller < lobby.pending.next

theorem empty_sound : empty.Sound := by
  refine ⟨?_, ?_, ?_⟩
  · intro tag caller listed
    cases listed
  · intro caller seat known
    cases known
  · intro caller seat known
    cases known

variable {lobby next : Lobby} {tag : Tag} {caller : Caller} {seat : Seat} {seen : View}
  {event : Event}

theorem view_iff : lobby.view tag caller = some seen ↔
    ∃ seat, lobby.seats caller = some seat ∧ seat.tag = tag ∧
      (⟨decide (lobby.pending.slots.lookup tag = some caller), lobby.pending.mailbox caller,
        seat.passing, seat.outcome, seat.gone⟩ : View) = seen := by
  rw [view, Option.bind_eq_some_iff]
  refine exists_congr fun seat => and_congr_right fun _ => ?_
  by_cases own : seat.tag = tag
  · rw [if_pos own, Option.some_inj, and_iff_right own]
  · rw [if_neg own]
    exact iff_of_false nofun fun both => own both.1

/-- A lobby stays sound when one caller changes: whoever is then listed was listed before or is that
caller, and no mailbox of another is set up or taken away. -/
theorem amend_sound (sound : lobby.Sound) {pending : Pending} (seat : Seat)
    (kept : ∀ held, lobby.seats caller = some held → held.tag = seat.tag)
    (slots : ∀ tag other, pending.slots.lookup tag = some other →
      other = caller ∧ seat.tag = tag ∨ lobby.pending.slots.lookup tag = some other)
    (mail : ∀ other, other ≠ caller →
      (pending.mail.lookup other).isSome = (lobby.pending.mail.lookup other).isSome)
    (posted : (pending.mail.lookup caller).isSome = !seat.gone)
    (numbered : caller < pending.next) (count : lobby.pending.next ≤ pending.next) :
    Sound ⟨pending, Function.update lobby.seats caller (some seat)⟩ := by
  have lookups : ∀ other held, Function.update lobby.seats caller (some seat) other = some held →
      other = caller ∧ held = seat ∨ other ≠ caller ∧ lobby.seats other = some held := by
    intro other held found
    by_cases same : other = caller
    · rw [same, Function.update_self] at found
      exact Or.inl ⟨same, (Option.some.inj found).symm⟩
    · rw [Function.update_of_ne same] at found
      exact Or.inr ⟨same, found⟩
  refine ⟨?_, ?_, ?_⟩
  · intro tag other listed
    rcases slots tag other listed with ⟨rfl, own⟩ | before
    · exact ⟨seat, Function.update_self .., own⟩
    · obtain ⟨held, known, own⟩ := sound.held tag other before
      by_cases same : other = caller
      · subst same
        exact ⟨seat, Function.update_self .., (kept held known).symm.trans own⟩
      · exact ⟨held, (Function.update_of_ne same ..).trans known, own⟩
  · intro other held found
    rcases lookups other held found with ⟨rfl, rfl⟩ | ⟨apart, known⟩
    · exact posted
    · exact (mail other apart).trans (sound.posted other held known)
  · intro other held found
    rcases lookups other held found with ⟨rfl, rfl⟩ | ⟨apart, known⟩
    · exact numbered
    · exact (sound.numbered other held known).trans_le count

/-- Every step leaves a lobby sound. -/
theorem step_sound (sound : lobby.Sound) (stepped : lobby.step event = some next) :
    next.Sound := by
  have alike : ∀ caller held seat, lobby.seats caller = some seat → lobby.seats caller = some held →
      held = seat :=
    fun caller held seat known also => Option.some.inj (also.symm.trans known)
  cases event with
  | register caller tag =>
      rw [step] at stepped
      split_ifs at stepped with first
      obtain rfl := Option.some.inj stepped
      have count := (Pending.registered_eq tag lobby.pending).2.2.2
      refine amend_sound sound _ ?_ ?_ ?_ ?_ (by rw [count, first]; exact Nat.lt_succ_self _)
        (by rw [count]; exact Nat.le_succ _)
      · intro held known
        exact absurd first (sound.numbered caller held known).ne
      · intro under other listed
        rw [Pending.slots_register] at listed
        split_ifs at listed with same
        · exact Or.inl ⟨first.symm ▸ (Option.some.inj listed).symm, same.symm⟩
        · exact Or.inr listed
      · intro other apart
        rw [Pending.mail_register, if_neg (first ▸ apart), Pending.mail_discard, Option.isSome_map]
      · rw [Pending.mail_register, if_pos first]
        rfl
  | take response =>
      rw [step] at stepped
      cases taken : lobby.pending.take response.tag with
      | none =>
          rw [taken] at stepped
          obtain rfl := Option.some.inj stepped
          exact sound
      | some pair =>
          obtain ⟨caller, listed, rfl⟩ := Option.map_eq_some_iff.mp taken
          obtain ⟨seat, known, own⟩ := sound.held response.tag caller listed
          rw [taken] at stepped
          dsimp only at stepped
          rw [known] at stepped
          obtain rfl := Option.some.inj stepped
          refine amend_sound sound _ (fun held also => alike caller held seat known also ▸ rfl) ?_
            (fun _ _ => rfl) (sound.posted caller seat known) (sound.numbered caller seat known) le_rfl
          intro under other found
          rw [lookup_without] at found
          split_ifs at found
          exact Or.inr found
  | arrive caller =>
      obtain ⟨seat, known, passed⟩ := Option.bind_eq_some_iff.mp stepped
      obtain ⟨response, _, rfl⟩ := Option.map_eq_some_iff.mp passed
      have mail : ∀ other, ((lobby.pending.deliverTo caller (.answered response)).mail.lookup
          other).isSome = (lobby.pending.mail.lookup other).isSome := by
        intro other
        rw [Pending.lookup_deliver, Option.isSome_map]
      exact amend_sound sound _ (fun held also => alike caller held seat known also ▸ rfl)
        (fun _ _ found => Or.inr found) (fun other _ => mail other)
        ((mail caller).trans (sound.posted caller seat known)) (sound.numbered caller seat known)
        le_rfl
  | conclude caller =>
      obtain ⟨seat, known, ended⟩ := Option.bind_eq_some_iff.mp stepped
      split_ifs at ended
      obtain rfl := Option.some.inj ended
      exact amend_sound sound _ (fun held also => alike caller held seat known also ▸ rfl)
        (fun _ _ found => Or.inr found) (fun _ _ => rfl) (sound.posted caller seat known)
        (sound.numbered caller seat known) le_rfl
  | leave caller tag =>
      obtain ⟨seat, known, left⟩ := Option.bind_eq_some_iff.mp stepped
      split_ifs at left
      obtain rfl := Option.some.inj left
      have count := (Pending.withdrawn_eq caller tag lobby.pending).2.2
      refine amend_sound sound _ (fun held also => alike caller held seat known also ▸ rfl) ?_ ?_ ?_
        (count ▸ sound.numbered caller seat known) count.ge
      · intro under other found
        rw [Pending.slots_withdraw] at found
        split_ifs at found
        exact Or.inr found
      · intro other apart
        rw [Pending.mail_withdraw, if_neg apart, Pending.mail_discard, Option.isSome_map]
      · rw [Pending.mail_withdraw, if_pos rfl]
        rfl

section Steps

variable {pending : Pending} {other : Caller} {under : Tag} {held : Option Seat}

/-- What a caller sees of a lobby in which another has changed. -/
theorem view_other (looks : lobby.view tag caller = some seen) (apart : caller ≠ other) :
    view tag caller ⟨pending, Function.update lobby.seats other held⟩ =
      some { seen with
        listed := decide (pending.slots.lookup tag = some caller)
        mailbox := pending.mailbox caller } := by
  obtain ⟨seat, known, own, rfl⟩ := view_iff.mp looks
  exact view_iff.mpr ⟨seat, (Function.update_of_ne apart ..).trans known, own, rfl⟩

/-- What a caller sees of a lobby in which it has changed itself. -/
theorem view_self {passing : Option Response} {outcome : Option (Except Failure Response)}
    {gone : Bool} (own : seat.tag = tag) :
    view tag caller ⟨pending, Function.update lobby.seats caller
        (some ⟨seat.tag, passing, outcome, gone⟩)⟩ =
      some ⟨decide (pending.slots.lookup tag = some caller), pending.mailbox caller, passing,
        outcome, gone⟩ :=
  view_iff.mpr ⟨_, Function.update_self .., own, rfl⟩

/-- Another that does not touch the list, nor the caller's mailbox, is not noticed. -/
theorem view_spared (looks : lobby.view tag caller = some seen) (apart : caller ≠ other)
    (slots : pending.slots.lookup tag = some caller ↔
      lobby.pending.slots.lookup tag = some caller)
    (mailbox : pending.mailbox caller = lobby.pending.mailbox caller) :
    view tag caller ⟨pending, Function.update lobby.seats other held⟩ = some seen := by
  rw [view_other looks apart, mailbox]
  obtain ⟨seat, known, own, rfl⟩ := view_iff.mp looks
  simp only [slots]

/-- Another that gets or clears a tag unseats the caller if it is the caller's tag, and is not noticed
otherwise. -/
theorem view_cleared (under : Tag) (sound : lobby.Sound)
    (looks : lobby.view tag caller = some seen) (apart : caller ≠ other)
    (slots : pending.slots.lookup tag = some caller ↔
      under ≠ tag ∧ lobby.pending.slots.lookup tag = some caller)
    (mailbox : pending.mailbox caller = (lobby.pending.discard under).mailbox caller) :
    view tag caller ⟨pending, Function.update lobby.seats other held⟩ =
      some (if under = tag then seen.unseated else seen) := by
  rw [Pending.mailbox_discard] at mailbox
  by_cases same : under = tag
  · rw [if_pos same, view_other looks apart, mailbox, same]
    obtain ⟨seat, known, own, rfl⟩ := view_iff.mp looks
    by_cases listed : lobby.pending.slots.lookup tag = some caller
    · simp [View.unseated, listed, slots, same]
    · simp [View.unseated, listed, slots]
  · rw [if_neg same]
    refine view_spared looks apart (slots.trans (and_iff_right same)) (mailbox.trans (if_neg ?_))
    intro elsewhere
    obtain ⟨_, known, own, _⟩ := view_iff.mp looks
    obtain ⟨seat, also, named⟩ := sound.held under caller elsewhere
    obtain rfl := Option.some.inj (also.symm.trans known)
    exact same (named.symm.trans own)

variable (sound : lobby.Sound) (looks : lobby.view tag caller = some seen)
include sound looks

theorem register_observed (stepped : lobby.step (.register other under) = some next) :
    View.observe tag caller (.register other under) seen = some (next.view tag caller) := by
  rw [step] at stepped
  split_ifs at stepped with last
  obtain rfl := Option.some.inj stepped
  obtain ⟨seat, known, own, _⟩ := view_iff.mp looks
  have apart : caller ≠ other := last ▸ (sound.numbered caller seat known).ne
  rw [view_cleared under sound looks apart]
  · simp [View.observe, Event.own, Event.unseats, Ne.symm apart]
  · rw [Pending.slots_register]
    by_cases same : tag = under
    · simp [same, last ▸ Ne.symm apart]
    · simp [same, Ne.symm same]
  · rw [Pending.mailbox_register, if_neg (last ▸ apart)]

theorem leave_observed (stepped : lobby.step (.leave other under) = some next) :
    View.observe tag caller (.leave other under) seen = some (next.view tag caller) := by
  obtain ⟨seat, known, left⟩ := Option.bind_eq_some_iff.mp stepped
  split_ifs at left with stays
  obtain rfl := Option.some.inj left
  rw [not_or, not_not, Bool.not_eq_true] at stays
  by_cases mine : other = caller
  · subst mine
    obtain ⟨also, again, own, rfl⟩ := view_iff.mp looks
    obtain rfl := Option.some.inj (known.symm.trans again)
    obtain rfl : under = tag := stays.2.symm.trans own
    rw [view_self own, Pending.slots_withdraw, if_pos rfl, Pending.mailbox_withdraw, if_pos rfl]
    simp [View.observe, Event.own, View.step, stays.1]
  · rw [view_cleared under sound looks (Ne.symm mine)]
    · simp [View.observe, Event.own, Event.unseats, mine]
    · rw [Pending.slots_withdraw]
      by_cases same : tag = under
      · simp [same]
      · simp [same, Ne.symm same]
    · rw [Pending.mailbox_withdraw, if_neg (Ne.symm mine)]

theorem take_observed {response : Response}
    (stepped : lobby.step (.take response) = some next) :
    View.observe tag caller (.take response) seen = some (next.view tag caller) := by
  obtain ⟨seat, known, own, here⟩ := view_iff.mp looks
  rw [step, Pending.take] at stepped
  have unlisted : lobby.pending.slots.lookup tag ≠ some caller → seen.listed = false := by
    intro elsewhere
    rw [← here]
    exact decide_eq_false elsewhere
  -- A response that is not taken for the caller changes nothing for it.
  have ignored : (response.tag = tag → lobby.pending.slots.lookup tag ≠ some caller) →
      View.observe tag caller (.take response) seen = some (some seen) := by
    intro elsewhere
    rw [View.observe, Event.own]
    by_cases same : response.tag = tag
    · simp [same, View.step, unlisted (elsewhere same)]
    · simp [same, Event.unseats]
  cases listed : lobby.pending.slots.lookup response.tag with
  | none =>
      rw [listed] at stepped
      obtain rfl := Option.some.inj stepped
      rw [looks, ignored]
      rintro rfl
      rw [listed]
      exact (Option.some_ne_none caller).symm
  | some other =>
      obtain ⟨holder, held, named⟩ := sound.held response.tag other listed
      rw [listed, Option.map_some] at stepped
      dsimp only at stepped
      rw [held] at stepped
      obtain rfl := Option.some.inj stepped
      by_cases mine : other = caller
      · subst mine
        obtain rfl := Option.some.inj (known.symm.trans held)
        obtain rfl : response.tag = tag := named.symm.trans own
        rw [Option.map_some, view_self own, ← here, lookup_without, if_pos rfl, View.observe,
          Event.own, if_pos rfl]
        simp [View.step, listed, Pending.mailbox]
      · rw [ignored, view_spared looks (Ne.symm mine)]
        · rw [lookup_without]
          by_cases same : tag = response.tag
          · simp [same, listed, mine]
          · rw [if_neg same]
        · rfl
        · rintro rfl
          rw [listed]
          exact fun same => mine (Option.some.inj same)

theorem arrive_observed (stepped : lobby.step (.arrive other) = some next) :
    View.observe tag caller (.arrive other) seen = some (next.view tag caller) := by
  obtain ⟨holder, held, passed⟩ := Option.bind_eq_some_iff.mp stepped
  obtain ⟨response, passing, rfl⟩ := Option.map_eq_some_iff.mp passed
  by_cases mine : other = caller
  · subst mine
    obtain ⟨seat, known, own, rfl⟩ := view_iff.mp looks
    obtain rfl := Option.some.inj (known.symm.trans held)
    have filled : (lobby.pending.deliverTo other (.answered response)).mailbox other =
        if seat.gone then lobby.pending.mailbox other else .answered response := by
      rw [Pending.mailbox_deliver, sound.posted other seat known]
      cases seat.gone with
      | false => simp
      | true => simp
    rw [view_self own, filled, View.observe, Event.own, if_pos rfl]
    dsimp only
    rw [View.step, Option.bind_some, passing]
    rfl
  · have mailbox : (lobby.pending.deliverTo other (.answered response)).mailbox caller =
        lobby.pending.mailbox caller := by
      rw [Pending.mailbox_deliver, if_neg fun both => mine both.1.symm]
    have slots : (lobby.pending.deliverTo other (.answered response)).slots.lookup tag =
        some caller ↔ lobby.pending.slots.lookup tag = some caller :=
      Iff.rfl
    rw [view_spared looks (Ne.symm mine) slots mailbox, View.observe, Event.own, if_neg mine]
    rfl

omit sound in
theorem conclude_observed (stepped : lobby.step (.conclude other) = some next) :
    View.observe tag caller (.conclude other) seen = some (next.view tag caller) := by
  obtain ⟨holder, held, ended⟩ := Option.bind_eq_some_iff.mp stepped
  split_ifs at ended with past
  obtain rfl := Option.some.inj ended
  by_cases mine : other = caller
  · subst mine
    obtain ⟨seat, known, own, rfl⟩ := view_iff.mp looks
    obtain rfl := Option.some.inj (known.symm.trans held)
    rw [view_self own, Pending.outcome_eq, View.observe, Event.own, if_pos rfl]
    exact if_neg past
  · rw [view_spared looks (Ne.symm mine) Iff.rfl rfl, View.observe, Event.own, if_neg mine]
    rfl

/-- Every step of a lobby is seen by a caller as a step of its own, or as being unseated, or not at
all. -/
theorem step_observed (stepped : lobby.step event = some next) :
    View.observe tag caller event seen = some (next.view tag caller) := by
  cases event with
  | register other under => exact register_observed sound looks stepped
  | take response => exact take_observed sound looks stepped
  | arrive other => exact arrive_observed sound looks stepped
  | conclude other => exact conclude_observed looks stepped
  | leave other under => exact leave_observed sound looks stepped

omit looks in
/-- A response that comes in under a listed tag and arrives at once completes its request. -/
theorem complete_of_steps {response : Response}
    (listed : lobby.pending.slots.lookup response.tag = some caller) :
    (lobby.pending.complete response).1 = true ∧
      ∃ next, lobby.after [.take response, .arrive caller] = some next ∧
        next.pending = (lobby.pending.complete response).2 := by
  obtain ⟨seat, known, _⟩ := sound.held response.tag caller listed
  rw [Pending.complete_eq, after, List.foldlM_cons, step, Pending.take, listed, Option.map_some]
  simp only [known, Option.map_some, Option.bind_eq_bind, Option.bind_some, List.foldlM_cons,
    step, Function.update_self, List.foldlM_nil, Option.pure_def]
  exact ⟨trivial, _, rfl, rfl⟩

omit sound looks in
/-- A caller that stops waiting and clears its tag at once finishes. -/
theorem finish_of_steps (ran : lobby.after [.conclude caller, .leave caller tag] = some next) :
    next.outcome caller = some (lobby.pending.finish caller tag).1 ∧
      next.pending = (lobby.pending.finish caller tag).2 := by
  obtain ⟨middle, concluded, left⟩ := Option.bind_eq_some_iff.mp ran
  obtain ⟨seat, known, ended⟩ := Option.bind_eq_some_iff.mp concluded
  split_ifs at ended with past
  obtain rfl := Option.some.inj ended
  obtain ⟨last, gone, done⟩ := Option.bind_eq_some_iff.mp left
  obtain rfl := Option.some.inj done
  obtain ⟨again, same, withdrawn⟩ := Option.bind_eq_some_iff.mp gone
  split_ifs at withdrawn with stays
  obtain rfl := Option.some.inj withdrawn
  dsimp only at same
  rw [Function.update_self] at same
  obtain rfl := Option.some.inj same
  refine ⟨?_, rfl⟩
  rw [outcome]
  dsimp only
  rw [Function.update_self]
  rfl

end Steps

/-- Steps of a lobby that are taken at once are those of callers that have their transport to
themselves. -/
structure Composed (lobby : Lobby) : Prop where
  completes : ∀ response caller, lobby.pending.slots.lookup response.tag = some caller →
    (lobby.pending.complete response).1 = true ∧
      ∃ next, lobby.after [.take response, .arrive caller] = some next ∧
        next.pending = (lobby.pending.complete response).2
  ignores : ∀ response, lobby.pending.slots.lookup response.tag = none →
    lobby.step (.take response) = some lobby ∧
      lobby.pending.complete response = (false, lobby.pending)
  finishes : ∀ caller tag next, lobby.after [.conclude caller, .leave caller tag] = some next →
    next.outcome caller = some (lobby.pending.finish caller tag).1 ∧
      next.pending = (lobby.pending.finish caller tag).2

theorem composed (sound : lobby.Sound) : Composed lobby where
  completes := fun _ _ listed => complete_of_steps sound listed
  ignores := by
    intro response free
    rw [step, Pending.complete_eq, Pending.take, free]
    exact ⟨rfl, rfl⟩
  finishes := fun _ _ _ ran => finish_of_steps ran

theorem after_append (first second : List Event) (lobby : Lobby) :
    lobby.after (first ++ second) = (lobby.after first).bind fun later => later.after second :=
  List.foldlM_append

theorem after_concat (history : List Event) (event : Event) (lobby : Lobby) :
    lobby.after (history ++ [event]) =
      (lobby.after history).bind fun later => later.step event :=
  run_concat step history event lobby

theorem after_sound {history : List Event} (sound : lobby.Sound)
    (ran : lobby.after history = some next) : next.Sound := by
  refine run_induction ran sound ?_
  intro history before event later _ stepped held
  exact step_sound held stepped

/-- A caller that comes is listed and waits. -/
theorem registered_view (stepped : lobby.step (.register caller tag) = some next) :
    next.view tag caller = some ⟨true, .waiting, none, none, false⟩ := by
  rw [step] at stepped
  split_ifs at stepped with last
  obtain rfl := Option.some.inj stepped
  refine view_iff.mpr ⟨_, Function.update_self .., rfl, ?_⟩
  rw [Pending.slots_register, if_pos rfl, Pending.mailbox_register, if_pos last, last]
  simp

end Lobby
end XorOverlay
