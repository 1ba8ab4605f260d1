import XorOverlay.Message

/-!
Callers waiting for responses. Each caller waits under the tag of its request, and a response goes
to whoever waits under its tag. A second caller under one tag takes the place of the first, which
is thereby abandoned; a caller that finishes clears its tag, whoever holds it by then.
-/

set_option autoImplicit false

namespace XorOverlay

/-- A caller, numbered in the order of registration. -/
abbrev Caller := Nat

/-- What has become of a caller's request so far. -/
inductive Mailbox where
  | waiting
  | answered (response : Response)
  | abandoned
  deriving DecidableEq

/-- The callers of one transport. -/
structure Pending where
  slots : List (Tag × Caller)
  mail : List (Caller × Mailbox)
  next : Caller
  deriving DecidableEq

namespace Pending

def empty : Pending :=
  ⟨[], [], 0⟩

def mailbox (caller : Caller) (pending : Pending) : Mailbox :=
  (pending.mail.lookup caller).getD .abandoned

def deliverTo (caller : Caller) (mailbox : Mailbox) (pending : Pending) : Pending :=
  { pending with
    mail := pending.mail.map fun entry =>
      if entry.1 = caller then (caller, mailbox) else entry }

/-- Clears a tag. A caller that still waited under it is abandoned. -/
def discard (tag : Tag) (pending : Pending) : Pending :=
  let cleared := { pending with slots := pending.slots.filter fun slot => slot.1 != tag }
  match pending.slots.lookup tag with
  | some caller => cleared.deliverTo caller .abandoned
  | none => cleared

def register (tag : Tag) (pending : Pending) : Caller × Pending :=
  let freed := pending.discard tag
  (freed.next,
    { slots := (tag, freed.next) :: freed.slots
      mail := (freed.next, .waiting) :: freed.mail
      next := freed.next + 1 })

/-- Hands a response to whoever waits under its tag, and says whether anyone does. -/
def complete (response : Response) (pending : Pending) : Bool × Pending :=
  match pending.slots.lookup response.tag with
  | some caller =>
    (true,
      { pending with
        slots := pending.slots.filter fun slot => slot.1 != response.tag }.deliverTo caller
          (.answered response))
  | none => (false, pending)

/-- What a caller that stops waiting now ends with: its response, or the failure that it was
abandoned or that its time is up. -/
def outcome (caller : Caller) (pending : Pending) : Except Failure Response :=
  match pending.mailbox caller with
  | .answered response => .ok response
  | .abandoned => .error Failure.abandoned
  | .waiting => .error .timedOut

/-- Stops waiting without an outcome: clears the tag and forgets the caller. -/
def withdraw (caller : Caller) (tag : Tag) (pending : Pending) : Pending :=
  let cleared := pending.discard tag
  { cleared with mail := cleared.mail.filter fun entry => entry.1 != caller }

def finish (caller : Caller) (tag : Tag) (pending : Pending) :
    Except Failure Response × Pending :=
  (pending.outcome caller, pending.withdraw caller tag)

end Pending
end XorOverlay
