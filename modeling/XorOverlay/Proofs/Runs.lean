import Mathlib

/-!
Runs of steps that cannot always be taken. A run ends where its steps lead one after another, if each of
them can be taken where it comes.
-/

namespace XorOverlay

set_option autoImplicit false

variable {State Event : Type} {step : State → Event → Option State} {start later : State}

theorem run_append (step : State → Event → Option State) (first second : List Event)
    (start : State) :
    (first ++ second).foldlM step start =
      (first.foldlM step start).bind fun middle => second.foldlM step middle :=
  List.foldlM_append

theorem run_concat (step : State → Event → Option State) (history : List Event) (event : Event)
    (start : State) :
    (history ++ [event]).foldlM step start =
      (history.foldlM step start).bind fun before => step before event := by
  rw [run_append]
  refine congrArg (Option.bind _) (funext fun before => ?_)
  rw [List.foldlM_cons]
  cases step before event with
  | none => rfl
  | some next => rfl

/-- What holds before a run and is kept by each step of it holds after the run. -/
@[elab_as_elim]
theorem run_induction {holds : List Event → State → Prop} {history : List Event}
    (ran : history.foldlM step start = some later) (first : holds [] start)
    (kept : ∀ history before event next, history.foldlM step start = some before →
      step before event = some next → holds history before → holds (history ++ [event]) next) :
    holds history later := by
  induction history using List.reverseRecOn generalizing later with
  | nil => exact Option.some.inj ran ▸ first
  | append_singleton history event ih =>
      rw [run_concat] at ran
      obtain ⟨before, past, stepped⟩ := Option.bind_eq_some_iff.mp ran
      exact kept history before event later past stepped (ih past)

/-- What comes before an event, when one more event has happened. -/
theorem takeWhile_ne_concat [DecidableEq Event] (last : Event) (history : List Event)
    (event : Event) :
    (history ++ [event]).takeWhile (fun past => past ≠ last) =
      if last ∈ history then history.takeWhile fun past => past ≠ last
      else if event = last then history else history ++ [event] := by
  induction history with
  | nil =>
      by_cases ends : event = last
      · simp [ends]
      · simp [ends]
  | cons first rest ih =>
      by_cases ends : first = last
      · simp [ends]
      · have goes : ∀ more : List Event, (first :: more).takeWhile (fun past => past ≠ last) =
            first :: more.takeWhile fun past => past ≠ last :=
          fun more => List.takeWhile_cons_of_pos (decide_eq_true ends)
        rw [List.cons_append, goes, goes, ih]
        simp only [List.mem_cons, Ne.symm ends, false_or]
        split_ifs <;> rfl

end XorOverlay
