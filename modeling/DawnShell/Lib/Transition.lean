/-
Module: DawnShell.Lib.Transition
Layer: Lib
Purpose: Runs of a labelled transition system.  A run keeps every state it leaves with the label it
  leaves it by, so that conditions on steps can be imposed along a run; the invariant rule reduces a
  property of every state reached to one step under those conditions.
Trusted boundary: none
Main exports: Transition.Run, Transition.follow, Transition.run_of_follow, Transition.Meets,
  Transition.Takes, Transition.Run.invariant, Transition.Run.meets_invariant
-/
import Mathlib.Data.List.Basic

namespace Transition

variable {State Label : Type} {Step : State → Label → State → Prop}

/-- `Run Step first trace last`: the steps of `trace`, each a state with the label it is left by, lead
from `first` to `last`. -/
inductive Run (Step : State → Label → State → Prop) (first : State) :
    List (State × Label) → State → Prop where
  | start : Run Step first [] first
  | step {trace : List (State × Label)} {state next : State} {label : Label}
      (run : Run Step first trace state) (taken : Step state label next) :
      Run Step first (trace ++ [(state, label)]) next

/-- Where a list of labels leads, behind a trace. -/
def follow (step : State → Label → Option State) :
    List Label → List (State × Label) × State → Option (List (State × Label) × State)
  | [], reached => some reached
  | label :: labels, (trace, state) =>
      (step state label).bind fun next => follow step labels (trace ++ [(state, label)], next)

/-- Labels that can be followed make a run. -/
theorem run_of_follow {step : State → Label → Option State} {first : State} {labels : List Label}
    {before reached : List (State × Label) × State}
    (run : Run (fun state label next => step state label = some next) first before.1 before.2)
    (followed : follow step labels before = some reached) :
    Run (fun state label next => step state label = some next) first reached.1 reached.2 := by
  induction labels generalizing before with
  | nil =>
      cases followed
      exact run
  | cons label labels ih =>
      obtain ⟨next, taken, rest⟩ := Option.bind_eq_some_iff.mp followed
      exact ih (run.step taken) rest

/-- Every step of the trace meets the condition. -/
def Meets (condition : State → Label → Prop) (trace : List (State × Label)) : Prop :=
  ∀ entry ∈ trace, condition entry.1 entry.2

instance {condition : State → Label → Prop} {trace : List (State × Label)}
    [∀ state label, Decidable (condition state label)] : Decidable (Meets condition trace) :=
  inferInstanceAs (Decidable (∀ entry ∈ trace, condition entry.1 entry.2))

/-- A trace with one more step meets a condition exactly if the trace and this step do. -/
theorem meets_append {condition : State → Label → Prop} {trace : List (State × Label)}
    {state : State} {label : Label} :
    Meets condition (trace ++ [(state, label)]) ↔ Meets condition trace ∧ condition state label := by
  simp [Meets, or_imp, forall_and]

/-- A trace meets every weaker condition. -/
theorem Meets.mono {condition weaker : State → Label → Prop} {trace : List (State × Label)}
    (meets : Meets condition trace)
    (implies : ∀ state label, condition state label → weaker state label) : Meets weaker trace :=
  fun entry member => implies entry.1 entry.2 (meets entry member)

/-- A step of the trace has this label, and is taken in a state with this property. -/
def Takes (label : Label) (property : State → Prop) (trace : List (State × Label)) : Prop :=
  ∃ state, (state, label) ∈ trace ∧ property state

/-- A trace takes its last step, with what holds in front of it. -/
theorem takes_last {property : State → Prop} {trace : List (State × Label)} {state : State}
    {label : Label} (holds : property state) : Takes label property (trace ++ [(state, label)]) :=
  ⟨state, List.mem_append_right _ (.head _), holds⟩

/-- A longer trace still takes the steps of a shorter one. -/
theorem Takes.append {property : State → Prop} {trace : List (State × Label)} {label : Label}
    (takes : Takes label property trace) (more : List (State × Label)) :
    Takes label property (trace ++ more) := by
  obtain ⟨state, member, holds⟩ := takes
  exact ⟨state, List.mem_append_left _ member, holds⟩

theorem meets_nil {condition : State → Label → Prop} : Meets condition [] :=
  List.forall_mem_nil _

/-- The state in which a run ends may be written in another way. -/
theorem Run.to {first last target : State} {trace : List (State × Label)}
    (run : Run Step first trace last) (same : last = target) : Run Step first trace target :=
  same ▸ run

/-- One more step of a run whose steps all meet a condition. -/
theorem step_meeting {condition : State → Label → Prop} {first state next : State}
    {trace : List (State × Label)} {label : Label}
    (run : Run Step first trace state ∧ Meets condition trace) (taken : Step state label next)
    (met : condition state label) :
    Run Step first (trace ++ [(state, label)]) next ∧ Meets condition (trace ++ [(state, label)]) :=
  ⟨run.1.step taken, meets_append.mpr ⟨run.2, met⟩⟩

/-- What holds at first and is kept by every step that meets the condition holds along every run
whose steps all do. -/
theorem Run.invariant {first last : State} {trace : List (State × Label)}
    {condition : State → Label → Prop} {invariant : State → Prop} (run : Run Step first trace last)
    (meets : Meets condition trace) (initial : invariant first)
    (kept : ∀ state label next, invariant state → condition state label → Step state label next →
      invariant next) : invariant last := by
  induction run with
  | start => exact initial
  | step run taken ih =>
      obtain ⟨before, now⟩ := meets_append.mp meets
      exact kept _ _ _ (ih before) now taken

/-- The same for the states that the run leaves, each by a step of the system. -/
theorem Run.meets_invariant {first last : State} {trace : List (State × Label)}
    {condition : State → Label → Prop} {invariant : State → Prop} (run : Run Step first trace last)
    (meets : Meets condition trace) (initial : invariant first)
    (kept : ∀ state label next, invariant state → condition state label → Step state label next →
      invariant next) :
    Meets (fun state label => invariant state ∧ ∃ next, Step state label next) trace := by
  induction run with
  | start => exact meets_nil
  | step run taken ih =>
      obtain ⟨before, now⟩ := meets_append.mp meets
      exact meets_append.mpr ⟨ih before, run.invariant before initial kept, _, taken⟩

end Transition
