/-
Module: DawnShell.Lib.Observer
Layer: Lib
Purpose: Observers of a program that calls an environment.  An observer keeps a state of its own, moves
  it with every exchange, and can say that an exchange is impossible.  `Tracks` is the weakest
  precondition over every environment that the observer does not contradict, with a postcondition on
  where the observer ends up; `Passes` says that no run is ruled out, and `Reaches` that there is one that
  is not.  The rules below push the three through a program.
Trusted boundary: none
Main exports: Interaction.observed, Interaction.Tracks, Interaction.tracks_bind, Interaction.Tracks.mono,
  Interaction.Passes, Interaction.passes_bind, Interaction.Passes.mono, Interaction.Reaches,
  Interaction.reaches_call, Interaction.reaches_bind, Interaction.alongside, Interaction.permits
-/
import DawnShell.Lib.Interaction
import Mathlib.Data.List.Basic

namespace Interaction

variable {Call : Type} {Answer : Call → Type} {α β σ : Type}

/-- Where an observer ends up after a log; `none` when it says that the log is impossible. -/
def observed (observe : σ → Exchange Call Answer → Option σ) :
    σ → List (Exchange Call Answer) → Option σ
  | state, [] => some state
  | state, exchange :: log => (observe state exchange).bind fun next => observed observe next log

/-- The postcondition holds of the observer and the value after every run that the observer does not
rule out. -/
def Tracks (observe : σ → Exchange Call Answer → Option σ) (state : σ)
    (program : Interaction Call Answer α) (post : σ → α → Prop) : Prop :=
  program.All fun log value => ∀ last, observed observe state log = some last → post last value

section Rules

variable {observe : σ → Exchange Call Answer → Option σ} {state : σ}
  {program : Interaction Call Answer α} {rest : α → Interaction Call Answer β}

/-- Two logs in sequence are observed one after the other. -/
theorem observed_append (first second : List (Exchange Call Answer)) :
    observed observe state (first ++ second) =
      (observed observe state first).bind fun middle => observed observe middle second := by
  induction first generalizing state with
  | nil => rfl
  | cons exchange first ih =>
      rw [List.cons_append, observed, observed, Option.bind_assoc]
      exact congrArg _ (funext fun next => ih)

/-- A value is tracked if its postcondition holds in the observed state. -/
theorem tracks_pure {value : α} {post : σ → α → Prop} (holds : post state value) :
    Tracks observe state (pure value) post := by
  rintro last ⟨⟩
  exact holds

/-- A call is tracked if the rest is, behind every answer that the observer admits. -/
theorem tracks_call {request : Call} {rest : Answer request → Interaction Call Answer β}
    {post : σ → β → Prop}
    (holds : ∀ answer next, observe state ⟨request, answer⟩ = some next →
      Tracks observe next (rest answer) post) :
    Tracks observe state (call request >>= rest) post := by
  rw [Tracks, all_bind, all_call]
  intro answer
  rw [all_iff_forall_runs]
  intro log value run last seen
  obtain ⟨next, moved, after⟩ := Option.bind_eq_some_iff.mp seen
  exact run.of_all (holds answer next moved) last after

/-- A call that the observer does not look at. -/
theorem tracks_quiet {request : Call} {rest : Answer request → Interaction Call Answer β}
    {post : σ → β → Prop} (quiet : ∀ answer, observe state ⟨request, answer⟩ = some state)
    (holds : ∀ answer, Tracks observe state (rest answer) post) :
    Tracks observe state (call request >>= rest) post := by
  apply tracks_call
  intro answer next moved
  rw [quiet answer] at moved
  cases moved
  exact holds answer

/-- The rule for a sequence: the rest is tracked from every observed state in which the first part can
end. -/
theorem tracks_bind {post : σ → β → Prop}
    (holds : Tracks observe state program fun middle value =>
      Tracks observe middle (rest value) post) :
    Tracks observe state (program >>= rest) post := by
  rw [Tracks, all_bind]
  refine holds.mono fun first value after => ?_
  rw [all_iff_forall_runs]
  intro second result run last seen
  rw [observed_append] at seen
  obtain ⟨middle, here, there⟩ := Option.bind_eq_some_iff.mp seen
  exact run.of_all (after middle here) last there

/-- What holds of the value whatever the environment does. -/
theorem tracks_of_all {post : α → Prop} (holds : program.All fun _ value => post value) :
    Tracks observe state program fun _ value => post value :=
  All.mono holds fun _ _ after _ _ => after

/-- The rule of consequence for what is tracked. -/
theorem Tracks.mono {post weaker : σ → α → Prop} (holds : Tracks observe state program post)
    (implies : ∀ last value, post last value → weaker last value) :
    Tracks observe state program weaker :=
  All.mono holds fun _ value after last seen => implies last value (after last seen)

/-- A run that the observer admits ends in a state in which the postcondition holds. -/
theorem Runs.of_tracks {post : σ → α → Prop} {log : List (Exchange Call Answer)} {value : α}
    {last : σ} (run : Runs program log value) (holds : Tracks observe state program post)
    (seen : observed observe state log = some last) : post last value :=
  run.of_all holds last seen

end Rules

/-- Every run passes the observer, and the postcondition holds of where it ends up. -/
def Passes (observe : σ → Exchange Call Answer → Option σ) (state : σ)
    (program : Interaction Call Answer α) (post : σ → α → Prop) : Prop :=
  program.All fun log value => ∃ last, observed observe state log = some last ∧ post last value

theorem passes_pure {value : α} {post : σ → α → Prop} (holds : post state value) :
    Passes observe state (pure value) post :=
  ⟨state, rfl, holds⟩

/-- A call passes if the observer admits every answer and the rest passes behind it. -/
theorem passes_call {request : Call} {rest : Answer request → Interaction Call Answer β}
    {post : σ → β → Prop}
    (holds : ∀ answer, ∃ next, observe state ⟨request, answer⟩ = some next ∧
      Passes observe next (rest answer) post) :
    Passes observe state (call request >>= rest) post := by
  rw [Passes, all_bind, all_call]
  intro answer
  obtain ⟨next, moved, after⟩ := holds answer
  refine All.mono after fun log value passed => ?_
  obtain ⟨last, seen, post⟩ := passed
  exact ⟨last, Option.bind_eq_some_iff.mpr ⟨next, moved, seen⟩, post⟩

/-- A call that the observer does not notice passes if the rest does. -/
theorem passes_quiet {request : Call} {rest : Answer request → Interaction Call Answer β}
    {post : σ → β → Prop} (quiet : ∀ answer, observe state ⟨request, answer⟩ = some state)
    (holds : ∀ answer, Passes observe state (rest answer) post) :
    Passes observe state (call request >>= rest) post :=
  passes_call fun answer => ⟨state, quiet answer, holds answer⟩

/-- The rule for a sequence: the rest passes from every observed state in which the first part can end.
-/
theorem passes_bind {post : σ → β → Prop}
    (holds : Passes observe state program fun middle value =>
      Passes observe middle (rest value) post) :
    Passes observe state (program >>= rest) post := by
  rw [Passes, all_bind]
  refine All.mono holds fun first value passed => ?_
  obtain ⟨middle, here, after⟩ := passed
  refine All.mono after fun second result passed => ?_
  obtain ⟨last, there, post⟩ := passed
  exact ⟨last, by rw [observed_append, here]; exact there, post⟩

/-- The rule of consequence for what passes. -/
theorem Passes.mono {post weaker : σ → α → Prop} (holds : Passes observe state program post)
    (implies : ∀ last value, post last value → weaker last value) :
    Passes observe state program weaker :=
  All.mono holds fun _ value passed => by
    obtain ⟨last, seen, post⟩ := passed
    exact ⟨last, seen, implies last value post⟩

/-- Every run of a program that passes is admitted by the observer, and its postcondition holds at the
end. -/
theorem Runs.of_passes {post : σ → α → Prop} {log : List (Exchange Call Answer)} {value : α}
    (run : Runs program log value) (holds : Passes observe state program post) :
    ∃ last, observed observe state log = some last ∧ post last value :=
  run.of_all holds

/-- Some run that the observer does not rule out takes it to a state and returns a value. -/
def Reaches (observe : σ → Exchange Call Answer → Option σ) (state : σ)
    (program : Interaction Call Answer α) (last : σ) (value : α) : Prop :=
  ∃ log, Runs program log value ∧ observed observe state log = some last

section Reaching

variable {observe : σ → Exchange Call Answer → Option σ} {state next last : σ}
  {program : Interaction Call Answer α} {rest : α → Interaction Call Answer β} {value : α} {result : β}

theorem reaches_pure : Reaches observe state (pure value : Interaction Call Answer α) state value :=
  ⟨[], .done value, rfl⟩

/-- A call that is given an answer of choice. -/
theorem reaches_call {request : Call} {rest : Answer request → Interaction Call Answer β}
    (answer : Answer request) (moved : observe state ⟨request, answer⟩ = some next)
    (after : Reaches observe next (rest answer) last result) :
    Reaches observe state (call request >>= rest) last result := by
  obtain ⟨log, run, seen⟩ := after
  exact ⟨⟨request, answer⟩ :: log, (runs_call request answer).bind run,
    Option.bind_eq_some_iff.mpr ⟨next, moved, seen⟩⟩

/-- A state is reached by a sequence through the state that its first part reaches. -/
theorem reaches_bind (first : Reaches observe state program next value)
    (after : Reaches observe next (rest value) last result) :
    Reaches observe state (program >>= rest) last result := by
  obtain ⟨before, one, here⟩ := first
  obtain ⟨behind, two, there⟩ := after
  exact ⟨before ++ behind, one.bind two, by rw [observed_append, here]; exact there⟩

end Reaching

/-- An observer that rules nothing out ends up where a fold does. -/
theorem observed_fold (fold : σ → Exchange Call Answer → σ) (state : σ)
    (log : List (Exchange Call Answer)) :
    observed (fun state exchange => some (fold state exchange)) state log =
      some (log.foldl fold state) := by
  induction log generalizing state with
  | nil => rfl
  | cons exchange log ih => exact ih (fold state exchange)

/-- An observer that also folds over the exchanges. -/
def alongside {τ : Type} (observe : σ → Exchange Call Answer → Option σ)
    (fold : τ → Exchange Call Answer → τ) (state : σ × τ) (exchange : Exchange Call Answer) :
    Option (σ × τ) :=
  (observe state.1 exchange).map fun next => (next, fold state.2 exchange)

theorem alongside_eq_some {τ : Type} {observe : σ → Exchange Call Answer → Option σ}
    {fold : τ → Exchange Call Answer → τ} {state next : σ × τ} {exchange : Exchange Call Answer}
    (moved : alongside observe fold state exchange = some next) :
    observe state.1 exchange = some next.1 ∧ next.2 = fold state.2 exchange := by
  obtain ⟨after, seen, rfl⟩ := Option.map_eq_some_iff.mp moved
  exact ⟨seen, rfl⟩

/-- What is folded alongside an observer is the fold over the log. -/
theorem observed_alongside {τ : Type} {observe : σ → Exchange Call Answer → Option σ}
    {fold : τ → Exchange Call Answer → τ} {state last : σ} {log : List (Exchange Call Answer)}
    (seen : observed observe state log = some last) (start : τ) :
    observed (alongside observe fold) (state, start) log = some (last, log.foldl fold start) := by
  induction log generalizing state start with
  | nil =>
      cases seen
      rfl
  | cons exchange log ih =>
      obtain ⟨next, here, after⟩ := Option.bind_eq_some_iff.mp seen
      have moved : alongside observe fold (state, start) exchange =
          some (next, fold start exchange) := by
        rw [alongside, here]
        rfl
      rw [observed, moved]
      exact ih after _

/-- The observer without a state that rules out the exchanges it does not permit. -/
def permits (permitted : Exchange Call Answer → Bool) (_ : Unit)
    (exchange : Exchange Call Answer) : Option Unit :=
  if permitted exchange then some () else none

theorem observed_permits {permitted : Exchange Call Answer → Bool}
    {log : List (Exchange Call Answer)} (all : ∀ exchange ∈ log, permitted exchange = true) :
    observed (permits permitted) () log = some () := by
  induction log with
  | nil => rfl
  | cons exchange log ih =>
      have here : permits permitted () exchange = some () := if_pos (all exchange (.head _))
      rw [observed, here]
      exact ih fun other member => all other (.tail _ member)

/-- An observer that only permits has let through what is permitted. -/
theorem permitted_of_permits {permitted : Exchange Call Answer → Bool}
    {exchange : Exchange Call Answer} {next : Unit}
    (moved : permits permitted () exchange = some next) : permitted exchange = true := by
  rw [permits] at moved
  split at moved
  next yes => exact yes
  next => cases moved

end Interaction
