/-
Module: DawnShell.Lib.Environment
Layer: Lib
Purpose: Programs against an environment that is a machine: its state decides every answer and moves with
  every exchange, so that there is one run from each state.  `Follows` compares two runs: when the first
  succeeds, so does the second.
Trusted boundary: none
Main exports: Interaction.Environment, Interaction.execute, Interaction.Follows, Interaction.follows_bind,
  Interaction.follows_unmoved, Interaction.follows_tryCatch,
  Interaction.log, Interaction.runs_log, Interaction.observed_log
-/
import DawnShell.Lib.Fallible

namespace Interaction

variable {Call : Type} {Answer : Call → Type} {ε α β σ : Type}

/-- An environment whose state decides what it answers. -/
structure Environment (σ Call : Type) (Answer : Call → Type) where
  answer : σ → (call : Call) → Answer call
  move : σ → Exchange Call Answer → σ

/-- The answer to a call. -/
def Environment.exchange (environment : Environment σ Call Answer) (state : σ) (call : Call) :
    Exchange Call Answer :=
  ⟨call, environment.answer state call⟩

/-- The state after a call. -/
def Environment.after (environment : Environment σ Call Answer) (state : σ) (call : Call) : σ :=
  environment.move state (environment.exchange state call)

/-- Where the run from a state ends, and what it returns. -/
def execute (environment : Environment σ Call Answer) : Interaction Call Answer α → σ → σ × α
  | .done value, state => (state, value)
  | .ask call next, state =>
      (next (environment.answer state call)).execute environment (environment.after state call)

section Execute

variable {environment : Environment σ Call Answer}

/-- A sequence is executed by executing its first part and then the rest in the state behind it. -/
theorem execute_bind (program : Interaction Call Answer α) (rest : α → Interaction Call Answer β)
    (state : σ) :
    (program >>= rest).execute environment state =
      (rest (program.execute environment state).2).execute environment
        (program.execute environment state).1 := by
  induction program generalizing state with
  | done value => rfl
  | ask call next ih => exact ih _ _

/-- The exchanges of the run from a state. -/
def log (environment : Environment σ Call Answer) :
    Interaction Call Answer α → σ → List (Exchange Call Answer)
  | .done _, _ => []
  | .ask call next, state =>
      environment.exchange state call ::
        (next (environment.answer state call)).log environment (environment.after state call)

/-- What a program does in an environment is one of its runs. -/
theorem runs_log (environment : Environment σ Call Answer) (program : Interaction Call Answer α)
    (state : σ) : Runs program (program.log environment state) (program.execute environment state).2 := by
  induction program generalizing state with
  | done value => exact .done value
  | ask call next ih => exact .ask call next _ (ih _ _)

/-- An observer that finds every answer possible sees where the run goes. -/
theorem observed_log {observe : σ → Exchange Call Answer → Option σ}
    (possible : ∀ state call, observe state (environment.exchange state call) =
      some (environment.after state call))
    (program : Interaction Call Answer α) (state : σ) :
    observed observe state (program.log environment state) =
      some (program.execute environment state).1 := by
  induction program generalizing state with
  | done value => rfl
  | ask call next ih =>
      rw [log, observed, possible]
      exact ih _ _

end Execute

/-- When the first program succeeds in its environment, so does the second in its own, and the
postcondition holds of where the two end and what they return. -/
def Follows (first second : Environment σ Call Answer) (state other : σ)
    (program : Fallible Call Answer ε α) (later : Fallible Call Answer ε β)
    (post : σ → σ → α → β → Prop) : Prop :=
  ∀ value, (program.run.execute first state).2 = .ok value →
    ∃ result, (later.run.execute second other).2 = .ok result ∧
      post (program.run.execute first state).1 (later.run.execute second other).1 value result

section Follows

variable {first second : Environment σ Call Answer} {state other : σ} {α' β' : Type}
  {program : Fallible Call Answer ε α} {rest : α → Fallible Call Answer ε β}
  {later : Fallible Call Answer ε α'} {rest' : α' → Fallible Call Answer ε β'}

/-- Values follow each other if the postcondition holds of them and of the two states. -/
theorem follows_pure {value : α} {result : α'} {post : σ → σ → α → α' → Prop}
    (holds : post state other value result) :
    Follows first second state other (pure value : Fallible Call Answer ε α) (pure result) post := by
  intro _ same
  cases same
  exact ⟨result, rfl, holds⟩

/-- An error is not followed by anything. -/
theorem follows_throw {error : ε} {post : σ → σ → α → α' → Prop} :
    Follows first second state other (throw error : Fallible Call Answer ε α) later post :=
  nofun

/-- The same of a program that can fail: the rest is executed only behind a value. -/
theorem execute_except_bind (program : Fallible Call Answer ε α) (rest : α → Fallible Call Answer ε β)
    (state : σ) :
    (program >>= rest).run.execute first state =
      match (program.run.execute first state).2 with
      | .ok value => (rest value).run.execute first (program.run.execute first state).1
      | .error error => ((program.run.execute first state).1, .error error) := by
  refine (execute_bind program.run _ state).trans ?_
  cases (program.run.execute first state).2 <;> rfl

/-- The rule for sequences: the rests are compared in the states and with the values that the first
parts have come to. -/
theorem follows_bind {post : σ → σ → β → β' → Prop}
    (holds : Follows first second state other program later fun here there value result =>
      Follows first second here there (rest value) (rest' result) post) :
    Follows first second state other (program >>= rest) (later >>= rest') post := by
  intro value succeeds
  rw [execute_except_bind] at succeeds ⊢
  rw [execute_except_bind]
  cases one : (program.run.execute first state).2 with
  | error error =>
      rw [one] at succeeds
      cases succeeds
  | ok middle =>
      rw [one] at succeeds
      obtain ⟨result, two, after⟩ := holds middle one
      rw [two]
      exact after value succeeds

/-- The rule of consequence for two programs. -/
theorem Follows.mono {post weaker : σ → σ → α → α' → Prop}
    (holds : Follows first second state other program later post)
    (implies : ∀ here there value result, post here there value result →
      weaker here there value result) :
    Follows first second state other program later weaker := by
  intro value succeeds
  obtain ⟨result, also, after⟩ := holds value succeeds
  exact ⟨result, also, implies _ _ _ _ after⟩

/-- A program whose calls are answered alike everywhere and move nothing. -/
theorem follows_unmoved {allowed : Call → Prop} {post : σ → σ → α → α → Prop}
    (calls : Calls allowed program.run)
    (alike : ∀ call, allowed call → ∀ state other, first.answer state call = second.answer other call)
    (unmoved : ∀ call, allowed call → ∀ state,
      first.after state call = state ∧ second.after state call = state)
    (holds : ∀ value, post state other value value) :
    Follows first second state other program program post := by
  have general : ∀ program : Interaction Call Answer (Except ε α), Calls allowed program →
      ∃ value, program.execute first state = (state, value) ∧
        program.execute second other = (other, value) := by
    intro program calls
    induction program with
    | done value => exact ⟨value, rfl, rfl⟩
    | ask call next ih =>
        obtain ⟨here, there⟩ := unmoved call calls.1 state
        rw [execute, execute, here, (unmoved call calls.1 other).2, ← alike call calls.1 state other]
        exact ih _ (calls.2 _)
  obtain ⟨result, here, there⟩ := general program.run calls
  intro value succeeds
  rw [here] at succeeds ⊢
  rw [there]
  exact ⟨value, succeeds, holds value⟩

/-- Handlers that do not succeed. -/
theorem follows_tryCatch {handler : ε → Fallible Call Answer ε α}
    {handler' : ε → Fallible Call Answer ε α'} {post : σ → σ → α → α' → Prop}
    (holds : Follows first second state other program later post)
    (fails : ∀ error state value, ((handler error).run.execute first state).2 ≠ .ok value) :
    Follows first second state other (tryCatch program handler) (tryCatch later handler') post := by
  have unfolded : ∀ {γ : Type} (environment : Environment σ Call Answer)
      (program : Fallible Call Answer ε γ) (handler : ε → Fallible Call Answer ε γ) (state : σ),
      (tryCatch program handler).run.execute environment state =
        match (program.run.execute environment state).2 with
        | .ok value => ((program.run.execute environment state).1, .ok value)
        | .error error =>
            (handler error).run.execute environment (program.run.execute environment state).1 := by
    intro γ environment program handler state
    refine (execute_bind program.run _ state).trans ?_
    cases (program.run.execute environment state).2 <;> rfl
  intro value succeeds
  rw [unfolded] at succeeds ⊢
  rw [unfolded]
  cases one : (program.run.execute first state).2 with
  | error error =>
      rw [one] at succeeds
      exact absurd succeeds (fails error _ value)
  | ok middle =>
      rw [one] at succeeds
      cases succeeds
      obtain ⟨result, two, after⟩ := holds _ one
      rw [two]
      exact ⟨result, rfl, after⟩

end Follows

end Interaction
