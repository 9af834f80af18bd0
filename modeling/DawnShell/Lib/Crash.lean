/-
Module: DawnShell.Lib.Crash
Layer: Lib
Purpose: Programs that can be killed between any two of their calls.  `Cut` is a run that has been
  followed up to some call, with no outcome when the program is killed there; `Endures` is the weakest
  precondition over every such run, with one postcondition for what a kill leaves behind and one for what
  a return does, and `Survives` adds a third for the errors of a fallible program.
Trusted boundary: a call takes effect as a whole, or its answer says how far it came
Main exports: Interaction.Cut, Interaction.Endures, Interaction.endures_call, Interaction.endures_bind,
  Interaction.Survives, Interaction.survives_bind, Interaction.survives_loop,
  Interaction.survives_tryCatch, Interaction.cut_of_leads, Interaction.Runs.killed
-/
import DawnShell.Lib.Fallible

namespace Interaction

variable {Call : Type} {Answer : Call → Type} {ε α β σ τ : Type}

/-- `Cut program log outcome`: the program exchanges exactly `log`; then it returns the outcome, or it is
killed and has none. -/
inductive Cut : Interaction Call Answer α → List (Exchange Call Answer) → Option α → Prop where
  | killed (program : Interaction Call Answer α) : Cut program [] none
  | done (value : α) : Cut (.done value) [] (some value)
  | ask (call : Call) (next : Answer call → Interaction Call Answer α) (answer : Answer call)
      {log : List (Exchange Call Answer)} {outcome : Option α} (rest : Cut (next answer) log outcome) :
      Cut (.ask call next) (⟨call, answer⟩ :: log) outcome

/-- Whether a log is the beginning of a run. -/
def leads [DecidableEq Call] : Interaction Call Answer α → List (Exchange Call Answer) → Bool
  | _, [] => true
  | .done _, _ :: _ => false
  | .ask call next, ⟨made, answer⟩ :: log =>
      if same : made = call then (next (same ▸ answer)).leads log else false

section Cut

variable {program : Interaction Call Answer α} {rest : α → Interaction Call Answer β}
  {log : List (Exchange Call Answer)}

/-- A run that is cut behind its end is a whole run. -/
theorem cut_some {value : α} : Cut program log (some value) ↔ Runs program log value := by
  constructor
  · intro run
    induction program generalizing log with
    | done result =>
        cases run
        exact .done _
    | ask call next ih =>
        cases run with
        | ask _ _ answer rest => exact .ask call next answer (ih answer rest)
  · intro run
    induction run with
    | done value => exact .done value
    | ask call next answer _ ih => exact .ask call next answer ih

/-- A run that is killed after some number of its calls. -/
theorem Runs.killed {value : α} (run : Runs program log value) (calls : Nat) :
    Cut program (log.take calls) none := by
  induction run generalizing calls with
  | done value =>
      rw [List.take_nil]
      exact .killed _
  | ask call next answer _ ih =>
      cases calls with
      | zero => exact .killed _
      | succ calls => exact .ask call next answer (ih calls)

/-- A log that leads somewhere in the program is one that the run can be cut behind; on a concrete log
this is decided. -/
theorem cut_of_leads [DecidableEq Call] (leads : program.leads log = true) : Cut program log none := by
  induction program generalizing log with
  | done value =>
      cases log with
      | nil => exact .killed _
      | cons exchange log => cases leads
  | ask call next ih =>
      cases log with
      | nil => exact .killed _
      | cons exchange log =>
          obtain ⟨made, answer⟩ := exchange
          rw [Interaction.leads] at leads
          split at leads
          next same =>
            subst same
            exact .ask made next answer (ih answer leads)
          next => cases leads

/-- A run of a sequence is killed in its first part, or reaches the rest. -/
theorem Cut.of_bind {outcome : Option β} (run : Cut (program >>= rest) log outcome) :
    (outcome = none ∧ Cut program log none) ∨
      ∃ first value second, Runs program first value ∧ Cut (rest value) second outcome ∧
        log = first ++ second := by
  induction program generalizing log with
  | done value => exact .inr ⟨[], value, log, .done value, run, rfl⟩
  | ask call next ih =>
      cases run with
      | killed => exact .inl ⟨rfl, .killed _⟩
      | ask _ _ answer after =>
          rcases ih answer after with ⟨none, first⟩ | ⟨first, value, second, one, two, rfl⟩
          · exact .inl ⟨none, .ask call next answer first⟩
          · exact .inr ⟨_, value, second, .ask call next answer one, two, rfl⟩

/-- However a run is cut, it has made only calls that the program makes. -/
theorem Cut.calls {allowed : Call → Prop} {outcome : Option α} (run : Cut program log outcome)
    (calls : Calls allowed program) : ∀ exchange ∈ log, allowed exchange.call := by
  induction run with
  | killed => nofun
  | done => nofun
  | ask _ _ _ _ ih =>
      intro exchange member
      rcases List.mem_cons.mp member with rfl | after
      · exact calls.1
      · exact ih (calls.2 _) exchange after

end Cut

/-! ### Programs that return -/

/-- Along every run that the observer does not rule out, the first postcondition holds where the program
is killed and the second where it returns. -/
def Endures (observe : σ → Exchange Call Answer → Option σ) (state : σ)
    (program : Interaction Call Answer α) (killed : σ → Prop) (post : σ → α → Prop) : Prop :=
  ∀ log outcome last, Cut program log outcome → observed observe state log = some last →
    match outcome with
    | none => killed last
    | some value => post last value

section Endures

variable {observe : σ → Exchange Call Answer → Option σ} {state : σ}
  {program : Interaction Call Answer α} {rest : α → Interaction Call Answer β} {killed : σ → Prop}

/-- A program can be killed before its first call. -/
theorem Endures.before {post : σ → α → Prop}
    (holds : Endures observe state program killed post) : killed state :=
  holds [] none state (.killed program) rfl

/-- A value endures if the program may be killed here and its postcondition holds. -/
theorem endures_pure {value : α} {post : σ → α → Prop} (before : killed state)
    (holds : post state value) : Endures observe state (pure value) killed post := by
  intro log outcome last run seen
  cases run <;> cases seen
  · exact before
  · exact holds

/-- A call endures if it may be killed in front of it, and the rest endures behind every answer that can
be observed. -/
theorem endures_call {request : Call} {rest : Answer request → Interaction Call Answer β}
    {post : σ → β → Prop} (before : killed state)
    (holds : ∀ answer next, observe state ⟨request, answer⟩ = some next →
      Endures observe next (rest answer) killed post) :
    Endures observe state (call request >>= rest) killed post := by
  intro log outcome last run seen
  cases run with
  | killed =>
      cases seen
      exact before
  | ask _ _ answer after =>
      obtain ⟨next, moved, there⟩ := Option.bind_eq_some_iff.mp seen
      exact holds answer next moved _ outcome last after there

/-- The rule for a sequence: the rest has to endure in every state in which the first part can end. -/
theorem endures_bind {post : σ → β → Prop}
    (holds : Endures observe state program killed fun middle value =>
      Endures observe middle (rest value) killed post) :
    Endures observe state (program >>= rest) killed post := by
  intro log outcome last run seen
  rcases run.of_bind with ⟨rfl, first⟩ | ⟨first, value, second, one, two, rfl⟩
  · exact holds log none last first seen
  · rw [observed_append] at seen
    obtain ⟨middle, here, there⟩ := Option.bind_eq_some_iff.mp seen
    exact holds first (some value) middle (cut_some.mpr one) here second outcome last two there

/-- The rule of consequence, for the states in which the program is killed and for those in which it
ends. -/
theorem Endures.mono {post weaker : σ → α → Prop} {after : σ → Prop}
    (holds : Endures observe state program killed post) (kills : ∀ last, killed last → after last)
    (implies : ∀ last value, post last value → weaker last value) :
    Endures observe state program after weaker := by
  intro log outcome last run seen
  have here := holds log outcome last run seen
  cases outcome with
  | none => exact kills last here
  | some value => exact implies last value here

end Endures

/-! ### Programs that can stop with an error -/

/-- Along every run that the observer does not rule out, the first postcondition holds where the program
is killed, the second where it stops with an error and the third where it returns. -/
def Survives (observe : σ → Exchange Call Answer → Option σ) (state : σ)
    (program : Fallible Call Answer ε α) (killed : σ → Prop) (failed : σ → ε → Prop)
    (post : σ → α → Prop) : Prop :=
  Endures observe state program.run killed fun last result =>
    match result with
    | .ok value => post last value
    | .error error => failed last error

section Survives

variable {observe : σ → Exchange Call Answer → Option σ} {state : σ}
  {program : Fallible Call Answer ε α} {rest : α → Fallible Call Answer ε β} {killed : σ → Prop}
  {failed : σ → ε → Prop}

/-- What survives may be killed before it has done anything. -/
theorem Survives.before {post : σ → α → Prop}
    (holds : Survives observe state program killed failed post) : killed state :=
  Endures.before holds

/-- A value survives if the program may be killed here and its postcondition holds. -/
theorem survives_pure {value : α} {post : σ → α → Prop} (before : killed state)
    (holds : post state value) : Survives observe state (pure value) killed failed post :=
  endures_pure before holds

/-- An exception survives if the program may be killed here and the condition on failures holds. -/
theorem survives_throw {error : ε} {post : σ → α → Prop} (before : killed state)
    (holds : failed state error) : Survives observe state (throw error) killed failed post :=
  endures_pure before holds

/-- A call survives if it may be killed in front of it, and the rest survives behind every answer that
can be observed. -/
theorem survives_call {request : Call} {rest : Answer request → Fallible Call Answer ε β}
    {post : σ → β → Prop} (before : killed state)
    (holds : ∀ answer next, observe state ⟨request, answer⟩ = some next →
      Survives observe next (rest answer) killed failed post) :
    Survives observe state (ExceptT.lift (call request) >>= rest) killed failed post :=
  endures_call before holds

/-- The rule for a sequence: behind a failure nothing more is done, so that it has to be a state in
which the program may be killed. -/
theorem survives_bind {post : σ → β → Prop} (errors : ∀ last error, failed last error → killed last)
    (holds : Survives observe state program killed failed fun middle value =>
      Survives observe middle (rest value) killed failed post) :
    Survives observe state (program >>= rest) killed failed post := by
  apply endures_bind
  apply Endures.mono holds fun _ here => here
  intro middle result after
  cases result with
  | ok value => exact after
  | error error => exact endures_pure (errors middle error after) after

/-- The rule of consequence, for kills, failures and values alike. -/
theorem Survives.mono {post weaker : σ → α → Prop} {worse : σ → ε → Prop} {after : σ → Prop}
    (holds : Survives observe state program killed failed post)
    (kills : ∀ last, killed last → after last)
    (errors : ∀ last error, failed last error → worse last error)
    (implies : ∀ last value, post last value → weaker last value) :
    Survives observe state program after worse weaker := by
  apply Endures.mono holds kills
  intro last result here
  cases result with
  | ok value => exact implies last value here
  | error error => exact errors last error here

/-- The rule for loops: an invariant that each iteration keeps when it goes on. -/
theorem survives_loop {exhausted : Fallible Call Answer ε α}
    {body : τ → Fallible Call Answer ε (Iteration τ α)} {post : σ → α → Prop} {fuel : Nat} {entry : τ}
    (invariant : σ → τ → Prop) (initial : invariant state entry)
    (errors : ∀ last error, failed last error → killed last)
    (stuck : ∀ state, killed state → Survives observe state exhausted killed failed post)
    (kept : ∀ state entry, invariant state entry →
      Survives observe state (body entry) killed failed fun next iteration =>
        match iteration with
        | .again entry => invariant next entry
        | .leave value => killed next ∧ post next value) :
    Survives observe state (loopSteps exhausted body fuel entry) killed failed post := by
  induction fuel generalizing state entry with
  | zero => exact stuck state (Survives.before (kept state entry initial))
  | succ fuel ih =>
      apply survives_bind errors
      apply Survives.mono (kept state entry initial) (fun _ here => here) fun _ _ here => here
      intro next iteration after
      cases iteration with
      | again entry => exact ih after
      | leave value => exact survives_pure after.1 after.2

/-- The rule for handlers. -/
theorem survives_tryCatch {handler : ε → Fallible Call Answer ε α} {post : σ → α → Prop}
    (returns : ∀ last value, post last value → killed last)
    (holds : Survives observe state program killed (fun middle error =>
      Survives observe middle (handler error) killed failed post) post) :
    Survives observe state (tryCatch program handler) killed failed post := by
  apply endures_bind
  apply Endures.mono holds fun _ here => here
  intro middle result after
  cases result with
  | ok value => exact endures_pure (returns middle value after) after
  | error error => exact after

end Survives

end Interaction
