/-
Module: DawnShell.Lib.Interaction
Layer: Lib
Purpose: Programs that call an environment whose answers they cannot control.  An `Interaction` is the
  tree of calls a program makes; `Runs` relates it to the log of one particular environment and to the
  value returned there, and `All` is the weakest precondition over every environment.  The rules below
  push `All` through `pure`, a call and a bind, so that a specification of a program is proved by
  following its text.
Trusted boundary: none
Main exports: Interaction, Interaction.call, Interaction.loop, Interaction.Runs, Interaction.respond,
  Interaction.All, Interaction.all_bind, Interaction.all_bind_of_forall, Interaction.All.mono,
  Interaction.replay, Interaction.runs_call, Interaction.Runs.of_bind, Interaction.Runs.bind,
  Interaction.runs_map, Interaction.Runs.loop_again, Interaction.Runs.loop_leave,
  Interaction.Runs.loop_invariant, Interaction.AnsweredBy, Interaction.exists_answeredBy
-/
import Mathlib.Data.List.Nodup
import Mathlib.Logic.Function.Basic

/-- A program over an environment: it returns, or it makes one call and continues with the answer. -/
inductive Interaction (Call : Type) (Answer : Call → Type) (α : Type) where
  | done (value : α)
  | ask (call : Call) (next : Answer call → Interaction Call Answer α)

namespace Interaction

/-- One call together with the answer it received. -/
structure Exchange (Call : Type) (Answer : Call → Type) where
  call : Call
  answer : Answer call

variable {Call : Type} {Answer : Call → Type} {α β : Type}

/-- Sequential composition. -/
def bind : Interaction Call Answer α → (α → Interaction Call Answer β) →
    Interaction Call Answer β
  | .done value, rest => rest value
  | .ask call next, rest => .ask call (fun answer => (next answer).bind rest)

instance : Monad (Interaction Call Answer) where
  pure := .done
  bind := bind

/-- The program that makes one call and returns its answer. -/
def call (request : Call) : Interaction Call Answer (Answer request) :=
  .ask request .done

/-- How one iteration of a loop ends. -/
inductive Iteration (σ α : Type) where
  | again (state : σ)
  | leave (value : α)

/-- A loop without a bound of its own.  It is given some number of iterations; a run that needs more
of them ends up in `exhausted`. -/
def loop {σ : Type} (exhausted : Interaction Call Answer α)
    (body : σ → Interaction Call Answer (Iteration σ α)) : Nat → σ → Interaction Call Answer α
  | 0, _ => exhausted
  | fuel + 1, state =>
      body state >>= fun
        | .again next => loop exhausted body fuel next
        | .leave value => pure value

/-- `Runs program log value`: against some environment the program exchanges exactly `log` and
returns `value`. -/
inductive Runs : Interaction Call Answer α → List (Exchange Call Answer) → α → Prop where
  | done (value : α) : Runs (.done value) [] value
  | ask (call : Call) (next : Answer call → Interaction Call Answer α) (answer : Answer call)
      {log : List (Exchange Call Answer)} {value : α} (rest : Runs (next answer) log value) :
      Runs (.ask call next) (⟨call, answer⟩ :: log) value

/-- The postcondition holds of the log and the value of every run. -/
def All : Interaction Call Answer α → (List (Exchange Call Answer) → α → Prop) → Prop
  | .done value, post => post [] value
  | .ask call next, post =>
      ∀ answer, (next answer).All (fun log value => post (⟨call, answer⟩ :: log) value)

/-- The log and the value of the program against an environment that always gives a call the same
answer. -/
def respond (environment : (call : Call) → Answer call) :
    Interaction Call Answer α → List (Exchange Call Answer) × α
  | .done value => ([], value)
  | .ask call next =>
      let rest := (next (environment call)).respond environment
      (⟨call, environment call⟩ :: rest.1, rest.2)

/-- The value of the program against the environment of a given log; `none` when the program makes
other calls than the log has. -/
def replay [DecidableEq Call] :
    Interaction Call Answer α → List (Exchange Call Answer) → Option α
  | .done value, [] => some value
  | .ask call next, ⟨made, answer⟩ :: log =>
      if same : made = call then (next (same ▸ answer)).replay log else none
  | _, _ => none

variable {program : Interaction Call Answer α} {rest : α → Interaction Call Answer β}

/-- What holds of all runs by recursion on the program holds of each run, and the other way round. -/
theorem all_iff_forall_runs {post : List (Exchange Call Answer) → α → Prop} :
    program.All post ↔ ∀ log value, Runs program log value → post log value := by
  induction program generalizing post with
  | done value =>
      constructor
      · intro holds log other run
        cases run
        exact holds
      · intro holds
        exact holds [] value (.done value)
  | ask call next ih =>
      constructor
      · intro holds log value run
        cases run with
        | ask _ _ answer tail => exact (ih answer).mp (holds answer) _ _ tail
      · intro holds answer
        exact (ih answer).mpr (fun log value run => holds _ value (.ask call next answer run))

/-- What a program does against a fixed environment is one of its runs. -/
theorem runs_respond (environment : (call : Call) → Answer call)
    (program : Interaction Call Answer α) :
    Runs program (program.respond environment).1 (program.respond environment).2 := by
  induction program with
  | done value => exact .done value
  | ask call next ih => exact .ask call next _ (ih _)

/-- A log that can be replayed is a run; on a concrete log this is decided. -/
theorem runs_of_replay [DecidableEq Call] {log : List (Exchange Call Answer)} {value : α}
    (replayed : program.replay log = some value) : Runs program log value := by
  induction program generalizing log with
  | done result =>
      cases log with
      | nil =>
          cases replayed
          exact .done _
      | cons exchange log => cases replayed
  | ask call next ih =>
      cases log with
      | nil => cases replayed
      | cons exchange log =>
          obtain ⟨made, answer⟩ := exchange
          simp only [replay] at replayed
          split at replayed
          next same =>
            subst same
            exact .ask made next answer (ih answer replayed)
          next => cases replayed

/-- A run has what all runs have. -/
theorem Runs.of_all {post : List (Exchange Call Answer) → α → Prop}
    {log : List (Exchange Call Answer)} {value : α} (run : Runs program log value)
    (holds : program.All post) : post log value :=
  all_iff_forall_runs.mp holds log value run

/-- The rule of consequence for all runs. -/
theorem All.mono {post post' : List (Exchange Call Answer) → α → Prop} (holds : program.All post)
    (weaker : ∀ log value, post log value → post' log value) : program.All post' :=
  all_iff_forall_runs.mpr fun log value run => weaker log value (run.of_all holds)

@[simp] theorem all_pure {value : α} {post : List (Exchange Call Answer) → α → Prop} :
    All (pure value : Interaction Call Answer α) post ↔ post [] value :=
  Iff.rfl

@[simp] theorem all_call {request : Call}
    {post : List (Exchange Call Answer) → Answer request → Prop} :
    All (call request) post ↔ ∀ answer, post [⟨request, answer⟩] answer :=
  Iff.rfl

/-- All runs of a sequence are those of its parts, one behind the other. -/
@[simp] theorem all_bind {post : List (Exchange Call Answer) → β → Prop} :
    All (program >>= rest) post ↔
      program.All (fun log value => (rest value).All (fun log' value' => post (log ++ log') value'))
      := by
  induction program generalizing post with
  | done value => exact Iff.rfl
  | ask call next ih => exact forall_congr' fun answer => ih answer

/-- A run of a sequence is a run of its first part and one of the rest. -/
theorem Runs.of_bind {log : List (Exchange Call Answer)} {result : β}
    (run : Runs (program >>= rest) log result) :
    ∃ first value second, Runs program first value ∧ Runs (rest value) second result ∧
      log = first ++ second := by
  have split : All (program >>= rest) fun log result => ∃ first value second,
      Runs program first value ∧ Runs (rest value) second result ∧ log = first ++ second := by
    rw [all_bind, all_iff_forall_runs]
    intro first value one
    rw [all_iff_forall_runs]
    intro second result two
    exact ⟨first, value, second, one, two, rfl⟩
  exact run.of_all split

theorem runs_call (request : Call) (answer : Answer request) :
    Runs (call request) [⟨request, answer⟩] answer :=
  .ask request .done answer (.done answer)

/-- A run of the first part and one of the rest make a run of the sequence. -/
theorem Runs.bind {first second : List (Exchange Call Answer)} {value : α} {result : β}
    (one : Runs program first value) (two : Runs (rest value) second result) :
    Runs (program >>= rest) (first ++ second) result := by
  induction one with
  | done value => exact two
  | ask call next answer tail ih => exact .ask call _ answer (ih two)

/-- A run of a single call has one exchange, with the answer as its value. -/
theorem Runs.of_call {request : Call} {log : List (Exchange Call Answer)} {answer : Answer request}
    (run : Runs (call request) log answer) : log = [⟨request, answer⟩] := by
  cases run with
  | ask _ _ _ rest =>
      cases rest
      rfl

/-- A run of a value has made no call. -/
theorem Runs.of_pure {log : List (Exchange Call Answer)} {value result : α}
    (run : Runs (pure value : Interaction Call Answer α) log result) : log = [] ∧ result = value := by
  cases run
  exact ⟨rfl, rfl⟩

instance : LawfulMonad (Interaction Call Answer) :=
  LawfulMonad.mk' _
    (by
      intro _ program
      induction program with
      | done value => rfl
      | ask request next ih => exact congrArg (ask request) (funext ih))
    (fun _ _ => rfl)
    (by
      intro _ _ _ program rest last
      induction program with
      | done value => rfl
      | ask request next ih => exact congrArg (ask request) (funext ih))

/-- A function of the result leaves the calls alone. -/
theorem runs_map {f : α → β} {log : List (Exchange Call Answer)} {result : β} :
    Runs (f <$> program) log result ↔ ∃ value, Runs program log value ∧ f value = result := by
  rw [map_eq_pure_bind]
  constructor
  · intro run
    obtain ⟨first, value, second, one, two, rfl⟩ := run.of_bind
    obtain ⟨rfl, rfl⟩ := two.of_pure
    exact ⟨value, (List.append_nil first).symm ▸ one, rfl⟩
  · rintro ⟨value, one, rfl⟩
    exact List.append_nil log ▸ one.bind (.done (f value))

/-- An iteration that goes on, and the iterations behind it. -/
theorem Runs.loop_again {σ : Type} {exhausted : Interaction Call Answer α}
    {body : σ → Interaction Call Answer (Iteration σ α)} {fuel : Nat} {state next : σ}
    {first second : List (Exchange Call Answer)} {value : α}
    (one : Runs (body state) first (.again next))
    (others : Runs (loop exhausted body fuel next) second value) :
    Runs (loop exhausted body (fuel + 1) state) (first ++ second) value :=
  one.bind others

/-- The iteration that leaves. -/
theorem Runs.loop_leave {σ : Type} {exhausted : Interaction Call Answer α}
    {body : σ → Interaction Call Answer (Iteration σ α)} {fuel : Nat} {state : σ}
    {log : List (Exchange Call Answer)} {value : α} (one : Runs (body state) log (.leave value)) :
    Runs (loop exhausted body (fuel + 1) state) log value := by
  rw [← List.append_nil log]
  exact one.bind (.done value)

/-- The rule for loops: what holds of the log and the state at first, and is kept by every iteration
that goes on, holds when an iteration leaves.  A loop that is exhausted does not return. -/
theorem Runs.loop_invariant {σ : Type} {exhausted : Interaction Call Answer α}
    {body : σ → Interaction Call Answer (Iteration σ α)} {fuel : Nat} {state : σ}
    {log : List (Exchange Call Answer)} {value : α}
    (run : Runs (loop exhausted body fuel state) log value)
    (invariant : List (Exchange Call Answer) → σ → Prop)
    (post : List (Exchange Call Answer) → α → Prop)
    (stuck : ∀ log value, ¬Runs exhausted log value) (initial : invariant [] state)
    (kept : ∀ before state, invariant before state → ∀ log next,
      Runs (body state) log (.again next) → invariant (before ++ log) next)
    (left : ∀ before state, invariant before state → ∀ log value,
      Runs (body state) log (.leave value) → post (before ++ log) value) : post log value := by
  -- The invariant speaks about everything logged since the loop was entered.
  suffices general : ∀ fuel state before log value, Runs (loop exhausted body fuel state) log value →
      invariant before state → post (before ++ log) value from
    general fuel state [] log value run initial
  intro fuel
  induction fuel with
  | zero => exact fun _ _ log value run _ => absurd run (stuck log value)
  | succ fuel ih =>
      intro state before log value run holds
      obtain ⟨first, iteration, second, one, rest, rfl⟩ := run.of_bind
      cases iteration with
      | again next =>
          rw [← List.append_assoc]
          exact ih next (before ++ first) second value rest (kept before state holds first next one)
      | leave result =>
          obtain ⟨rfl, rfl⟩ := rest.of_pure
          rw [List.append_nil]
          exact left before state holds first value one

/-! ### Environments that do not change -/

/-- An environment that always gives a call the same answer has given those of the log. -/
def AnsweredBy (environment : (call : Call) → Answer call) (log : List (Exchange Call Answer)) :
    Prop :=
  ∀ exchange ∈ log, exchange.answer = environment exchange.call

theorem answeredBy_nil {environment : (call : Call) → Answer call} :
    AnsweredBy environment ([] : List (Exchange Call Answer)) :=
  List.forall_mem_nil _

theorem answeredBy_cons {environment : (call : Call) → Answer call}
    {exchange : Exchange Call Answer} {log : List (Exchange Call Answer)} :
    AnsweredBy environment (exchange :: log) ↔
      exchange.answer = environment exchange.call ∧ AnsweredBy environment log :=
  List.forall_mem_cons

/-- Two logs in sequence are answered by an environment exactly if each of them is. -/
theorem answeredBy_append {environment : (call : Call) → Answer call}
    {first second : List (Exchange Call Answer)} :
    AnsweredBy environment (first ++ second) ↔
      AnsweredBy environment first ∧ AnsweredBy environment second :=
  List.forall_mem_append

/-- Where no call is made twice, the answers may be taken for those of an environment that does not
change, whatever changes between the calls; to the calls that are not made it answers as one pleases. -/
theorem exists_answeredBy [DecidableEq Call] (others : (call : Call) → Answer call)
    {log : List (Exchange Call Answer)} (once : (log.map Exchange.call).Nodup) :
    ∃ environment, AnsweredBy environment log ∧
      ∀ call, call ∉ log.map Exchange.call → environment call = others call := by
  induction log with
  | nil => exact ⟨others, answeredBy_nil, fun _ _ => rfl⟩
  | cons exchange log ih =>
      obtain ⟨fresh, once⟩ := List.nodup_cons.mp once
      obtain ⟨environment, answered, elsewhere⟩ := ih once
      refine ⟨Function.update environment exchange.call exchange.answer,
        answeredBy_cons.mpr ⟨?_, ?_⟩, ?_⟩
      · rw [Function.update_self]
      · intro other member
        have apart : other.call ≠ exchange.call := fun same =>
          fresh (same ▸ List.mem_map_of_mem member)
        rw [Function.update_of_ne apart, answered other member]
      · intro call outside
        rw [List.map_cons, List.mem_cons, not_or] at outside
        rw [Function.update_of_ne outside.1, elsewhere call outside.2]

/-- The log of a program against an environment is answered by this environment. -/
theorem answeredBy_respond (environment : (call : Call) → Answer call)
    (program : Interaction Call Answer α) : AnsweredBy environment (program.respond environment).1 := by
  induction program with
  | done value => exact answeredBy_nil
  | ask call next ih => exact answeredBy_cons.mpr ⟨rfl, ih _⟩

/-- A postcondition on the value alone, when the first program does not matter. -/
theorem all_bind_of_forall (post : β → Prop)
    (holds : ∀ value, (rest value).All fun _ result => post result) :
    All (program >>= rest) fun _ result => post result :=
  all_bind.mpr (all_iff_forall_runs.mpr fun _ value _ => holds value)

end Interaction
