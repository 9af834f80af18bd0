/-
Module: DawnShell.Lib.Fallible
Layer: Lib
Purpose: Programs over an environment that can stop with an error.  They are `Interaction`s under
  `ExceptT`; `Achieves` is `Tracks` for them, with one postcondition for the errors and one for the
  values, so that a chain of steps is specified by its last step and by what each failure leaves behind.
Trusted boundary: none
Main exports: Interaction.Fallible, Interaction.loopSteps, Interaction.Achieves, Interaction.achieves_bind,
  Interaction.Calls, Interaction.calls_bind, Interaction.embed, Interaction.calls_embed
-/
import DawnShell.Lib.Observer

namespace Interaction

variable {Call : Type} {Answer : Call → Type} {ε α β σ : Type}

/-- A program that returns a value or stops with an error. -/
abbrev Fallible (Call : Type) (Answer : Call → Type) (ε α : Type) :=
  ExceptT ε (Interaction Call Answer) α

/-- A loop whose iterations can stop with an error. -/
def loopSteps {τ : Type} (exhausted : Fallible Call Answer ε α)
    (body : τ → Fallible Call Answer ε (Iteration τ α)) : Nat → τ → Fallible Call Answer ε α
  | 0, _ => exhausted
  | fuel + 1, entry => do
      match ← body entry with
      | .again next => loopSteps exhausted body fuel next
      | .leave value => return value

/-- A program of one call. -/
theorem tracks_answer {observe : σ → Exchange Call Answer → Option σ} {state : σ} {request : Call}
    {post : σ → Answer request → Prop}
    (holds : ∀ answer next, observe state ⟨request, answer⟩ = some next → post next answer) :
    Tracks observe state (call request) post := by
  intro answer last seen
  obtain ⟨next, moved, rest⟩ := Option.bind_eq_some_iff.mp seen
  cases rest
  exact holds answer last moved

section Achieves

variable {observe : σ → Exchange Call Answer → Option σ} {state : σ}
  {program : Fallible Call Answer ε α} {rest : α → Fallible Call Answer ε β}
  {failed : σ → ε → Prop}

/-- After every run that the observer does not rule out, the first postcondition holds of an error and
the second of a value. -/
def Achieves (observe : σ → Exchange Call Answer → Option σ) (state : σ)
    (program : Fallible Call Answer ε α) (failed : σ → ε → Prop) (post : σ → α → Prop) : Prop :=
  Tracks observe state program.run fun last result =>
    match result with
    | .ok value => post last value
    | .error error => failed last error

/-- A value achieves its postcondition if this holds of it here. -/
theorem achieves_pure {value : α} {post : σ → α → Prop} (holds : post state value) :
    Achieves observe state (pure value) failed post :=
  tracks_pure holds

/-- An exception achieves every postcondition, if the condition on failures holds. -/
theorem achieves_throw {error : ε} {post : σ → α → Prop} (holds : failed state error) :
    Achieves observe state (throw error) failed post :=
  tracks_pure holds

/-- A program that cannot fail achieves what it tracks. -/
theorem achieves_lift {program : Interaction Call Answer α} {post : σ → α → Prop}
    (holds : Tracks observe state program post) :
    Achieves observe state (ExceptT.lift program) failed post := by
  apply tracks_bind
  exact holds.mono fun last value after => tracks_pure after

/-- The rule for a sequence: the rest has to achieve the postcondition from every state in which the
first part succeeds. -/
theorem achieves_bind {post : σ → β → Prop}
    (holds : Achieves observe state program failed fun middle value =>
      Achieves observe middle (rest value) failed post) :
    Achieves observe state (program >>= rest) failed post := by
  apply tracks_bind
  apply holds.mono
  intro middle result after
  cases result with
  | ok value => exact after
  | error error => exact tracks_pure after

/-- The rule of consequence, for failures and for values. -/
theorem Achieves.mono {post weaker : σ → α → Prop} {worse : σ → ε → Prop}
    (holds : Achieves observe state program failed post)
    (errors : ∀ last error, failed last error → worse last error)
    (implies : ∀ last value, post last value → weaker last value) :
    Achieves observe state program worse weaker := by
  apply Tracks.mono holds
  intro last result after
  cases result with
  | ok value => exact implies last value after
  | error error => exact errors last error after

end Achieves

/-! ### Calls -/

/-- Every call that the program can make is allowed. -/
def Calls (allowed : Call → Prop) : Interaction Call Answer α → Prop
  | .done _ => True
  | .ask request next => allowed request ∧ ∀ answer, Calls allowed (next answer)

section Calls

variable {allowed : Call → Prop} {program : Interaction Call Answer α}
  {rest : α → Interaction Call Answer β}

theorem calls_pure (value : α) : Calls allowed (pure value : Interaction Call Answer α) := trivial

theorem calls_call {request : Call} (here : allowed request) :
    Calls allowed (call request : Interaction Call Answer (Answer request)) :=
  ⟨here, fun _ => trivial⟩

/-- A sequence makes only calls that its parts make. -/
theorem calls_bind (first : Calls allowed program) (second : ∀ value, Calls allowed (rest value)) :
    Calls allowed (program >>= rest) := by
  induction program with
  | done value => exact second value
  | ask request next ih => exact ⟨first.1, fun answer => ih answer (first.2 answer)⟩

/-- The same of a program that can fail, whose rest may not be reached. -/
theorem calls_except_bind {program : Fallible Call Answer ε α} {rest : α → Fallible Call Answer ε β}
    (first : Calls allowed program.run) (second : ∀ value, Calls allowed (rest value).run) :
    Calls allowed (program >>= rest).run := by
  apply calls_bind first
  intro result
  cases result with
  | ok value => exact second value
  | error error => exact calls_pure _

theorem calls_lift (first : Calls allowed program) :
    Calls allowed (ExceptT.lift program : Fallible Call Answer ε α).run :=
  calls_bind first fun _ => calls_pure _

/-- A handler adds its own calls to those of what it guards. -/
theorem calls_tryCatch {program : Fallible Call Answer ε α} {handler : ε → Fallible Call Answer ε α}
    (first : Calls allowed program.run) (second : ∀ error, Calls allowed (handler error).run) :
    Calls allowed (tryCatch program handler).run := by
  apply calls_bind first
  intro result
  cases result with
  | ok value => exact calls_pure _
  | error error => exact second error

end Calls

/-! ### Programs over a part of the environment -/

section Embed

variable {Part : Type} {Reply : Part → Type} {into : Part → Call}
  {back : (part : Part) → Answer (into part) → Reply part}

/-- A program that knows only some of the calls, as a program that could make them all. -/
def embed (into : Part → Call) (back : (part : Part) → Answer (into part) → Reply part) :
    Interaction Part Reply α → Interaction Call Answer α
  | .done value => .done value
  | .ask part next => .ask (into part) fun answer => (next (back part answer)).embed into back

/-- A part of a language is embedded sequence by sequence. -/
theorem embed_bind (program : Interaction Part Reply α) (rest : α → Interaction Part Reply β) :
    ((program >>= rest).embed into back : Interaction Call Answer β) =
      program.embed into back >>= fun value => (rest value).embed into back := by
  induction program with
  | done value => rfl
  | ask part next ih => exact congrArg (ask (into part)) (funext fun answer => ih (back part answer))

/-- An embedded program makes only calls of its own part. -/
theorem calls_embed {allowed : Call → Prop} (all : ∀ part, allowed (into part))
    (program : Interaction Part Reply α) : Calls allowed (program.embed into back) := by
  induction program with
  | done value => exact trivial
  | ask part next ih => exact ⟨all part, fun answer => ih (back part answer)⟩

end Embed

end Interaction
