/-
Module: DawnShell.Lib.Interference
Layer: Lib
Purpose: Programs that look at a world which others change between any two of their calls.  A call is
  answered by the world as it is at that moment; before it the others take any number of steps.
  `Withstands` is the weakest precondition over every interleaving, with a postcondition on the world of
  the last call.
Trusted boundary: none
Main exports: Interaction.Interleaved, Interaction.Withstands, Interaction.withstands_bind,
  Interaction.Attains, Interaction.attains_bind, Interaction.Interleaved.calls,
  Interaction.interleaved_of_runs
-/
import DawnShell.Lib.Fallible
import Mathlib.Logic.Relation

namespace Interaction

open Relation

variable {σ Call : Type} {Answer : Call → Type} {ε α β : Type}

/-- `Interleaved rely answers state program log last value`: with steps of the others before each call,
the program exchanges `log` from `state` on, each exchange in the world it is paired with, and returns
`value`.  The world of the last call is `last`. -/
inductive Interleaved (rely : σ → σ → Prop) (answers : σ → Exchange Call Answer → Prop) :
    σ → Interaction Call Answer α → List (σ × Exchange Call Answer) → σ → α → Prop where
  | done {state : σ} (value : α) : Interleaved rely answers state (.done value) [] state value
  | ask {state here last : σ} {request : Call} {next : Answer request → Interaction Call Answer α}
      {answer : Answer request} {log : List (σ × Exchange Call Answer)} {value : α}
      (meanwhile : ReflTransGen rely state here) (answered : answers here ⟨request, answer⟩)
      (rest : Interleaved rely answers here (next answer) log last value) :
      Interleaved rely answers state (.ask request next) ((here, ⟨request, answer⟩) :: log) last value

section Rules

variable {rely : σ → σ → Prop} {answers : σ → Exchange Call Answer → Prop} {state last : σ}
  {log : List (σ × Exchange Call Answer)}

/-- An interleaved run of a sequence is cut where its first part ends. -/
theorem Interleaved.of_bind {program : Interaction Call Answer α}
    {rest : α → Interaction Call Answer β} {result : β}
    (run : Interleaved rely answers state (program >>= rest) log last result) :
    ∃ first middle value second, Interleaved rely answers state program first middle value ∧
      Interleaved rely answers middle (rest value) second last result ∧ log = first ++ second := by
  induction program generalizing state log with
  | done value => exact ⟨[], state, value, log, .done value, run, rfl⟩
  | ask request next ih =>
      cases run with
      | ask meanwhile answered after =>
          obtain ⟨first, middle, value, second, one, two, rfl⟩ := ih _ after
          exact ⟨_, middle, value, second, .ask meanwhile answered one, two, rfl⟩

/-- What happens along an interleaved run is what the others do: the program itself only asks. -/
theorem Interleaved.later {program : Interaction Call Answer α} {value : α}
    (run : Interleaved rely answers state program log last value) : ReflTransGen rely state last := by
  induction run with
  | done => exact .refl
  | ask meanwhile _ _ ih => exact meanwhile.trans ih

/-- Every call is made in a world that comes after the first. -/
theorem Interleaved.entry_later {program : Interaction Call Answer α} {value : α}
    (run : Interleaved rely answers state program log last value) :
    ∀ entry ∈ log, ReflTransGen rely state entry.1 := by
  induction run with
  | done => nofun
  | ask meanwhile _ _ ih =>
      intro entry member
      rcases List.mem_cons.mp member with rfl | after
      · exact meanwhile
      · exact meanwhile.trans (ih entry after)

/-- A run whose calls are made in worlds that follow each other, each answered by its own. -/
theorem interleaved_of_runs {program : Interaction Call Answer α}
    {entries : List (σ × Exchange Call Answer)} {value : α}
    (run : Runs program (entries.map Prod.snd) value)
    (answered : ∀ entry ∈ entries, answers entry.1 entry.2)
    (ordered : (state :: entries.map Prod.fst).IsChain (ReflTransGen rely)) :
    ∃ last, Interleaved rely answers state program entries last value := by
  induction entries generalizing state program with
  | nil =>
      cases run
      exact ⟨state, .done _⟩
  | cons entry entries ih =>
      obtain ⟨here, request, answer⟩ := entry
      obtain ⟨meanwhile, ordered⟩ := List.isChain_cons_cons.mp ordered
      cases run with
      | ask _ next _ run =>
          obtain ⟨last, rest⟩ := ih run (fun entry member => answered entry (.tail _ member)) ordered
          exact ⟨last, .ask meanwhile (answered _ (.head _)) rest⟩

/-! ### The weakest precondition -/

/-- The postcondition holds of the world of the last call and of the value, in every interleaving. -/
def Withstands (rely : σ → σ → Prop) (answers : σ → Exchange Call Answer → Prop) (state : σ)
    (program : Interaction Call Answer α) (post : σ → α → Prop) : Prop :=
  ∀ log last value, Interleaved rely answers state program log last value → post last value

variable {program : Interaction Call Answer α} {rest : α → Interaction Call Answer β}

/-- A value withstands the others if its postcondition holds here; nobody acts behind the end of the
program. -/
theorem withstands_pure {value : α} {post : σ → α → Prop} (holds : post state value) :
    Withstands rely answers state (pure value) post := by
  intro log last result run
  cases run
  exact holds

/-- A call withstands the others if the rest does, in every state that they may have brought about and
with every answer there. -/
theorem withstands_call {request : Call} {rest : Answer request → Interaction Call Answer β}
    {post : σ → β → Prop}
    (holds : ∀ here answer, ReflTransGen rely state here → answers here ⟨request, answer⟩ →
      Withstands rely answers here (rest answer) post) :
    Withstands rely answers state (call request >>= rest) post := by
  intro log last result run
  cases run with
  | ask meanwhile answered after => exact holds _ _ meanwhile answered _ _ _ after

/-- The same of a call whose answer is the value of the program. -/
theorem withstands_answer {request : Call} {post : σ → Answer request → Prop}
    (holds : ∀ here answer, ReflTransGen rely state here → answers here ⟨request, answer⟩ →
      post here answer) :
    Withstands rely answers state (call request) post := by
  intro log last result run
  cases run with
  | ask meanwhile answered after =>
      cases after
      exact holds _ _ meanwhile answered

/-- The rule for a sequence: the rest has to withstand the others in every state in which the first part
can end. -/
theorem withstands_bind {post : σ → β → Prop}
    (holds : Withstands rely answers state program fun middle value =>
      Withstands rely answers middle (rest value) post) :
    Withstands rely answers state (program >>= rest) post := by
  intro log last result run
  obtain ⟨first, middle, value, second, one, two, rfl⟩ := run.of_bind
  exact holds first middle value one second last result two

/-- The rule of consequence. -/
theorem Withstands.mono {post weaker : σ → α → Prop}
    (holds : Withstands rely answers state program post)
    (implies : ∀ last value, post last value → weaker last value) :
    Withstands rely answers state program weaker :=
  fun log last value run => implies last value (holds log last value run)

/-- Whatever the program does, its last world comes after its first. -/
theorem withstands_later :
    Withstands rely answers state program fun last _ => ReflTransGen rely state last :=
  fun _ _ _ run => run.later

/-- The postcondition holds of the world of the last call and of the value, in every interleaving in
which the program does not stop with an error. -/
def Attains (rely : σ → σ → Prop) (answers : σ → Exchange Call Answer → Prop) (state : σ)
    (program : Fallible Call Answer ε α) (post : σ → α → Prop) : Prop :=
  ∀ log last value, Interleaved rely answers state program.run log last (.ok value) → post last value

section Attains

variable {program : Fallible Call Answer ε α} {rest : α → Fallible Call Answer ε β}

theorem attains_pure {value : α} {post : σ → α → Prop} (holds : post state value) :
    Attains rely answers state (pure value : Fallible Call Answer ε α) post := by
  intro log last result run
  cases run
  exact holds

/-- An exception attains every postcondition, which speaks of success alone. -/
theorem attains_throw {error : ε} {post : σ → α → Prop} :
    Attains rely answers state (throw error : Fallible Call Answer ε α) post := by
  intro log last result run
  cases run

/-- A program that cannot fail attains what it withstands. -/
theorem attains_lift {program : Interaction Call Answer α} {post : σ → α → Prop}
    (holds : Withstands rely answers state program post) :
    Attains rely answers state (ExceptT.lift program : Fallible Call Answer ε α) post := by
  intro log last result run
  obtain ⟨first, middle, value, second, one, two, rfl⟩ := run.of_bind
  cases two
  exact holds first last result one

/-- The rule for a sequence of programs that can fail. -/
theorem attains_bind {post : σ → β → Prop}
    (holds : Attains rely answers state program fun middle value =>
      Attains rely answers middle (rest value) post) :
    Attains rely answers state (program >>= rest) post := by
  intro log last result run
  obtain ⟨first, middle, outcome, second, one, two, rfl⟩ := run.of_bind
  cases outcome with
  | ok value => exact holds first middle value one second last result two
  | error error => cases two

theorem Attains.mono {post weaker : σ → α → Prop} (holds : Attains rely answers state program post)
    (implies : ∀ last value, post last value → weaker last value) :
    Attains rely answers state program weaker :=
  fun log last value run => implies last value (holds log last value run)

/-- Where a program succeeds, only the others have changed the state. -/
theorem attains_later :
    Attains rely answers state program fun last _ => ReflTransGen rely state last :=
  fun _ _ _ run => run.later

end Attains

end Rules

/-! ### Calls -/

/-- An interleaved run makes only calls that the program makes. -/
theorem Interleaved.calls {allowed : Call → Prop} {program : Interaction Call Answer α}
    {rely : σ → σ → Prop} {answers : σ → Exchange Call Answer → Prop}
    {state last : σ} {log : List (σ × Exchange Call Answer)} {value : α}
    (run : Interleaved rely answers state program log last value) (calls : Calls allowed program) :
    ∀ entry ∈ log, allowed entry.2.call := by
  induction run with
  | done => nofun
  | ask _ _ _ ih =>
      intro entry member
      rcases List.mem_cons.mp member with rfl | after
      · exact calls.1
      · exact ih (calls.2 _) entry after

end Interaction
