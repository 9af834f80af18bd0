/-
Module: DawnShell.Lib.Ledger
Layer: Lib
Purpose: The resources that a program opens and closes by the calls it makes.  `Movement` says what one
  exchange does to them, and the ledger is an observer whose state is what is open: it rules out a call
  that closes what is not open.  A log that it passes closes everything it opened but for what is left.
Trusted boundary: none
Main exports: Interaction.Movement, Interaction.ledger, Interaction.opened, Interaction.closed,
  Interaction.OpensNothing, Interaction.opened_add_eq, Interaction.passes_close
-/
import DawnShell.Lib.Observer
import Mathlib.Algebra.Order.Group.Multiset

namespace Interaction

/-- What an exchange does to the resources of a program. -/
inductive Movement (Resource : Type) where
  | opens (resource : Resource)
  | closes (resource : Resource)
  | keeps

variable {Call : Type} {Answer : Call → Type} {α Resource : Type}

def Movement.opened : Movement Resource → Multiset Resource
  | .opens resource => {resource}
  | .closes _ | .keeps => 0

def Movement.closed : Movement Resource → Multiset Resource
  | .closes resource => {resource}
  | .opens _ | .keeps => 0

variable (moves : Exchange Call Answer → Movement Resource)

/-- Everything a log has opened. -/
def opened (log : List (Exchange Call Answer)) : Multiset Resource :=
  (log.map fun exchange => (moves exchange).opened).sum

/-- Everything a log has closed. -/
def closed (log : List (Exchange Call Answer)) : Multiset Resource :=
  (log.map fun exchange => (moves exchange).closed).sum

/-- No run of the program opens anything. -/
def OpensNothing (program : Interaction Call Answer α) : Prop :=
  program.All fun log _ => opened moves log = 0

section Opening

variable {moves} {β : Type}

theorem opensNothing_pure {value : α} : OpensNothing moves (pure value) := rfl

/-- A sequence opens nothing if its parts open nothing. -/
theorem opensNothing_bind {program : Interaction Call Answer α}
    {rest : α → Interaction Call Answer β} (first : OpensNothing moves program)
    (second : ∀ value, OpensNothing moves (rest value)) :
    OpensNothing moves (program >>= rest) := by
  refine all_bind.mpr (All.mono first fun log value none => ?_)
  refine All.mono (second value) fun more result nothing => ?_
  rw [opened] at none nothing ⊢
  rw [List.map_append, List.sum_append, none, nothing, add_zero]

theorem opensNothing_call {request : Call}
    (quiet : ∀ answer, (moves ⟨request, answer⟩).opened = 0) :
    OpensNothing moves (call request) := by
  intro answer
  change opened moves [⟨request, answer⟩] = 0
  rw [opened, List.map_singleton, List.sum_singleton, quiet answer]

end Opening

variable [DecidableEq Resource]

/-- The ledger after one more exchange; `none` when it closes what is not open. -/
def ledger (books : Multiset Resource) (exchange : Exchange Call Answer) :
    Option (Multiset Resource) :=
  match moves exchange with
  | .opens resource => some (resource ::ₘ books)
  | .closes resource => if resource ∈ books then some (books.erase resource) else none
  | .keeps => some books

variable {moves} {books left : Multiset Resource} {program : Interaction Call Answer α}

/-- The books of an exchange balance: what was there and what it opens is what is left and what it
closes. -/
theorem ledger_eq_some {exchange : Exchange Call Answer}
    (moved : ledger moves books exchange = some left) :
    books + (moves exchange).opened = left + (moves exchange).closed := by
  rw [ledger] at moved
  cases movement : moves exchange with
  | opens resource =>
      rw [movement] at moved
      cases moved
      rw [Movement.opened, Movement.closed, add_zero, add_comm, Multiset.singleton_add]
  | closes resource =>
      rw [movement] at moved
      dsimp only at moved
      split at moved
      next inside =>
        cases moved
        rw [Movement.opened, Movement.closed, add_zero, add_comm, Multiset.singleton_add,
          Multiset.cons_erase inside]
      next => cases moved
  | keeps =>
      rw [movement] at moved
      cases moved
      rfl

/-- What was open and what was opened is what is left and what was closed. -/
theorem opened_add_eq {log : List (Exchange Call Answer)}
    (seen : observed (ledger moves) books log = some left) :
    books + opened moves log = left + closed moves log := by
  induction log generalizing books with
  | nil =>
      cases seen
      rfl
  | cons exchange log ih =>
      obtain ⟨next, moved, after⟩ := Option.bind_eq_some_iff.mp seen
      have here := ledger_eq_some moved
      have rest := ih after
      rw [opened, closed] at rest ⊢
      rw [List.map_cons, List.sum_cons, List.map_cons, List.sum_cons, ← add_assoc, here,
        add_right_comm, rest, add_right_comm, add_assoc]

/-- A call that closes what is open. -/
theorem passes_close {request : Call} {rest : Answer request → Interaction Call Answer α}
    {post : Multiset Resource → α → Prop} {resource : Resource} {held : Multiset Resource}
    (closes : ∀ answer, moves ⟨request, answer⟩ = .closes resource)
    (inside : held = {resource} + books)
    (holds : ∀ answer, Passes (ledger moves) books (rest answer) post) :
    Passes (ledger moves) held (call request >>= rest) post := by
  apply passes_call
  intro answer
  refine ⟨books, ?_, holds answer⟩
  rw [ledger, closes answer, inside, Multiset.singleton_add]
  dsimp only
  rw [if_pos (Multiset.mem_cons_self resource books), Multiset.erase_cons_head]

end Interaction
