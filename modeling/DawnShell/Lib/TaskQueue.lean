/-
Module: DawnShell.Lib.TaskQueue
Layer: Lib
Purpose: An executor of one thread with cancellable tasks.  A task that is cancelled in the queue is never
  run; one that is cancelled while it runs goes on, interrupted.  Where each submission cancels the one
  before it unless that is done, all tickets but the last one are cancelled, which is what `Serial` says.
Trusted boundary: the documented behaviour of a single-thread executor and of `Future.cancel(true)`
Main exports: TaskQueue.Ticket, TaskQueue.Executor, TaskQueue.Executor.tickets, TaskQueue.Executor.take,
  TaskQueue.Executor.Serial, TaskQueue.serial_submit, TaskQueue.serial_take, TaskQueue.Executor.Serial.last
-/
import Mathlib.Data.List.Basic

namespace TaskQueue

variable {α φ : Type}

/-- A task that has been submitted. -/
structure Ticket (α : Type) where
  id : Nat
  task : α
  cancelled : Bool := false
deriving DecidableEq, Repr

/-- The tasks that wait, and the task that runs with how far it has come. -/
structure Executor (α φ : Type) where
  queue : List (Ticket α) := []
  worker : Option (Ticket α × φ) := none
deriving DecidableEq, Repr

namespace Executor

/-- The tasks that are not done, in the order in which they run. -/
def tickets (executor : Executor α φ) : List (Ticket α) :=
  (executor.worker.map Prod.fst).toList ++ executor.queue

/-- `Future.isDone`: the task has been cancelled or is over. -/
def isDone (executor : Executor α φ) (id : Nat) : Bool :=
  executor.tickets.all fun ticket => ticket.id != id || ticket.cancelled

/-- The ticket after `Future.cancel(true)` of a task. -/
def cancelled (id : Nat) (ticket : Ticket α) : Ticket α :=
  if ticket.id = id then { ticket with cancelled := true } else ticket

/-- `Future.cancel(true)`. -/
def cancel (executor : Executor α φ) (id : Nat) : Executor α φ where
  queue := executor.queue.map (cancelled id)
  worker := executor.worker.map fun running => (cancelled id running.1, running.2)

/-- `ExecutorService.submit`. -/
def submit (executor : Executor α φ) (id : Nat) (task : α) : Executor α φ :=
  { executor with queue := executor.queue ++ [⟨id, task, false⟩] }

/-- The free thread takes the next task, and drops it when it has been cancelled. -/
def take (start : α → φ) (executor : Executor α φ) : Option (Executor α φ) :=
  match executor.worker, executor.queue with
  | none, ticket :: rest =>
      if ticket.cancelled then some { executor with queue := rest }
      else some ⟨rest, some (ticket, start ticket.task)⟩
  | _, _ => none

/-- The running task has come further. -/
def advance (executor : Executor α φ) (ticket : Ticket α) (phase : φ) : Executor α φ :=
  { executor with worker := some (ticket, phase) }

/-- The running task is over. -/
def release (executor : Executor α φ) : Executor α φ := { executor with worker := none }

/-- Every submission has cancelled the one before it, unless that was done: the tickets are numbered in
their order, and only the latest one is not cancelled. -/
structure Serial (executor : Executor α φ) (latest : Nat) : Prop where
  ordered : executor.tickets.Pairwise fun first second => first.id < second.id
  current : ∀ ticket ∈ executor.tickets, ticket.id ≤ latest ∧ (ticket.cancelled = false ↔ ticket.id = latest)
  pending : executor.tickets ≠ [] → ∃ ticket ∈ executor.tickets, ticket.id = latest

end Executor

section Serial

open Executor

variable {executor next : Executor α φ} {latest : Nat} {task : α} {ticket : Ticket α} {phase : φ}

/-- A ticket that is submitted stands behind all others. -/
@[simp] theorem tickets_submit : (executor.submit latest task).tickets =
    executor.tickets ++ [⟨latest, task, false⟩] := by
  simp [tickets, submit]

/-- A cancellation marks the latest ticket and moves none. -/
@[simp] theorem tickets_cancel :
    (executor.cancel latest).tickets = executor.tickets.map (cancelled latest) := by
  cases executor with
  | mk queue worker => cases worker <;> simp [tickets, cancel]

/-- The ticket of the worker stands in front of those in the queue. -/
theorem tickets_of_worker (running : executor.worker = some (ticket, phase)) :
    executor.tickets = ticket :: executor.queue := by
  simp [tickets, running]

theorem tickets_of_free (free : executor.worker = none) : executor.tickets = executor.queue := by
  simp [tickets, free]

/-- A worker that moves on within its task leaves the tickets as they are. -/
theorem tickets_advance (running : executor.worker = some (ticket, phase)) (later : φ) :
    (executor.advance ticket later).tickets = executor.tickets := by
  simp [tickets, advance, running]

/-- Whether an executor is serial depends on its tickets alone. -/
theorem Executor.Serial.of_tickets (serial : executor.Serial latest)
    (same : next.tickets = executor.tickets) : next.Serial latest where
  ordered := same ▸ serial.ordered
  current := same ▸ serial.current
  pending := same ▸ serial.pending

theorem serial_empty (latest : Nat) : ({} : Executor α φ).Serial latest where
  ordered := .nil
  current := nofun
  pending some := absurd rfl some

/-- What is in front can leave. -/
theorem Executor.Serial.tail (serial : executor.Serial latest)
    (front : executor.tickets = ticket :: next.tickets) : next.Serial latest where
  ordered := (List.pairwise_cons.mp (front ▸ serial.ordered)).2
  current other member := serial.current other (front ▸ List.mem_cons_of_mem _ member)
  pending some := by
    obtain ⟨last, member, same⟩ := serial.pending (by simp [front])
    rw [front] at member
    rcases List.mem_cons.mp member with rfl | behind
    · -- The latest task is not in front of another one.
      obtain ⟨other, rest, begins⟩ := List.exists_cons_of_ne_nil some
      have among : other ∈ next.tickets := begins ▸ List.mem_cons_self
      have later := (List.pairwise_cons.mp (front ▸ serial.ordered)).1 other among
      have bound := (serial.current other (front ▸ List.mem_cons_of_mem _ among)).1
      omega
    · exact ⟨last, behind, same⟩

/-- A worker that is done leaves a serial executor, with one ticket less. -/
theorem serial_release (serial : executor.Serial latest) (running : executor.worker = some (ticket, phase)) :
    executor.release.Serial latest := by
  have front : executor.tickets = ticket :: executor.release.tickets := tickets_of_worker running
  exact serial.tail front

/-- A worker that takes the next ticket leaves the tickets in their order. -/
theorem serial_take {start : α → φ} (serial : executor.Serial latest)
    (taken : executor.take start = some next) : next.Serial latest := by
  rw [take] at taken
  split at taken
  next ticket rest free waiting =>
    have front : executor.tickets = ticket :: rest := by rw [tickets_of_free free, waiting]
    split at taken
    · cases taken
      have behind : ({ executor with queue := rest } : Executor α φ).tickets = rest :=
        tickets_of_free free
      exact serial.tail (front.trans (congrArg _ behind.symm))
    · cases taken
      exact serial.of_tickets (by rw [front]; rfl)
  next => cases taken

/-- The latest task is done when no task is left. -/
theorem isDone_iff (serial : executor.Serial latest) :
    executor.isDone latest = true ↔ executor.tickets = [] := by
  constructor
  · intro done
    by_contra some
    obtain ⟨last, member, same⟩ := serial.pending some
    have ended := List.all_eq_true.mp done last member
    have going := (serial.current last member).2.mpr same
    simp [same, going] at ended
  · intro none
    simp [isDone, none]

/-- A submission after the latest task has been cancelled or is done. -/
theorem serial_submit (serial : executor.Serial latest) :
    ((executor.cancel latest).submit (latest + 1) task).Serial (latest + 1) where
  ordered := by
    rw [tickets_submit, tickets_cancel, List.pairwise_append]
    refine ⟨?_, List.pairwise_singleton _ _, ?_⟩
    · rw [List.pairwise_map]
      apply serial.ordered.imp
      intro first second before
      simp only [cancelled]
      split <;> split <;> exact before
    · intro first member second last
      obtain ⟨older, among, rfl⟩ := List.mem_map.mp member
      have bound := (serial.current older among).1
      rw [List.mem_singleton.mp last, cancelled]
      split <;> simp <;> omega
  current := by
    intro one member
    rw [tickets_submit, tickets_cancel] at member
    rcases List.mem_append.mp member with older | last
    · obtain ⟨before, among, rfl⟩ := List.mem_map.mp older
      obtain ⟨bound, going⟩ := serial.current before among
      rw [cancelled]
      split
      · simp
        omega
      next apart =>
        have stopped : before.cancelled = true := by
          cases cancelled : before.cancelled with
          | true => rfl
          | false => exact absurd (going.mp cancelled) apart
        simp [stopped]
        omega
    · simp [List.mem_singleton.mp last]
  pending := by
    intro _
    rw [tickets_submit]
    exact ⟨_, List.mem_append_right _ (List.mem_singleton_self _), rfl⟩

theorem cancel_of_empty {id : Nat} (none : executor.tickets = []) : executor.cancel id = executor := by
  cases executor with
  | mk queue worker =>
      cases worker with
      | some running => simp [tickets] at none
      | none =>
          have empty : queue = [] := none
          rw [cancel, empty]
          rfl

/-- The tickets after a submission that has cancelled the latest task. -/
theorem mem_submit_cancel {id : Nat} {one : Ticket α}
    (member : one ∈ ((executor.cancel id).submit latest task).tickets) :
    (∃ before ∈ executor.tickets, one.id = before.id ∧ one.task = before.task) ∨
      one = ⟨latest, task, false⟩ := by
  rw [tickets_submit, tickets_cancel] at member
  rcases List.mem_append.mp member with older | last
  · obtain ⟨before, among, rfl⟩ := List.mem_map.mp older
    refine .inl ⟨before, among, ?_⟩
    rw [cancelled]
    split <;> exact ⟨rfl, rfl⟩
  · exact .inr (List.mem_singleton.mp last)

/-- The task that runs is the first one. -/
theorem Executor.Serial.first (serial : executor.Serial latest)
    (running : executor.worker = some (ticket, phase)) :
    ∀ other ∈ executor.tickets, ticket.id ≤ other.id := by
  intro other member
  have all := tickets_of_worker running
  rw [all] at member
  rcases List.mem_cons.mp member with rfl | behind
  · exact Nat.le_refl _
  · exact Nat.le_of_lt ((List.pairwise_cons.mp (all ▸ serial.ordered)).1 other behind)

/-- The tickets that are left when a task is taken. -/
theorem mem_of_take {start : α → φ} {one : Ticket α} (taken : executor.take start = some next)
    (member : one ∈ next.tickets) : one ∈ executor.tickets := by
  rw [take] at taken
  split at taken
  next ticket rest free waiting =>
    have front : executor.tickets = ticket :: rest := by rw [tickets_of_free free, waiting]
    rw [front]
    split at taken
    · cases taken
      have left : ({ executor with queue := rest } : Executor α φ).tickets = rest :=
        tickets_of_free free
      rw [left] at member
      exact List.mem_cons_of_mem _ member
    · cases taken
      exact member
  next => cases taken

/-- The latest task waits behind all others. -/
theorem Executor.Serial.last (serial : executor.Serial latest)
    (running : executor.worker = some (ticket, phase)) : ticket.id = latest ↔ executor.queue = [] := by
  have all := tickets_of_worker running
  constructor
  · intro same
    by_contra some
    obtain ⟨other, rest, begins⟩ := List.exists_cons_of_ne_nil some
    have among : other ∈ executor.queue := begins ▸ List.mem_cons_self
    have later := (List.pairwise_cons.mp (all ▸ serial.ordered)).1 other among
    have bound := (serial.current other (all ▸ List.mem_cons_of_mem _ among)).1
    omega
  · intro none
    obtain ⟨last, member, same⟩ := serial.pending (by simp [all])
    rw [all, none, List.mem_singleton] at member
    rw [← member, same]

end Serial

end TaskQueue
