/-
Module: DawnShell.Proofs.RebootRequests
Layer: Proofs
Purpose: Which schedules of writes and reads lead to a reboot.  The manager compares all it has read with one
  line, so that a request is seen only by a read that finds exactly one in the FIFO.
Trusted boundary: none
Main exports: backlog, FindsOne, pending_suffix, reboot_run_iff
-/
import DawnShell.Launcher.HostReboot
import Mathlib.Data.List.Induction

namespace DawnShell.Launcher

/-! ### What is pending -/

/-- How many bytes are pending after a schedule. -/
def backlog (schedule : List FifoStep) : Nat :=
  schedule.foldl (fun pending step =>
    match step with
    | .write => pending + rebootRequest.length
    | .read => pending - (rebootBufferBytes - 1)) 0

/-- Some read of the schedule comes when exactly one request is pending. -/
def FindsOne (schedule : List FifoStep) : Prop :=
  ∃ before, before ++ [.read] <+: schedule ∧ backlog before = rebootRequest.length

section Schedules

variable {schedule : List FifoStep} {step : FifoStep} {fifo : RebootFifo}

/-- One step more is applied to what the steps before have left. -/
theorem afterSchedule_append :
    afterSchedule (schedule ++ [step]) = (afterSchedule schedule).apply step := by
  simp [afterSchedule]

/-- A look at the pipe takes what fits its buffer. -/
@[simp] theorem poll_pending : fifo.poll.pending = fifo.pending.drop (rebootBufferBytes - 1) := by
  unfold RebootFifo.poll
  dsimp only
  split <;> rfl

/-- What is pending is counted by the backlog. -/
theorem length_pending : (afterSchedule schedule).pending.length = backlog schedule := by
  induction schedule using List.reverseRecOn with
  | nil => rfl
  | append_singleton schedule step ih =>
      rw [afterSchedule_append]
      rw [backlog] at ih
      cases step with
      | write => simp [RebootFifo.apply, backlog, ih]
      | read => simp [RebootFifo.apply, backlog, ih]

/-- What is pending is the end of a number of whole requests. -/
theorem pending_suffix :
    ∃ requests, (afterSchedule schedule).pending <:+ (List.replicate requests rebootRequest).flatten := by
  induction schedule using List.reverseRecOn with
  | nil => exact ⟨0, List.suffix_refl _⟩
  | append_singleton schedule step ih =>
      obtain ⟨requests, suffix⟩ := ih
      rw [afterSchedule_append]
      cases step with
      | write =>
          refine ⟨requests + 1, ?_⟩
          obtain ⟨front, whole⟩ := suffix
          rw [List.replicate_succ', List.flatten_append, List.flatten_singleton, ← whole,
            List.append_assoc]
          exact List.suffix_append front _
      | read =>
          refine ⟨requests, ?_⟩
          rw [RebootFifo.apply, poll_pending]
          exact (List.drop_suffix _ _).trans suffix

theorem pending_eq_iff :
    (afterSchedule schedule).pending = rebootRequest ↔ backlog schedule = rebootRequest.length := by
  rw [← length_pending]
  constructor
  · exact congrArg List.length
  · intro same
    obtain ⟨requests, suffix⟩ := @pending_suffix schedule
    cases requests with
    | zero =>
        rw [List.replicate_zero, List.flatten_nil, List.suffix_nil] at suffix
        rw [suffix] at same
        exact absurd same (by decide)
    | succ requests =>
        rw [List.replicate_succ', List.flatten_append, List.flatten_singleton] at suffix
        have last := List.suffix_append (List.replicate requests rebootRequest).flatten rebootRequest
        exact (List.suffix_of_suffix_length_le suffix last (Nat.le_of_eq same)).eq_of_length same

/-! ### What is read -/

/-- No byte that would end a text early gets into the pipe. -/
theorem nul_notMem_pending : CString.nul ∉ (afterSchedule schedule).pending := by
  obtain ⟨requests, suffix⟩ := @pending_suffix schedule
  intro member
  obtain ⟨request, copy, within⟩ := List.mem_flatten.mp (suffix.subset member)
  rw [List.eq_of_mem_replicate copy] at within
  exact absurd within (by decide)

/-- The manager sees a request exactly when one is all that is pending: its buffer is larger. -/
theorem poll_reboots (plain : CString.nul ∉ fifo.pending) : fifo.poll.reboots =
    if fifo.pending = rebootRequest then fifo.reboots + 1 else fifo.reboots := by
  have read : CString.terminated (fifo.pending.take (rebootBufferBytes - 1)) =
      fifo.pending.take (rebootBufferBytes - 1) :=
    CString.terminated_of_plain fun member => plain (List.mem_of_mem_take member)
  have seen : fifo.pending.take (rebootBufferBytes - 1) = rebootRequest ↔
      fifo.pending = rebootRequest := by
    constructor
    · intro same
      have length := congrArg List.length same
      rw [List.length_take, show rebootRequest.length = 15 by decide] at length
      have short : fifo.pending.length ≤ rebootBufferBytes - 1 := by
        rw [rebootBufferBytes] at length ⊢
        omega
      rwa [List.take_of_length_le short] at same
    · intro same
      rw [same]
      decide
  have guard : (decide (0 < (fifo.pending.take (rebootBufferBytes - 1)).length) &&
      isRebootRequest (fifo.pending.take (rebootBufferBytes - 1))) =
      decide (fifo.pending = rebootRequest) := by
    by_cases one : fifo.pending = rebootRequest
    · rw [one]
      decide
    · simp [isRebootRequest, read, seen, one]
  rw [RebootFifo.poll]
  simp only [guard, decide_eq_true_eq]
  split <;> rfl

/-- A longer schedule finds a request where the shorter one does, or with its last step. -/
theorem findsOne_append :
    FindsOne (schedule ++ [step]) ↔
      FindsOne schedule ∨ step = .read ∧ backlog schedule = rebootRequest.length := by
  constructor
  · rintro ⟨before, within, one⟩
    rcases List.prefix_concat_iff.mp within with whole | earlier
    · obtain ⟨rfl, same⟩ := List.append_inj' whole rfl
      cases same
      exact .inr ⟨rfl, one⟩
    · exact .inl ⟨before, earlier, one⟩
  · rintro (⟨before, earlier, one⟩ | ⟨rfl, one⟩)
    · exact ⟨before, earlier.trans (List.prefix_append _ _), one⟩
    · exact ⟨schedule, List.prefix_refl _, one⟩

end Schedules

/-- The host is rebooted exactly by the schedules in which some read finds one request and nothing else. -/
theorem reboot_run_iff (schedule : List FifoStep) :
    0 < (afterSchedule schedule).reboots ↔ FindsOne schedule := by
  induction schedule using List.reverseRecOn with
  | nil =>
      refine iff_of_false (by decide) ?_
      rintro ⟨before, within, -⟩
      simp at within
  | append_singleton schedule step ih =>
      rw [afterSchedule_append, findsOne_append, ← ih]
      cases step with
      | write => simp [RebootFifo.apply]
      | read =>
          rw [RebootFifo.apply, poll_reboots nul_notMem_pending, ← pending_eq_iff]
          split
          next one => simp [one]
          next other => simp [other]

/-- Two requests that arrive in one read are both lost: what is read is compared with one request and
thrown away. -/
theorem two_requests_lost :
    FifoStep.write ∈ [.write, .write, .read] ∧
      (afterSchedule [.write, .write, .read]).pending = [] ∧
      (afterSchedule [.write, .write, .read]).reboots = 0 := by
  decide

end DawnShell.Launcher
