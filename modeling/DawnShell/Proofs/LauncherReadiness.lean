/-
Module: DawnShell.Proofs.LauncherReadiness
Layer: Proofs
Purpose: When the verdict of a start agrees with what becomes of its supervisor.  Nothing tells a
  supervisor that its start has given up, so a start that runs into its deadline while the supervisor is
  still on its way reports a failure that a running Debian may yet refute.  As long as the deadline does
  not pass before the supervisor has failed or its line has been read, the two agree in every
  interleaving.
Trusted boundary: none
Main exports: VerdictAgrees, InTime, WithinBudget, inTime_of_withinBudget, start_verdict_agrees,
  late_supervisor_runs
-/
import DawnShell.Launcher.Readiness

namespace DawnShell.Launcher.Readiness

open Transition

variable {launch next : Launch} {label : Label}

/-- After a start has returned a failure its supervisor is not in the state `running` with Debian
alive. -/
def VerdictAgrees (launch : Launch) : Prop :=
  ∀ code, launch.reader = .returned code → code ≠ 0 →
    ¬(launch.phase.reachedRunning = true ∧ launch.debian = true)

/-- The supervisor has neither failed nor finished. -/
def Phase.mayRun : Phase → Bool
  | .finish | .killChild _ | .writeFailed _ | .report _ | .ended _ => false
  | _ => true

/-- The deadline at which the next step of the start would end its wait. -/
def Launch.deadline (launch : Launch) : Option Nat :=
  match launch.reader with
  | .test deadline => some deadline
  | .poll deadline true => if launch.readable then none else some deadline
  | _ => none

/-- The start does not find its deadline passed while the supervisor may still come to run, and its
`poll` and `read` do not fail. -/
def InTime (launch : Launch) (label : Label) : Prop :=
  (label = .reader → launch.phase.mayRun = true → ∀ deadline ∈ launch.deadline,
    launch.now < deadline) ∧ label ≠ .pollFails ∧ label ≠ .readFails

/-! ### The invariant -/

/-- The supervisor has written its line. -/
def Phase.spoken : Phase → Bool
  | .closeReady | .loop _ => true
  | _ => false

/-- What a start has read or may read agrees with where the supervisor is. -/
structure Sound (launch : Launch) : Prop where
  refused : ∀ code, launch.reader = .returned code → code ≠ 0 → launch.phase.mayRun = false
  accepted : launch.reader = .returned 0 → launch.content.isSome = true
  failed : ∀ stage, launch.content = some (.startFailed stage) → launch.phase.mayRun = false
  speaks : launch.phase.mayRun = true → launch.content.isSome = launch.phase.spoken
  intact : launch.phase ≠ .brokenPipe

/-- At the fork the start has read nothing and the supervisor has written nothing. -/
theorem sound_initial : Sound Launch.initial where
  refused _ returned := by cases returned
  accepted returned := by cases returned
  failed _ content := by cases content
  speaks _ := rfl
  intact := nofun

/-- A supervisor that has written the state `running` has neither failed nor finished. -/
theorem mayRun_of_reachedRunning {phase : Phase} (reached : phase.reachedRunning = true) :
    phase.mayRun = true := by
  cases phase <;> first | rfl | cases reached

/-- Where the invariant holds a failure is returned only when the supervisor has stopped, and then it is
not running. -/
theorem Sound.verdictAgrees (sound : Sound launch) : VerdictAgrees launch := by
  rintro code returned failure ⟨reached, -⟩
  have stopped := sound.refused code returned failure
  rw [mayRun_of_reachedRunning reached] at stopped
  cases stopped

/-- A supervisor that has failed or finished does not come back, and none of these steps writes a
line. -/
theorem Phase.Moves.speaks {phase later : Phase} (moves : Phase.Moves launch phase later)
    (mayRun : later.mayRun = true) :
    phase.mayRun = true ∧ later.spoken = phase.spoken ∧ later ≠ .brokenPipe := by
  cases moves with
  | ticksFail => split <;> exact ⟨rfl, rfl, nofun⟩
  | prepared | helpersStarted | baseReady | networkReady | networkInterrupted | modeWritten | piped
  | grouped | ticksRead | childWritten | executed | execInterrupted | graceGoesOn | graceOver
  | graceWaits | graceProbed | captures | runningWritten | closes | stops => exact ⟨rfl, rfl, nofun⟩
  | prepareFails | namespacesFail | networkFails | networkTimesOut | pipeFails | forkFails | execFails
  | execTimesOut | graceReaps | graceFails | graceProbeFails | captureFails | reaps | finishes
  | failedWritten => cases mayRun

/-- The supervisor goes on and writes no line: the reader and the pipe are as before, and what they
promise is still to come. -/
theorem Sound.moved (sound : Sound launch) (reader : next.reader = launch.reader)
    (content : next.content = launch.content)
    (silent : next.phase.mayRun = true → launch.phase.mayRun = true ∧
      next.phase.spoken = launch.phase.spoken ∧ next.phase ≠ .brokenPipe) : Sound next := by
  have stays : launch.phase.mayRun = false → next.phase.mayRun = false := by
    intro stopped
    rw [Bool.eq_false_iff]
    intro mayRun
    rw [(silent mayRun).1] at stopped
    cases stopped
  refine ⟨?_, ?_, ?_, ?_, ?_⟩
  · intro code returned failure
    exact stays (sound.refused code (reader ▸ returned) failure)
  · intro returned
    rw [content]
    exact sound.accepted (reader ▸ returned)
  · intro stage failed
    exact stays (sound.failed stage (content ▸ failed))
  · intro mayRun
    obtain ⟨before, same, -⟩ := silent mayRun
    rw [content, same]
    exact sound.speaks before
  · intro broken
    exact (silent (by rw [broken]; rfl)).2.2 broken

/-- While the supervisor is about to announce itself the start is waiting. -/
theorem Sound.announced (sound : Sound launch) (phase : launch.phase = .announce) :
    ¬launch.readerGone := by
  rintro ⟨code, returned⟩
  by_cases success : code = 0
  · subst success
    have silent := sound.speaks (by rw [phase]; rfl)
    rw [sound.accepted returned, phase] at silent
    cases silent
  · have stopped := sound.refused code returned success
    rw [phase] at stopped
    cases stopped

/-- A start that waits in vain has a supervisor that has failed. -/
theorem stopped_of_late {deadline : Nat} (inTime : InTime launch .reader)
    (ends : deadline ∈ launch.deadline) (late : deadline ≤ launch.now) :
    launch.phase.mayRun = false := by
  rw [Bool.eq_false_iff]
  intro mayRun
  have early := inTime.1 rfl mayRun deadline ends
  omega

/-- A pipe that is closed without a line belongs to a supervisor that has stopped. -/
theorem Sound.stopped_of_closed (sound : Sound launch) (content : launch.content = none)
    (closed : launch.phase.closedPipe = true) : launch.phase.mayRun = false := by
  rw [Bool.eq_false_iff]
  intro mayRun
  have silent := sound.speaks mayRun
  have intact := sound.intact
  rw [content] at silent
  cases phase : launch.phase <;> simp_all [Phase.closedPipe, Phase.mayRun, Phase.spoken]

/-- What a start returns is what its supervisor has come to, provided that the reader's step was in
time. -/
theorem Sound.of_reader (sound : Sound launch) (inTime : InTime launch .reader) {later : Reader}
    (moves : Reader.Moves launch launch.reader later) : Sound { launch with reader := later } := by
  have refusing (stopped : launch.phase.mayRun = false) :
      Sound { launch with reader := .returned 91 } :=
    ⟨fun _ _ _ => stopped, nofun, sound.failed, sound.speaks, sound.intact⟩
  have waiting (waits : ∀ code, later ≠ .returned code) : Sound { launch with reader := later } :=
    ⟨fun code returned => absurd returned (waits code), fun returned => absurd returned (waits 0),
      sound.failed, sound.speaks, sound.intact⟩
  generalize reader : launch.reader = before at moves
  cases moves with
  | enters | goesOn | polls | polled | pollInterrupted | readInterrupted =>
      exact waiting fun _ => nofun
  | givesUp late => exact refusing (stopped_of_late inTime (by simp [Launch.deadline, reader]) late)
  | timesOut late quiet =>
      exact refusing (stopped_of_late inTime (by simp [Launch.deadline, reader, quiet]) late)
  | readsEnd content closed => exact refusing (sound.stopped_of_closed content closed)
  | @reads deadline message content =>
      refine ⟨?_, fun _ => by rw [content]; rfl, sound.failed, sound.speaks, sound.intact⟩
      intro code returned failure
      cases message with
      | started | fallbackStarted =>
          cases returned
          contradiction
      | startFailed stage => exact sound.failed stage content

/-- The line of a supervisor that is running. -/
theorem readyMessage_ne_startFailed (mode : LaunchMode) (stage : FailureStage) :
    readyMessage mode ≠ .startFailed stage := by
  cases mode <;> nofun

/-- Every step that is in time keeps what the start has read in agreement with where the supervisor is.
-/
theorem Sound.kept (sound : Sound launch) (inTime : InTime launch label)
    (step : Step launch label next) : Sound next := by
  cases step with
  | pass | shutdownKills | debianEnds =>
      exact ⟨sound.refused, sound.accepted, sound.failed, sound.speaks, sound.intact⟩
  | reader moves => exact sound.of_reader inTime moves
  | pollFails => exact absurd rfl inTime.2.1
  | readFails => exact absurd rfl inTime.2.2
  | supervisor moves => exact sound.moved rfl rfl moves.speaks
  | negotiated mode phase =>
      refine sound.moved rfl rfl fun _ => ?_
      rw [phase]
      exact ⟨rfl, rfl, nofun⟩
  | forks phase =>
      refine sound.moved rfl rfl fun _ => ?_
      rw [phase]
      dsimp only
      split <;> exact ⟨rfl, rfl, nofun⟩
  | kills => exact sound.moved rfl rfl nofun
  | announces phase there =>
      refine ⟨?_, fun _ => rfl, ?_, fun _ => rfl, nofun⟩
      · exact fun code returned => absurd ⟨code, returned⟩ there
      · intro stage content
        exact absurd (Option.some.inj content) (readyMessage_ne_startFailed _ _)
  | announceBreaks phase gone | announceLost phase gone => exact absurd gone (sound.announced phase)
  | reports phase there => exact ⟨fun _ _ _ => rfl, fun _ => rfl, fun _ _ => rfl, nofun, nofun⟩
  | reportLost phase gone => exact ⟨fun _ _ _ => rfl, sound.accepted, fun _ _ => rfl, nofun, nofun⟩

/-! ### Every interleaving -/

/-- In every run in which the deadline does not pass before the supervisor has failed or its line has
been read, a start that returns a failure has no running Debian behind it, then or later. -/
theorem start_verdict_agrees {trace : List (Launch × Label)} {last : Launch}
    (run : Run Step Launch.initial trace last) (inTime : Meets InTime trace) :
    VerdictAgrees last :=
  (run.invariant inTime sound_initial fun _ _ _ sound inTime step =>
    sound.kept inTime step).verdictAgrees

/-- The deadline of a start that is waiting lies `kStartTimeoutMs` behind the fork or later. -/
def Reader.Patient : Reader → Prop
  | .test deadline | .wait deadline | .poll deadline _ | .read deadline => startTimeoutMs ≤ deadline
  | .enter | .returned _ => True

/-- A start computes its deadline once, and no move of its loop shortens it. -/
theorem Reader.Moves.patient {reader later : Reader} (moves : Reader.Moves launch reader later)
    (patient : reader.Patient) : later.Patient := by
  cases moves with
  | enters => exact Nat.le_add_left _ _
  | goesOn | polls | polled | pollInterrupted | readInterrupted => exact patient
  | givesUp | timesOut | reads | readsEnd => trivial

/-- No step of another party moves the deadline of a start. -/
theorem patient_kept (patient : launch.reader.Patient) (step : Step launch label next) :
    next.reader.Patient := by
  cases step with
  | reader moves => exact moves.patient patient
  | pollFails | readFails => trivial
  | pass | supervisor | negotiated | forks | kills | shutdownKills | announces | announceBreaks
  | announceLost | reports | reportLost | debianEnds => exact patient

/-- The start has not returned. -/
def Reader.waits : Reader → Bool
  | .returned _ => false
  | _ => true

/-- While the start waits, less than `kStartTimeoutMs` have passed since the fork unless the supervisor
has failed or finished. -/
def WithinBudget (launch : Launch) (label : Label) : Prop :=
  (launch.reader.waits = true → launch.phase.mayRun = true → launch.now < startTimeoutMs) ∧
    label ≠ .pollFails ∧ label ≠ .readFails

instance : Decidable (WithinBudget launch label) := inferInstanceAs (Decidable (_ ∧ _))

/-- A start with a deadline before it has not returned, and the deadline is no earlier than
`kStartTimeoutMs` behind the fork. -/
theorem deadline_patient {deadline : Nat} (patient : launch.reader.Patient)
    (ends : deadline ∈ launch.deadline) :
    launch.reader.waits = true ∧ startTimeoutMs ≤ deadline := by
  unfold Launch.deadline at ends
  split at ends
  next same =>
    cases ends
    rw [same] at patient ⊢
    exact ⟨rfl, patient⟩
  next same =>
    split at ends
    · cases ends
    · cases ends
      rw [same] at patient ⊢
      exact ⟨rfl, patient⟩
  next => cases ends

/-- It is enough that all the waits and all the work of the supervisor up to the line that its start
reads fit into the time of that start; what the supervisor does later may take any time. -/
theorem inTime_of_withinBudget {trace : List (Launch × Label)} {last : Launch}
    (run : Run Step Launch.initial trace last) (budget : Meets WithinBudget trace) :
    Meets InTime trace := by
  have patient : Launch.initial.reader.Patient := trivial
  have along := run.meets_invariant budget patient fun _ _ _ patient _ step =>
    patient_kept patient step
  intro entry member
  refine ⟨?_, (budget entry member).2⟩
  intro _ mayRun deadline ends
  obtain ⟨waits, late⟩ := deadline_patient (along entry member).1 ends
  have soon := (budget entry member).1 waits mayRun
  omega

/-- The waits of a supervisor may together take longer than its start is going to wait. -/
example : startTimeoutMs < networkTimeoutMs + execTimeoutMs + startGraceMs := by decide

/-- A start that has computed its deadline, and a supervisor that is about to wait for the network
manager. -/
def waitingForNetwork : Launch :=
  { reader := .poll 20000 true, phase := .awaitNetwork 15000 }

/-- Within the budget the start waits and the supervisor gets to its wait for the network manager. -/
theorem supervisor_prepares :
    ∃ trace, Run Step Launch.initial trace waitingForNetwork ∧ Meets WithinBudget trace := by
  have r0 : Run Step Launch.initial [] Launch.initial ∧ Meets WithinBudget [] := ⟨.start, meets_nil⟩
  have r1 := step_meeting r0 (.reader .enters) (by decide)
  have r2 := step_meeting r1 (.reader (.goesOn (by decide))) (by decide)
  have r3 := step_meeting r2 (.reader .polls) (by decide)
  have r4 := step_meeting r3 (.supervisor .prepared) (by decide)
  have r5 := step_meeting r4 (.supervisor .prepared) (by decide)
  have r6 := step_meeting r5 (.supervisor .prepared) (by decide)
  have r7 := step_meeting r6 (.supervisor .prepared) (by decide)
  have r8 := step_meeting r7 (.supervisor .prepared) (by decide)
  have r9 := step_meeting r8 (.supervisor .prepared) (by decide)
  have r10 := step_meeting r9 (.supervisor .prepared) (by decide)
  have r11 := step_meeting r10 (.supervisor .helpersStarted) (by decide)
  have r12 := step_meeting r11 (.supervisor .baseReady) (by decide)
  exact ⟨_, r12.1, r12.2⟩

/-- The network manager is ready after two seconds and the child has not executed its program twelve
seconds later: the start reads that line and returns 92. -/
theorem start_verdict_agrees_slow_exec :
    ∃ trace last, Run Step Launch.initial trace last ∧ Meets InTime trace ∧
      last.reader = .returned 92 ∧ VerdictAgrees last := by
  obtain ⟨prepared, run, budget⟩ := supervisor_prepares
  have r0 := step_meeting ⟨run, budget⟩ (.pass 2000) (by decide)
  have r1 := step_meeting r0 (.supervisor .networkReady) (by decide)
  have r2 := step_meeting r1 (.negotiated .systemd rfl) (by decide)
  have r3 := step_meeting r2 (.supervisor .modeWritten) (by decide)
  have r4 := step_meeting r3 (.supervisor .piped) (by decide)
  have r5 := step_meeting r4 (.forks rfl) (by decide)
  have r6 := step_meeting r5 (.supervisor .ticksRead) (by decide)
  have r7 := step_meeting r6 (.supervisor .childWritten) (by decide)
  have r8 := step_meeting r7 (.pass 12000) (by decide)
  have r9 := step_meeting r8 (.supervisor (.execTimesOut (by decide))) (by decide)
  have r10 := step_meeting r9 (.kills rfl) (by decide)
  have r11 := step_meeting r10 (.supervisor .failedWritten) (by decide)
  have r12 := step_meeting r11 (.reports rfl nofun) (by decide)
  have r13 := step_meeting r12 (.reader (.polled rfl)) (by decide)
  have r14 := step_meeting r13 (.reader (.reads rfl)) (by decide)
  have inTime := inTime_of_withinBudget r14.1 r14.2
  exact ⟨_, _, r14.1, inTime, rfl, start_verdict_agrees r14.1 inTime⟩

/-- The network manager takes its fifteen seconds and the child five to execute its program.  The start
gives up, and three seconds later its supervisor is running with Debian alive. -/
theorem late_supervisor_runs :
    ¬∀ trace last, Run Step Launch.initial trace last → VerdictAgrees last := by
  intro agrees
  obtain ⟨prepared, run, -⟩ := supervisor_prepares
  have r0 := run.step (.pass 15000)
  have r1 := r0.step (.supervisor .networkReady)
  have r2 := r1.step (.negotiated .systemd rfl)
  have r3 := r2.step (.supervisor .modeWritten)
  have r4 := r3.step (.supervisor .piped)
  have r5 := r4.step (.forks rfl)
  have r6 := r5.step (.supervisor .ticksRead)
  have r7 := r6.step (.supervisor .childWritten)
  have r8 := r7.step (.pass 5000)
  -- the deadline of the start has passed
  have r9 := r8.step (.reader (.timesOut (by decide) rfl))
  have r10 := r9.step (.supervisor .executed)
  have r11 := r10.step (.supervisor (.graceGoesOn (by decide)))
  have r12 := r11.step (.supervisor .graceWaits)
  have r13 := r12.step (.pass 3000)
  have r14 := r13.step (.supervisor (.graceOver (by decide)))
  have r15 := r14.step (.supervisor .graceProbed)
  have r16 := r15.step (.supervisor (.captures rfl))
  have r17 := r16.step (.supervisor .runningWritten)
  exact agrees _ _ r17 91 rfl (by decide) ⟨rfl, rfl⟩

end DawnShell.Launcher.Readiness
