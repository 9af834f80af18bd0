/-
Module: DawnShell.Proofs.FailedStarts
Layer: Proofs
Purpose: What the state file says behind a failed start.  Once a supervisor has a child, each of its
  failures writes the failed state; before that none does, so that the file keeps the first state.
Trusted boundary: none
Main exports: Note, notes, leftState, FailedStart, Forked, Course, supervisorLoop_course,
  failed_start_recorded_iff
-/
import DawnShell.Launcher.SupervisorStart

namespace DawnShell.Launcher.Start

open Interaction Readiness

/-! ### What a log says -/

/-- What others can see of a start. -/
inductive Note where
  | writes (state : StateName) (succeeded : Bool)
  | forks (child : Option Pid)
  | reports (message : ReadyMessage)
deriving DecidableEq, Repr

def noteOf : StartExchange → Option Note
  | ⟨.writeState record, succeeded⟩ => some (.writes record.state succeeded)
  | ⟨.fork, child⟩ => some (.forks child)
  | ⟨.report message, _⟩ => some (.reports message)
  | _ => none

def notes (log : List StartExchange) : List Note := log.filterMap noteOf

def Note.state? : Note → Option StateName
  | .writes state true => some state
  | .writes _ false | .forks _ | .reports _ => none

/-- The state that the file says in the end: that of the last write that succeeds. -/
def lastState (noted : List Note) : Option StateName := (noted.filterMap Note.state?).getLast?

def leftState (log : List StartExchange) : Option StateName := lastState (notes log)

/-- The child has been forked. -/
def Forked (log : List StartExchange) : Prop := ∃ child, .forks (some child) ∈ notes log

/-- A start that fails behind the first state, with no write a failure. -/
structure FailedStart (log : List StartExchange) : Prop where
  begun : .writes .starting true ∈ notes log
  reported : ∃ stage, .reports (.startFailed stage) ∈ notes log
  written : ∀ state, .writes state false ∉ notes log

/-! ### Programs by their notes -/

section Notes

variable {α β : Type} {program : Supervision α} {rest : α → Supervision β} {value : α}

/-- The postcondition holds of the notes and the value of every run. -/
def Notes (program : Supervision α) (post : List Note → α → Prop) : Prop :=
  program.All fun log value => post (notes log) value

/-- What one call notes depends on its answer alone. -/
theorem notes_ask {request : StartCall} {post : List Note → request.Answer → Prop} :
    Notes (ask request) post ↔ ∀ answer, post (noteOf ⟨request, answer⟩).toList answer := by
  rw [Notes, all_call]
  refine forall_congr' fun answer => ?_
  cases found : noteOf ⟨request, answer⟩ <;> simp [notes, found]

/-- What a program in two parts notes is what the first part notes and then what the second does. -/
theorem notes_bind {post : List Note → β → Prop} :
    Notes (program >>= rest) post ↔
      Notes program fun first value =>
        Notes (rest value) fun second result => post (first ++ second) result := by
  simp only [Notes, all_bind, notes, List.filterMap_append]

/-- A weaker postcondition holds of the notes too. -/
theorem Notes.mono {post weaker : List Note → α → Prop} (holds : Notes program post)
    (implies : ∀ noted value, post noted value → weaker noted value) : Notes program weaker :=
  All.mono holds fun log value => implies (notes log) value

/-- Nothing is written, forked or reported. -/
def Quiet (program : Supervision α) : Prop := Notes program fun noted _ => noted = []

/-- A program that only returns a value notes nothing. -/
theorem quiet_pure : Quiet (pure value : Supervision α) := rfl

/-- A call that is never noted makes a quiet program. -/
theorem quiet_ask {request : StartCall} (silent : ∀ answer, noteOf ⟨request, answer⟩ = none) :
    Quiet (ask request) := by
  rw [Quiet, notes_ask]
  intro answer
  rw [silent answer]
  rfl

/-- A program is quiet when both of its parts are. -/
theorem quiet_bind (first : Quiet program) (others : ∀ value, Quiet (rest value)) :
    Quiet (program >>= rest) := by
  rw [Quiet, notes_bind]
  refine first.mono fun noted value none => (others value).mono fun later result also => ?_
  rw [none, also]
  rfl

theorem notes_quiet_bind {post : List Note → β → Prop} (quiet : Quiet program)
    (holds : ∀ value, Notes (rest value) post) : Notes (program >>= rest) post := by
  rw [notes_bind]
  refine quiet.mono fun noted value none => ?_
  rw [none]
  exact holds value

theorem notes_ask_bind {request : StartCall} {rest : request.Answer → Supervision β}
    {post : List Note → β → Prop}
    (holds : ∀ answer, Notes (rest answer) fun later result =>
      post ((noteOf ⟨request, answer⟩).toList ++ later) result) : Notes (ask request >>= rest) post :=
  notes_bind.mpr (notes_ask.mpr holds)

end Notes

/-! ### The steps of a start -/

section Steps

variable {mode : LaunchMode} {child : Pid} {record : SupervisorRecord} {stage : FailureStage}

/-- Reading the start time of the child, however often it is tried, notes nothing. -/
theorem readChildTicks_quiet (attempts : Nat) : Quiet (readChildTicks child attempts) := by
  induction attempts with
  | zero => exact quiet_pure
  | succ attempts ih =>
      rw [readChildTicks]
      refine quiet_bind (quiet_ask fun _ => rfl) fun answer => ?_
      cases answer with
      | some ticks => exact quiet_pure
      | none => exact quiet_bind (quiet_ask fun _ => rfl) fun _ => ih

/-- Undoing a start gives back what it has taken and notes nothing. -/
theorem undoStart_quiet : Quiet (undoStart mode) := by
  cases mode with
  | systemd => exact quiet_ask fun _ => rfl
  | compat => exact quiet_bind (quiet_ask fun _ => rfl) fun _ => quiet_ask fun _ => rfl

/-- Killing the child and waiting for it notes nothing. -/
theorem killAndWait_quiet : Quiet (killAndWait mode child) :=
  quiet_bind (quiet_ask fun _ => rfl) fun _ => quiet_ask fun _ => rfl

/-- Looking at the child to complete its record notes nothing. -/
theorem captureChild_quiet : Quiet (captureChild mode child record) := by
  rw [captureChild]
  refine quiet_bind (quiet_ask fun _ => rfl) fun identity => ?_
  cases identity with
  | none => exact quiet_pure
  | some identity =>
      refine quiet_bind (quiet_ask fun _ => rfl) fun captured => ?_
      obtain ⟨read, namespaces⟩ := captured
      cases read with
      | false => exact quiet_pure
      | true => exact quiet_bind (quiet_ask fun _ => rfl) fun _ => quiet_pure

theorem failStart_notes : Notes (failStart stage) fun noted _ => noted = [.reports (.startFailed stage)] :=
  notes_ask_bind fun _ => rfl

/-- What is noted of a child that has failed. -/
def ChildFailed (noted : List Note) : Prop :=
  ∃ stage succeeded, noted = [.writes .failed succeeded, .reports (.startFailed stage)]

/-- A failure of the child writes the failed state and reports its stage. -/
theorem failChild_notes : Notes (failChild mode record stage) fun noted _ => ChildFailed noted := by
  rw [failChild]
  refine notes_ask_bind fun succeeded => notes_quiet_bind undoStart_quiet fun _ => ?_
  refine failStart_notes.mono fun noted _ reported => ⟨stage, succeeded, ?_⟩
  rw [reported]
  rfl

/-- What is noted of a child that is watched. -/
def ChildWatched (noted : List Note) : Prop :=
  ChildFailed noted ∨ ∃ mode succeeded, noted = [.writes .running succeeded, .reports (readyMessage mode)]

/-- The child fails or runs: either a failure is noted, or the running state is written and the line for
the start reported behind it. -/
theorem watchChild_notes : Notes (watchChild mode child record) fun noted _ => ChildWatched noted := by
  have failing : ∀ {record : SupervisorRecord} {stage : FailureStage},
      Notes (failChild mode record stage) fun noted _ => ChildWatched noted :=
    failChild_notes.mono fun noted _ failed => .inl failed
  rw [watchChild]
  refine notes_quiet_bind (quiet_ask fun _ => rfl) fun executed => ?_
  cases executed with
  | false => exact notes_quiet_bind killAndWait_quiet fun _ => failing
  | true =>
      refine notes_quiet_bind (quiet_ask fun _ => rfl) fun grace => ?_
      cases grace with
      | reaped => exact failing
      | unknown => exact notes_quiet_bind killAndWait_quiet fun _ => failing
      | survived =>
          refine notes_quiet_bind captureChild_quiet fun captured => ?_
          obtain ⟨identified, record⟩ := captured
          cases identified with
          | false => exact notes_quiet_bind killAndWait_quiet fun _ => failing
          | true =>
              have running : Notes (announceChild mode child record) fun noted _ => ChildWatched noted := by
                refine notes_ask_bind fun succeeded => notes_ask_bind fun _ => ?_
                exact .inr ⟨mode, succeeded, rfl⟩
              dsimp only
              rw [Bool.not_true, if_neg (by simp)]
              split
              · exact notes_quiet_bind (quiet_ask fun _ => rfl) fun _ => running
              · exact running

/-- Behind the fork the state is written, and then the child fails or runs. -/
theorem superviseChild_notes : Notes (superviseChild mode child record) fun noted _ =>
    ∃ succeeded later, noted = .writes record.state succeeded :: later ∧ ChildWatched later := by
  rw [superviseChild]
  refine notes_quiet_bind (readChildTicks_quiet _) fun ticks => notes_ask_bind fun succeeded => ?_
  exact watchChild_notes.mono fun later _ watched => ⟨succeeded, later, rfl, watched⟩

/-- What is noted behind the choice of the variant. -/
inductive AfterMode (state : StateName) : List Note → Prop where
  | pipeFails (stage : FailureStage) : AfterMode state [.reports (.startFailed stage)]
  | forkFails (stage : FailureStage) : AfterMode state [.forks none, .reports (.startFailed stage)]
  | forked (child : Pid) (succeeded : Bool) {later : List Note} (watched : ChildWatched later) :
      AfterMode state (.forks (some child) :: .writes state succeeded :: later)

theorem failStart_afterMode {state : StateName} :
    Notes (failStart stage) fun noted _ => AfterMode state noted :=
  failStart_notes.mono fun _ _ same => same ▸ .pipeFails _

theorem superviseChild_afterMode : Notes (superviseChild mode child record) fun noted _ =>
    AfterMode record.state (.forks (some child) :: noted) := by
  refine superviseChild_notes.mono fun noted _ seen => ?_
  obtain ⟨succeeded, later, rfl, watched⟩ := seen
  exact .forked child succeeded watched

/-- Behind the choice of the compatible mode the notes of a supervisor follow one of the courses there
are. -/
theorem supervisorCompatLoop_notes :
    Notes (supervisorCompatLoop record) fun noted _ => AfterMode record.state noted := by
  rw [supervisorCompatLoop]
  refine notes_quiet_bind (quiet_ask fun _ => rfl) fun piped => ?_
  cases piped with
  | false => exact notes_quiet_bind (quiet_ask fun _ => rfl) fun _ => failStart_afterMode
  | true =>
      refine notes_ask_bind fun child => ?_
      cases child with
      | none => exact failStart_notes.mono fun noted _ same => same ▸ .forkFails _
      | some child => exact notes_quiet_bind (quiet_ask fun _ => rfl) fun _ => superviseChild_afterMode

/-- Behind the choice of systemd the notes of a supervisor follow one of the courses there are. -/
theorem supervisorSystemdLoop_notes :
    Notes (supervisorSystemdLoop record) fun noted _ => AfterMode record.state noted := by
  rw [supervisorSystemdLoop]
  refine notes_quiet_bind (quiet_ask fun _ => rfl) fun piped => ?_
  cases piped with
  | false => exact notes_quiet_bind (quiet_ask fun _ => rfl) fun _ => failStart_afterMode
  | true =>
      refine notes_ask_bind fun child => ?_
      cases child with
      | none =>
          exact notes_ask_bind fun _ => notes_quiet_bind (quiet_ask fun _ => rfl) fun _ => .forkFails _
      | some child => exact superviseChild_afterMode

/-- What is noted behind the first state. -/
inductive AfterState (state : StateName) : List Note → Prop where
  | helpersFail (stage : FailureStage) : AfterState state [.reports (.startFailed stage)]
  | chosen (succeeded : Bool) {later : List Note} (variant : AfterMode state later) :
      AfterState state (.writes state succeeded :: later)

/-- Once its first state is written the notes of a supervisor follow one of the courses there are. -/
theorem supervisorHelpers_notes :
    Notes (supervisorHelpers record) fun noted _ => AfterState record.state noted := by
  rw [supervisorHelpers]
  have failing : ∀ {stage : FailureStage},
      Notes (failStart stage) fun noted _ => AfterState record.state noted :=
    failStart_notes.mono fun noted _ same => same ▸ .helpersFail _
  refine notes_quiet_bind (quiet_ask fun _ => rfl) fun prepared => ?_
  cases prepared with
  | false => exact failing
  | true =>
      refine notes_quiet_bind (quiet_ask fun _ => rfl) fun managed => ?_
      cases managed with
      | false => exact notes_quiet_bind (quiet_ask fun _ => rfl) fun _ => failing
      | true =>
          refine notes_quiet_bind (quiet_ask fun _ => rfl) fun negotiated => ?_
          cases negotiated with
          | error exit => exact notes_quiet_bind (quiet_ask fun _ => rfl) fun _ => failing
          | ok chosen =>
              obtain ⟨mode, cgroupMode⟩ := chosen
              refine notes_ask_bind fun succeeded => ?_
              cases mode with
              | compat =>
                  exact supervisorCompatLoop_notes.mono fun later _ variant => .chosen succeeded variant
              | systemd =>
                  exact supervisorSystemdLoop_notes.mono fun later _ variant => .chosen succeeded variant

/-- What is noted of a start. -/
inductive Course : List Note → Prop where
  | failsEarly (stage : FailureStage) : Course [.reports (.startFailed stage)]
  | unwritten (stage : FailureStage) : Course [.writes .starting false, .reports (.startFailed stage)]
  | begun {later : List Note} (helpers : AfterState .starting later) :
      Course (.writes .starting true :: later)

/-- From its beginning to its end a supervisor notes one of the courses there are, whatever its calls
answer. -/
theorem supervisorLoop_notes (policy : HostUsbPolicy) :
    Notes (supervisorLoop policy) fun noted _ => Course noted := by
  rw [supervisorLoop]
  have failing : ∀ {stage : FailureStage}, Notes (failStart stage) fun noted _ => Course noted :=
    failStart_notes.mono fun noted _ same => same ▸ .failsEarly _
  refine notes_quiet_bind (quiet_ask fun _ => rfl) fun session => ?_
  cases session with
  | false => exact failing
  | true =>
      refine notes_quiet_bind (quiet_ask fun _ => rfl) fun redirected => ?_
      cases redirected with
      | false => exact failing
      | true =>
          refine notes_quiet_bind (quiet_ask fun _ => rfl) fun handled => ?_
          cases handled with
          | false => exact failing
          | true =>
              refine notes_quiet_bind (quiet_ask fun _ => rfl) fun pid => ?_
              refine notes_quiet_bind (quiet_ask fun _ => rfl) fun ticks => ?_
              cases ticks with
              | none => exact failing
              | some ticks =>
                  refine notes_quiet_bind (quiet_ask fun _ => rfl) fun identity => ?_
                  cases identity with
                  | none => exact failing
                  | some identity =>
                      refine notes_ask_bind fun written => ?_
                      cases written with
                      | false => exact failStart_notes.mono fun noted _ same => same ▸ .unwritten _
                      | true => exact supervisorHelpers_notes.mono fun noted _ helpers => .begun helpers

end Steps

/-! ### Result -/

section Result

variable {policy : HostUsbPolicy} {log : List StartExchange} {ending : Ending} {noted : List Note}

/-- The writes of a list of notes are all successes. -/
def AllWritten (noted : List Note) : Prop := ∀ state, .writes state false ∉ noted

/-- When all states were written the first one was. -/
theorem AllWritten.head {state : StateName} {succeeded : Bool} {later : List Note}
    (written : AllWritten (.writes state succeeded :: later)) : succeeded = true := by
  cases succeeded with
  | false => exact absurd List.mem_cons_self (written state)
  | true => rfl

/-- When all states were written those behind the first were. -/
theorem AllWritten.tail {note : Note} {later : List Note} (written : AllWritten (note :: later)) :
    AllWritten later :=
  fun state member => written state (List.mem_cons_of_mem _ member)

/-- Notes without a write do not change what the file says. -/
theorem lastState_append_nil {front later : List Note} (silent : later.filterMap Note.state? = []) :
    lastState (front ++ later) = lastState front := by
  rw [lastState, List.filterMap_append, silent, List.append_nil]
  rfl

/-- The last state of a list of notes is the last one of its end, if there is one. -/
theorem lastState_append_some {front later : List Note} {state : StateName}
    (last : lastState later = some state) : lastState (front ++ later) = some state := by
  rw [lastState, List.filterMap_append, List.getLast?_append]
  rw [lastState] at last
  rw [last]
  rfl

/-- A child that fails leaves the failed state. -/
theorem lastState_of_childWatched {later : List Note} (watched : ChildWatched later)
    (written : AllWritten later) (reported : ∃ stage, .reports (.startFailed stage) ∈ later) :
    lastState later = some .failed := by
  rcases watched with ⟨stage, succeeded, rfl⟩ | ⟨mode, succeeded, rfl⟩
  · rw [written.head]
    rfl
  · obtain ⟨stage, member⟩ := reported
    cases mode <;> simp [readyMessage] at member

/-- Behind the choice of the variant the file says something else than at first exactly when there is a
child. -/
theorem AfterMode.recorded_iff {front : List Note} (course : AfterMode .starting noted)
    (written : AllWritten noted) (reported : ∃ stage, .reports (.startFailed stage) ∈ noted)
    (begun : lastState front = some .starting) :
    lastState (front ++ noted) ≠ some .starting ↔ ∃ child, .forks (some child) ∈ noted := by
  cases course with
  | pipeFails stage =>
      rw [lastState_append_nil rfl, begun]
      simp
  | forkFails stage =>
      rw [lastState_append_nil rfl, begun]
      simp
  | forked child succeeded watched =>
      rename_i later
      have member : ∃ stage, Note.reports (.startFailed stage) ∈ later := by simpa using reported
      have failed := lastState_of_childWatched watched written.tail.tail member
      have last : lastState (.forks (some child) :: .writes .starting succeeded :: later) = some .failed :=
        @lastState_append_some [_, _] _ _ failed
      refine iff_of_true ?_ ⟨child, List.mem_cons_self⟩
      rw [@lastState_append_some front _ _ last]
      simp

/-- A failed start is recorded as failed exactly when the child has been forked; the failures in front
of the fork only report. -/
theorem failed_start_recorded_iff (run : Runs (supervisorLoop policy) log ending)
    (failed : FailedStart log) :
    leftState log ≠ some .starting ↔ Forked log := by
  have course : Course (notes log) := run.of_all (supervisorLoop_notes policy)
  obtain ⟨begun, reported, written⟩ := failed
  rw [leftState, Forked]
  generalize notes log = noted at course begun reported written
  cases course with
  | failsEarly stage => simp at begun
  | unwritten stage => simp at begun
  | begun helpers =>
      cases helpers with
      | helpersFail stage =>
          have kept :
              lastState [.writes .starting true, .reports (.startFailed stage)] = some .starting := rfl
          rw [kept]
          simp
      | chosen succeeded variant =>
          rename_i later
          have success := AllWritten.head (AllWritten.tail written)
          subst success
          have member : ∃ stage, Note.reports (.startFailed stage) ∈ later := by simpa using reported
          have known := @AfterMode.recorded_iff _ [.writes .starting true, .writes .starting true] variant
            (AllWritten.tail (AllWritten.tail written)) member rfl
          simpa using known

/-- A start whose FIFO for reboot requests cannot be made. -/
def withoutFifo : List StartExchange :=
  [⟨.setsid, true⟩, ⟨.redirectSupervisorStdio, true⟩, ⟨.sigaction, true⟩, ⟨.getpid, (500 : Nat)⟩,
    ⟨.readProcStartTicks 500, some 7⟩, ⟨.readProcExeIdentity 500, some (1, 2)⟩,
    ⟨.writeState (startingRecord .off 500 7 (1, 2)), true⟩, ⟨.prepareHostRebootFifo, false⟩,
    ⟨.report (.startFailed .hostRebootFifo), ()⟩]

/-- A supervisor that cannot make its reboot pipe runs along this log and exits with 78. -/
theorem runs_withoutFifo : Runs (supervisorLoop .off) withoutFifo (.exited 78) :=
  runs_of_replay rfl

/-- It has noted the state `starting` and reported that the pipe is missing. -/
theorem notes_withoutFifo :
    notes withoutFifo = [.writes .starting true, .reports (.startFailed .hostRebootFifo)] := rfl

/-- This is a failed start, and its last state is not `failed`. -/
theorem failedStart_withoutFifo : FailedStart withoutFifo := by
  constructor <;> rw [notes_withoutFifo] <;> simp

/-- The record of a compat launch before its child has been forked. -/
def compatRecord : SupervisorRecord :=
  { startingRecord .off 500 7 (1, 2) with cgroupMode := .v2, launchMode := .compat }

/-- The record with the child. -/
def childRecord : SupervisorRecord :=
  { compatRecord with init := { pid := 501, startTicks := 8 } }

/-- The record with what has been found out about the child. -/
def capturedRecord : SupervisorRecord :=
  { childRecord with init := { childRecord.init with exeDev := 1, exeIno := 3 } }

/-- A compat start that goes well until the namespaces of the child cannot be read. -/
def withoutNamespaces : List StartExchange :=
  [⟨.setsid, true⟩, ⟨.redirectSupervisorStdio, true⟩, ⟨.sigaction, true⟩, ⟨.getpid, (500 : Nat)⟩,
    ⟨.readProcStartTicks 500, some 7⟩, ⟨.readProcExeIdentity 500, some (1, 2)⟩,
    ⟨.writeState (startingRecord .off 500 7 (1, 2)), true⟩, ⟨.prepareHostRebootFifo, true⟩,
    ⟨.startNetworkManager, true⟩, ⟨.setSystemdParentNamespaces, .ok (.compat, .v2)⟩,
    ⟨.writeState compatRecord, true⟩, ⟨.pipe, true⟩, ⟨.fork, some (501 : Nat)⟩, ⟨.setpgid 501, ()⟩,
    ⟨.readProcStartTicks 501, none⟩, ⟨.usleep 50000, ()⟩, ⟨.readProcStartTicks 501, some 8⟩,
    ⟨.writeState childRecord, true⟩, ⟨.waitForExecResult, true⟩, ⟨.waitForStartGrace 501, .survived⟩,
    ⟨.readProcExeIdentity 501, some (1, 3)⟩, ⟨.captureNamespaceIdentity .compat 501, (false, {})⟩,
    ⟨.killChild .compat 501, ()⟩, ⟨.waitpid 501, ()⟩,
    ⟨.writeState { capturedRecord with state := .failed, waitStatus := 82 }, true⟩,
    ⟨.terminateNetworkManager, ()⟩, ⟨.awaitNetworkManager, ()⟩,
    ⟨.report (.startFailed .childIdentity), ()⟩]

/-- A supervisor whose child shows no namespaces runs along this log and exits with 82. -/
theorem runs_withoutNamespaces : Runs (supervisorLoop .off) withoutNamespaces (.exited 82) :=
  runs_of_replay rfl

theorem notes_withoutNamespaces : notes withoutNamespaces =
    [.writes .starting true, .writes .starting true, .forks (some 501), .writes .starting true,
      .writes .failed true, .reports (.startFailed .childIdentity)] := rfl

/-- This is a failed start too, and its last state is `failed`. -/
theorem failedStart_withoutNamespaces : FailedStart withoutNamespaces := by
  constructor <;> rw [notes_withoutNamespaces] <;> simp

/-- Behind the fork the failure is recorded; before it, it is not. Both runs are those of the logs
above. -/
theorem failed_start_recorded_iff_both :
    (Forked withoutNamespaces ∧ leftState withoutNamespaces ≠ some .starting) ∧
      (leftState withoutFifo = some .starting ∧ ¬Forked withoutFifo) := by
  have forked : Forked withoutNamespaces := by
    rw [Forked, notes_withoutNamespaces]
    exact ⟨501, by simp⟩
  have unrecorded : leftState withoutFifo = some .starting := rfl
  refine ⟨⟨forked, ?_⟩, unrecorded, fun child => ?_⟩
  · exact (failed_start_recorded_iff runs_withoutNamespaces failedStart_withoutNamespaces).mpr forked
  · exact (failed_start_recorded_iff runs_withoutFifo failedStart_withoutFifo).mpr child unrecorded

/-- The supervisor exits with 78 and the file says that it is starting, which nobody corrects. -/
theorem withoutFifo_left_starting :
    Runs (supervisorLoop .off) withoutFifo (.exited 78) ∧ FailedStart withoutFifo ∧
      leftState withoutFifo = some .starting :=
  ⟨runs_withoutFifo, failedStart_withoutFifo, rfl⟩

end Result

end DawnShell.Launcher.Start
