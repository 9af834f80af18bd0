/-
Module: DawnShell.Launcher.Readiness
Layer: Launcher
Purpose: One launch against the clock: the start that waits for a line in the ready pipe, and the
  supervisor that it has forked on its way to that line.  Both proceed one system call at a time in any
  interleaving, and any time may pass between two calls, so that every wait takes as long as it likes
  and only the limits of `poll` and of the deadlines are kept.
Trusted boundary: faithful model of bfu_namespace_probe.c:2596-2610, 3194-3226, 3313-3502, 3504-3804,
  3806-3832 and 4598-4636.  Times are milliseconds of the monotonic clock.  A line is written by one
  `write` and read by one `read`; nobody but the other end breaks the pipe.  What a start does with its
  descriptors when it has read is one step.  A sleep is time that passes.  The lock, the state file and
  the processes of other launches are in `DawnShell.Launcher.World`.
Main exports: FailureStage, ReadyMessage, Reader, Phase, Launch, Label, Step, Launch.initial
-/
import DawnShell.Launcher.Process
import DawnShell.Lib.Transition

namespace DawnShell.Launcher.Readiness

/-! ### Limits -/

/-- `kStartTimeoutMs`. -/
def startTimeoutMs : Nat := 20000

/-- `kStartGraceMs`. -/
def startGraceMs : Nat := 3000

/-- The limit of `wait_for_network_manager`. -/
def networkTimeoutMs : Nat := 15000

/-- The limit of `wait_for_exec_result`. -/
def execTimeoutMs : Nat := 12000

/-- How often the start time of the child is asked for. -/
def ticksAttempts : Nat := 20

/-! ### The ready pipe -/

/-- What `BFU_DEBIAN_START_FAILED` names as its stage.  The last five have names of their own in the
compat variant. -/
inductive FailureStage where
  | setsid
  | openLifecycleLog
  | signalSetup
  | supervisorIdentity
  | writeStartingState
  | hostRebootFifo
  | networkManagerStart
  | namespaceSetup (exit : Nat)
  | execPipe
  | forkChild
  | execChild
  | earlyExit
  | childIdentity
deriving DecidableEq, Repr

/-- What the supervisor returns after it has reported the stage. -/
def FailureStage.exitCode : FailureStage → Nat
  | .setsid => 73
  | .openLifecycleLog => 74
  | .signalSetup => 75
  | .supervisorIdentity => 76
  | .writeStartingState => 77
  | .hostRebootFifo => 78
  | .networkManagerStart => 78
  | .namespaceSetup exit => exit
  | .execPipe => 78
  | .forkChild => 79
  | .execChild => 80
  | .earlyExit => 81
  | .childIdentity => 82

/-- The line in the ready pipe. -/
inductive ReadyMessage where
  | started
  | fallbackStarted
  | startFailed (stage : FailureStage)
deriving DecidableEq, Repr

/-- What `run_start` returns when it has read the line. -/
def ReadyMessage.code : ReadyMessage → Nat
  | .started | .fallbackStarted => 0
  | .startFailed _ => 92

/-- The line of a supervisor whose child is running. -/
def readyMessage : LaunchMode → ReadyMessage
  | .systemd => .started
  | .compat => .fallbackStarted

/-! ### The two parties -/

/-- `run_start` after its fork, with `read_ready_message`. -/
inductive Reader where
  | enter
  /-- The condition of the loop. -/
  | test (deadline : Nat)
  /-- `timeout` is computed from another look at the clock. -/
  | wait (deadline : Nat)
  /-- In `poll`; a negative timeout is no limit. -/
  | poll (deadline : Nat) (limited : Bool)
  | read (deadline : Nat)
  | returned (code : Nat)
deriving DecidableEq, Repr

/-- `supervisor_loop` and `supervisor_compat_loop`, by what is done next. -/
inductive Phase where
  /-- What can fail before the namespaces. -/
  | prepare (remaining : List FailureStage)
  | baseNamespaces
  | awaitNetwork (limit : Nat)
  /-- The rest of `set_systemd_parent_namespaces`. -/
  | negotiate
  | writeMode
  | execPipe
  | forkChild
  /-- `setpgid` on the compat service. -/
  | setGroup
  | readTicks (attempt : Nat)
  | writeChild
  | awaitExec (limit : Nat)
  | graceTest (deadline : Nat)
  | graceCheck (deadline : Nat)
  | graceProbe
  | capture
  | writeRunning
  | announce
  | closeReady
  | loop (shutdownSent : Bool)
  | finish
  | killChild (stage : FailureStage)
  | writeFailed (stage : FailureStage)
  | report (stage : FailureStage)
  | ended (code : Nat)
  /-- Killed by `SIGPIPE` when it announced itself to nobody. -/
  | brokenPipe
deriving DecidableEq, Repr

/-- The operations before the namespaces, in order. -/
def preparations : List FailureStage :=
  [.setsid, .openLifecycleLog, .signalSetup, .supervisorIdentity, .writeStartingState,
    .hostRebootFifo, .networkManagerStart]

/-- A launch after the fork of its supervisor. -/
structure Launch where
  now : Nat := 0
  reader : Reader := .enter
  /-- What has been written to the ready pipe. -/
  content : Option ReadyMessage := none
  phase : Phase := .prepare preparations
  mode : LaunchMode := .systemd
  /-- The process forked as Debian init or as compat sshd is alive. -/
  debian : Bool := false
deriving DecidableEq, Repr

def Launch.initial : Launch := {}

/-- The supervisor has no write end of the pipe any more. -/
def Phase.closedPipe : Phase → Bool
  | .loop _ | .finish | .ended _ | .brokenPipe => true
  | _ => false

/-- `poll` reports the read end. -/
def Launch.readable (launch : Launch) : Bool := launch.content.isSome || launch.phase.closedPipe

/-- The start has closed the read end. -/
def Launch.readerGone (launch : Launch) : Prop := ∃ code, launch.reader = .returned code

/-- The supervisor has come to the state `running`. -/
def Phase.reachedRunning : Phase → Bool
  | .announce | .closeReady | .loop _ | .brokenPipe => true
  | _ => false

/-! ### Steps -/

/-- The steps of a start that change nothing but its own phase. -/
inductive Reader.Moves (launch : Launch) : Reader → Reader → Prop where
  | enters : Moves launch .enter (.test (launch.now + startTimeoutMs))
  | goesOn {deadline : Nat} (early : launch.now < deadline) :
      Moves launch (.test deadline) (.wait deadline)
  /-- The loop is left with nothing read. -/
  | givesUp {deadline : Nat} (late : deadline ≤ launch.now) :
      Moves launch (.test deadline) (.returned 91)
  | polls {deadline : Nat} :
      Moves launch (.wait deadline) (.poll deadline (decide (launch.now ≤ deadline)))
  | polled {deadline : Nat} {limited : Bool} (readable : launch.readable = true) :
      Moves launch (.poll deadline limited) (.read deadline)
  | timesOut {deadline : Nat} (late : deadline ≤ launch.now) (quiet : launch.readable = false) :
      Moves launch (.poll deadline true) (.returned 91)
  | pollInterrupted {deadline : Nat} {limited : Bool} :
      Moves launch (.poll deadline limited) (.test deadline)
  | reads {deadline : Nat} {message : ReadyMessage} (content : launch.content = some message) :
      Moves launch (.read deadline) (.returned message.code)
  | readsEnd {deadline : Nat} (content : launch.content = none)
      (closed : launch.phase.closedPipe = true) :
      Moves launch (.read deadline) (.returned 91)
  | readInterrupted {deadline : Nat} : Moves launch (.read deadline) (.test deadline)

/-- The steps of a supervisor that change nothing but its own phase.  A state that cannot be written is
ignored after the first. -/
inductive Phase.Moves (launch : Launch) : Phase → Phase → Prop where
  | prepared {stage : FailureStage} {remaining : List FailureStage} :
      Moves launch (.prepare (stage :: remaining)) (.prepare remaining)
  | prepareFails {stage : FailureStage} {remaining : List FailureStage} :
      Moves launch (.prepare (stage :: remaining)) (.report stage)
  | helpersStarted : Moves launch (.prepare []) .baseNamespaces
  | baseReady :
      Moves launch .baseNamespaces (.awaitNetwork (launch.now + networkTimeoutMs))
  | namespacesFail {phase : Phase} {exit : Nat} (phases : phase ∈ [.baseNamespaces, .negotiate])
      (failed : exit ≠ 0) :
      Moves launch phase (.report (.namespaceSetup exit))
  | networkReady {limit : Nat} : Moves launch (.awaitNetwork limit) .negotiate
  | networkInterrupted {limit : Nat} :
      Moves launch (.awaitNetwork limit) (.awaitNetwork (launch.now + networkTimeoutMs))
  /-- The manager reports a failure or is gone. -/
  | networkFails {limit : Nat} : Moves launch (.awaitNetwork limit) (.report (.namespaceSetup 56))
  | networkTimesOut {limit : Nat} (late : limit ≤ launch.now) :
      Moves launch (.awaitNetwork limit) (.report (.namespaceSetup 56))
  | modeWritten : Moves launch .writeMode .execPipe
  | piped : Moves launch .execPipe .forkChild
  | pipeFails : Moves launch .execPipe (.report .execPipe)
  | forkFails : Moves launch .forkChild (.report .forkChild)
  | grouped : Moves launch .setGroup (.readTicks 0)
  | ticksRead {attempt : Nat} : Moves launch (.readTicks attempt) .writeChild
  /-- After the last attempt the start time is left out. -/
  | ticksFail {attempt : Nat} :
      Moves launch (.readTicks attempt)
        (if attempt + 1 < ticksAttempts then .readTicks (attempt + 1) else .writeChild)
  | childWritten : Moves launch .writeChild (.awaitExec (launch.now + execTimeoutMs))
  | executed {limit : Nat} :
      Moves launch (.awaitExec limit) (.graceTest (launch.now + startGraceMs))
  | execInterrupted {limit : Nat} :
      Moves launch (.awaitExec limit) (.awaitExec (launch.now + execTimeoutMs))
  | execFails {limit : Nat} : Moves launch (.awaitExec limit) (.killChild .execChild)
  | execTimesOut {limit : Nat} (late : limit ≤ launch.now) :
      Moves launch (.awaitExec limit) (.killChild .execChild)
  | graceGoesOn {deadline : Nat} (early : launch.now < deadline) :
      Moves launch (.graceTest deadline) (.graceCheck deadline)
  | graceOver {deadline : Nat} (late : deadline ≤ launch.now) :
      Moves launch (.graceTest deadline) .graceProbe
  | graceWaits {deadline : Nat} : Moves launch (.graceCheck deadline) (.graceTest deadline)
  | graceReaps {deadline : Nat} (dead : launch.debian = false) :
      Moves launch (.graceCheck deadline) (.writeFailed .earlyExit)
  | graceFails {deadline : Nat} : Moves launch (.graceCheck deadline) (.killChild .earlyExit)
  | graceProbed : Moves launch .graceProbe .capture
  | graceProbeFails : Moves launch .graceProbe (.killChild .earlyExit)
  | captures (alive : launch.debian = true) : Moves launch .capture .writeRunning
  | captureFails : Moves launch .capture (.killChild .childIdentity)
  | runningWritten : Moves launch .writeRunning .announce
  | closes : Moves launch .closeReady (.loop false)
  /-- The child is asked to stop. -/
  | stops : Moves launch (.loop false) (.loop true)
  | reaps {shutdownSent : Bool} (dead : launch.debian = false) :
      Moves launch (.loop shutdownSent) .finish
  | finishes : Moves launch .finish (.ended 0)
  | failedWritten {stage : FailureStage} : Moves launch (.writeFailed stage) (.report stage)

inductive Label where
  | pass (milliseconds : Nat)
  | reader
  | pollFails
  | readFails
  | supervisor
  | debian
deriving DecidableEq, Repr

/-- Time passes, or one party takes a step. -/
inductive Step (launch : Launch) : Label → Launch → Prop where
  | pass (milliseconds : Nat) :
      Step launch (.pass milliseconds) { launch with now := launch.now + milliseconds }
  | reader {next : Reader} (moves : Reader.Moves launch launch.reader next) :
      Step launch .reader { launch with reader := next }
  | pollFails {deadline : Nat} {limited : Bool} (polls : launch.reader = .poll deadline limited) :
      Step launch .pollFails { launch with reader := .returned 91 }
  | readFails {deadline : Nat} (reads : launch.reader = .read deadline) :
      Step launch .readFails { launch with reader := .returned 91 }
  | supervisor {next : Phase} (moves : Phase.Moves launch launch.phase next) :
      Step launch .supervisor { launch with phase := next }
  | negotiated (mode : LaunchMode) (phase : launch.phase = .negotiate) :
      Step launch .supervisor { launch with phase := .writeMode, mode }
  | forks (phase : launch.phase = .forkChild) :
      Step launch .supervisor
        { launch with
          phase := match launch.mode with
            | .compat => .setGroup
            | .systemd => .readTicks 0
          debian := true }
  | kills {stage : FailureStage} (phase : launch.phase = .killChild stage) :
      Step launch .supervisor { launch with phase := .writeFailed stage, debian := false }
  | shutdownKills (phase : launch.phase = .loop true) :
      Step launch .supervisor { launch with debian := false }
  | announces (phase : launch.phase = .announce) (there : ¬launch.readerGone) :
      Step launch .supervisor
        { launch with phase := .closeReady, content := some (readyMessage launch.mode) }
  | announceBreaks (phase : launch.phase = .announce) (gone : launch.readerGone) :
      Step launch .supervisor { launch with phase := .brokenPipe }
  /-- The launcher has been started with `SIGPIPE` ignored. -/
  | announceLost (phase : launch.phase = .announce) (gone : launch.readerGone) :
      Step launch .supervisor { launch with phase := .closeReady }
  | reports {stage : FailureStage} (phase : launch.phase = .report stage)
      (there : ¬launch.readerGone) :
      Step launch .supervisor
        { launch with phase := .ended stage.exitCode, content := some (.startFailed stage) }
  | reportLost {stage : FailureStage} (phase : launch.phase = .report stage)
      (gone : launch.readerGone) :
      Step launch .supervisor { launch with phase := .ended stage.exitCode }
  /-- The child ends by itself. -/
  | debianEnds : Step launch .debian { launch with debian := false }

end DawnShell.Launcher.Readiness
