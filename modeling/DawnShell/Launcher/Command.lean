/-
Module: DawnShell.Launcher.Command
Layer: Launcher
Purpose: The invocations of the launcher as programs: start, stop, force-stop and the commands that only
  probe the lock.  A phase says what an invocation does next and holds its locals.  What a system call
  does outside the invocation is left to `DawnShell.Launcher.World`; here is what the invocation goes on
  with.
Trusted boundary: faithful model of bfu_namespace_probe.c:3833-3883, 4127-4142 (the probes), 4488-4528,
  4553-4636, 4646-4721 and 4735-4833.  An invocation's own process is not in the table.  A deadline may
  pass at any time.  `getpgid` and the group signal it guards are one step.
Main exports: Target, Target.hits, Command, Command.holds, Command.cleansSince, Command.taken,
  Command.blocked, Command.unlocked, Command.kills, Command.terminates, Command.Moves
-/
import DawnShell.Launcher.Process

namespace DawnShell.Launcher

/-- The first argument of `kill`. -/
inductive Target where
  | process (pid : Pid)
  | group (pid : Pid)
  /-- The group signal of `signal_compat_service`, sent if the process leads its group. -/
  | ownGroup (pid : Pid)
deriving DecidableEq, Repr

/-- The signals of `signal_compat_service`. -/
def compatTargets (pid : Pid) : List Target := [.process pid, .ownGroup pid]

/-- The signals that end the Debian process of a record. -/
def debianTargets (state : LauncherState) : List Target :=
  match state.launchMode with
  | .compat => compatTargets state.init.pid
  | .systemd => [.process state.init.pid]

/-- A signal to the target reaches the process at this pid. -/
def Target.hits (table : ProcessTable) (pid : Pid) (process : Process) : Target → Bool
  | .process target => pid == target
  | .group target => process.group == target
  | .ownGroup target =>
      process.group == target && (table target).any fun leader => leader.group == target

/-- The order of `terminate_delegated_processes`: the lowest pid comes last. -/
def lowestLast (found : List Pid) : List Pid :=
  match found.min? with
  | none => []
  | some lowest => found.erase lowest ++ [lowest]

/-! ### Phases -/

/-- `run_start` from its first `flock` on. -/
inductive StartPhase where
  | tryLock
  | readBlocked
  | checkBlocked (state : LauncherState) (remaining : List IdentityCheck)
  | read
  | check (state : LauncherState) (remaining : List IdentityCheck)
  | scan (position : Pid) (found : List Pid)
  | refuse (code : Int)
  | fork
  | closeLock
  | awaitReady

/-- `run_stop` from its first `flock` on. -/
inductive StopPhase where
  | tryLock
  | readOrphan
  | checkOrphan (state : LauncherState) (remaining : List IdentityCheck)
  | unlock (orphan : Option LauncherState)
  | signalOrphan (state : LauncherState)
  | pollOrphan (state : LauncherState) (remaining : List IdentityCheck)
  | killOrphan (pending : List Target)
  | read
  | check (state : LauncherState) (remaining : List IdentityCheck)
  | signal (supervisor : Pid)
  | wait
  | unlockStopped

/-- What `run_force_stop` has found out before its first `flock`. -/
structure ForcePlan where
  state : LauncherState
  supervisorValid : Bool
  initValid : Bool

/-- `run_force_stop` behind its last release of the lock. -/
inductive TailStage where
  | killOrphan (pending : List Target)
  | scan (round : Nat) (position : Pid) (found : List Pid)
  | kill (round : Nat) (pending : List Pid)
  | write
  | report

/-- `run_force_stop` from its `read_state` on.  `foundAt` is when it found the lock free. -/
inductive ForcePhase where
  | read
  | checkSupervisor (state : LauncherState) (remaining : List IdentityCheck)
  | checkInit (state : LauncherState) (supervisorValid : Bool) (remaining : List IdentityCheck)
  | tryLock (plan : ForcePlan)
  | unlock (plan : ForcePlan) (foundAt : Nat)
  | checkSession (plan : ForcePlan)
  | killInit (plan : ForcePlan) (pending : List Target)
  | killGroup (plan : ForcePlan)
  | wait (plan : ForcePlan)
  | unlockWaited (plan : ForcePlan) (foundAt : Nat)
  | tail (foundAt : Nat) (final : LauncherState) (stage : TailStage)

/-- `run_status` and the lock probe of `run_health`: the lock is taken, the state is inspected, the lock
is given back. -/
inductive ProbePhase where
  | tryLock
  | inspect

/-- An invocation of the launcher. -/
inductive Command where
  | absent
  | start (phase : StartPhase)
  | stop (phase : StopPhase)
  | forceStop (phase : ForcePhase)
  | probe (phase : ProbePhase)
  | finished (code : Int)

/-- The invocation has taken the lock and not given it back. -/
def Command.holds : Command → Bool
  | .start .read | .start (.check ..) | .start (.scan ..) | .start (.refuse _) | .start .fork
  | .start .closeLock => true
  | .stop .readOrphan | .stop (.checkOrphan ..) | .stop (.unlock _) | .stop .unlockStopped => true
  | .forceStop (.unlock ..) | .forceStop (.unlockWaited ..) => true
  | .probe .inspect => true
  | _ => false

/-- When a force-stop found the lock free, until it has written its final state. -/
def Command.cleansSince : Command → Option Nat
  | .forceStop (.unlock _ foundAt) | .forceStop (.unlockWaited _ foundAt) => some foundAt
  | .forceStop (.tail _ _ .report) => none
  | .forceStop (.tail foundAt _ _) => some foundAt
  | _ => none

/-! ### The lock -/

/-- What follows a `flock` that succeeds at the given time. -/
def Command.taken (time : Nat) : Command → Option Command
  | .start .tryLock => some (.start .read)
  | .stop .tryLock => some (.stop .readOrphan)
  | .stop .wait => some (.stop .unlockStopped)
  | .forceStop (.tryLock plan) => some (.forceStop (.unlock plan time))
  | .forceStop (.wait plan) => some (.forceStop (.unlockWaited plan time))
  | .probe .tryLock => some (.probe .inspect)
  | _ => none

/-- What follows a `flock` that would block. -/
def Command.blocked : Command → Option Command
  | .start .tryLock => some (.start .readBlocked)
  | .stop .tryLock => some (.stop .read)
  | .stop .wait => some (.stop .wait)
  | .forceStop (.tryLock plan) =>
      some (if plan.supervisorValid then .forceStop (.checkSession plan) else .finished 129)
  | .forceStop (.wait plan) => some (.forceStop (.wait plan))
  | .probe .tryLock => some (.finished 0)
  | _ => none

/-- The code returned when `flock` fails for another reason. -/
def Command.lockError : Command → Option Int
  | .start .tryLock => some 88
  | .stop .tryLock => some 95
  | .stop .wait => some 98
  | .forceStop (.tryLock _) => some 128
  | .forceStop (.wait _) => some 132
  | .probe .tryLock => some 83
  | _ => none

/-- The state a force-stop leaves behind when it found the lock free at once. -/
def ForcePlan.finalFree (_ : ForcePlan) : LauncherState := initializeState .forceStopped

/-- The state a force-stop leaves behind when it had to kill the supervisor. -/
def ForcePlan.finalKilled (plan : ForcePlan) : LauncherState :=
  { initializeState .forceStopped with
    supervisor := { pid := plan.state.supervisor.pid }
    init := { pid := if plan.initValid then plan.state.init.pid else 0 }
    waitStatus := 9 }

/-- What follows `flock` with `LOCK_UN`, or the `close` of a failing start. -/
def Command.unlocked : Command → Option Command
  | .start (.refuse code) => some (.finished code)
  | .stop (.unlock none) => some (.finished 0)
  | .stop (.unlock (some state)) => some (.stop (.signalOrphan state))
  | .stop .unlockStopped => some (.finished 0)
  | .forceStop (.unlock plan foundAt) =>
      some (.forceStop (.tail foundAt plan.finalFree
        (.killOrphan (if plan.initValid then debianTargets plan.state else []))))
  | .forceStop (.unlockWaited plan foundAt) =>
      some (.forceStop (.tail foundAt plan.finalKilled (.scan 0 0 [])))
  | .probe .inspect => some (.finished 0)
  | _ => none

/-! ### Signals -/

/-- The target of the next `SIGKILL`, and what follows it. -/
def Command.kills : Command → Option (Target × Command)
  | .stop (.killOrphan (target :: pending)) => some (target, .stop (.killOrphan pending))
  | .forceStop (.killInit plan (target :: pending)) =>
      some (target, .forceStop (.killInit plan pending))
  | .forceStop (.killGroup plan) =>
      some (.group plan.state.supervisor.pid, .forceStop (.wait plan))
  | .forceStop (.tail foundAt final (.killOrphan (target :: pending))) =>
      some (target, .forceStop (.tail foundAt final (.killOrphan pending)))
  | .forceStop (.tail foundAt final (.kill round (pid :: pending))) =>
      some (.process pid, .forceStop (.tail foundAt final (.kill round pending)))
  | _ => none

/-- The target of a signal that asks a process to stop, and what follows it. -/
def Command.terminates : Command → Option (Pid × Command)
  | .stop (.signalOrphan state) =>
      some (state.init.pid, .stop (.pollOrphan state (state.debianChecks.getD [])))
  | .stop (.signal supervisor) => some (supervisor, .stop .wait)
  | _ => none

/-! ### Looking around -/

/-- One look at a pid. -/
def look (table : ProcessTable) (pid : Pid) (check : IdentityCheck) : Bool :=
  (table pid).any check

/-- `process_in_delegated_cgroup`.  The control group of a zombie may be shown or not. -/
inductive ScanHits (table : ProcessTable) (position : Pid) : Prop where
  | hit (process : Process) (present : table position = some process)
      (delegated : process.delegated = true) (large : 1 < position)

inductive ScanMisses (table : ProcessTable) (position : Pid) : Prop where
  | small (small : position ≤ 1)
  | absent (absent : table position = none)
  | apart (process : Process) (present : table position = some process)
      (apart : process.delegated = false ∨ process.alive = false)

/-- The end of the directory, or a full array. -/
def ScanEnds (table : ProcessTable) (capacity : Nat) (position : Pid) (found : List Pid) : Prop :=
  capacity ≤ found.length ∨ ∀ pid, position ≤ pid → table pid = none

/-- What `collect_delegated_processes` does at one position of its walk. -/
inductive ScanStep (table : ProcessTable) (capacity : Nat) :
    Pid → List Pid → Pid → List Pid → Prop where
  | hit {position : Pid} {found : List Pid} (room : found.length < capacity)
      (hits : ScanHits table position) :
      ScanStep table capacity position found (position + 1) (found ++ [position])
  | miss {position : Pid} {found : List Pid} (room : found.length < capacity)
      (misses : ScanMisses table position) :
      ScanStep table capacity position found (position + 1) found

/-- What follows a scan of `terminate_delegated_processes`. -/
def afterScan (foundAt : Nat) (final : LauncherState) (round : Nat) (found : List Pid) : Command :=
  if found = [] then .forceStop (.tail foundAt final .write)
  else if round < 5 then .forceStop (.tail foundAt final (.kill round (lowestLast found)))
  else .finished 134

/-- `run_force_stop` when the supervisor of the record has been looked at. -/
def forceInit (state : LauncherState) (supervisorValid : Bool) : Command :=
  match state.debianChecks with
  | some checks => .forceStop (.checkInit state supervisorValid checks)
  | none => .forceStop (.tryLock ⟨state, supervisorValid, false⟩)

/-- The steps of an invocation that change nothing but its own phase. -/
inductive Command.Moves (table : ProcessTable) (file : Option LauncherState) :
    Command → Command → Prop where
  | startReadBlocked : Moves table file (.start .readBlocked)
      (match file with
        | some state => if state.supervisor.complete
            then .start (.checkBlocked state (supervisorChecks state)) else .finished 87
        | none => .finished 87)
  | startCheckBlocked {state : LauncherState} {check : IdentityCheck}
      {remaining : List IdentityCheck} :
      Moves table file (.start (.checkBlocked state (check :: remaining)))
        (if look table state.supervisor.pid check then .start (.checkBlocked state remaining)
          else .finished 87)
  | startBlocked {state : LauncherState} :
      Moves table file (.start (.checkBlocked state [])) (.finished 0)
  | startRead : Moves table file (.start .read)
      (match file with
        | some state => match state.debianChecks with
            | some checks => .start (.check state checks)
            | none => .start (.scan 0 [])
        | none => .start (.scan 0 []))
  | startCheck {state : LauncherState} {check : IdentityCheck} {remaining : List IdentityCheck} :
      Moves table file (.start (.check state (check :: remaining)))
        (if look table state.init.pid check then .start (.check state remaining)
          else .start (.scan 0 []))
  | startOrphan {state : LauncherState} :
      Moves table file (.start (.check state [])) (.start (.refuse 89))
  | startScan {position next : Pid} {found more : List Pid}
      (step : ScanStep table 4 position found next more) :
      Moves table file (.start (.scan position found)) (.start (.scan next more))
  | startScanned {position : Pid} {found : List Pid} (ends : ScanEnds table 4 position found) :
      Moves table file (.start (.scan position found))
        (if found = [] then .start .fork else .start (.refuse 89))
  /-- `pipe` fails, or `fork` does. -/
  | startFails {code : Int} (failed : code = 89 ∨ code = 90) :
      Moves table file (.start .fork) (.start (.refuse code))
  | startClosed : Moves table file (.start .closeLock) (.start .awaitReady)
  | startReturns {code : Int} : Moves table file (.start .awaitReady) (.finished code)
  | stopReadOrphan : Moves table file (.stop .readOrphan)
      (match file with
        | some state => match state.debianChecks with
            | some checks => .stop (.checkOrphan state checks)
            | none => .stop (.unlock none)
        | none => .stop (.unlock none))
  | stopCheckOrphan {state : LauncherState} {check : IdentityCheck}
      {remaining : List IdentityCheck} :
      Moves table file (.stop (.checkOrphan state (check :: remaining)))
        (if look table state.init.pid check then .stop (.checkOrphan state remaining)
          else .stop (.unlock none))
  | stopOrphan {state : LauncherState} :
      Moves table file (.stop (.checkOrphan state [])) (.stop (.unlock (some state)))
  | stopPoll {state : LauncherState} {check : IdentityCheck} {remaining : List IdentityCheck} :
      Moves table file (.stop (.pollOrphan state (check :: remaining)))
        (if look table state.init.pid check then .stop (.pollOrphan state remaining)
          else .finished 0)
  /-- The orphan goes away between the deadline and the last look. -/
  | stopPollLate {state : LauncherState} {check : IdentityCheck} {remaining : List IdentityCheck}
      (gone : look table state.init.pid check = false) :
      Moves table file (.stop (.pollOrphan state (check :: remaining))) (.finished 95)
  | stopPollAgain {state : LauncherState} :
      Moves table file (.stop (.pollOrphan state []))
        (.stop (.pollOrphan state (state.debianChecks.getD [])))
  | stopPollTimeout {state : LauncherState} :
      Moves table file (.stop (.pollOrphan state [])) (.stop (.killOrphan (debianTargets state)))
  | stopKilled : Moves table file (.stop (.killOrphan [])) (.finished 95)
  | stopRead : Moves table file (.stop .read)
      (match file with
        | some state => if state.supervisor.complete
            then .stop (.check state (supervisorChecks state)) else .finished 96
        | none => .finished 96)
  | stopCheck {state : LauncherState} {check : IdentityCheck} {remaining : List IdentityCheck} :
      Moves table file (.stop (.check state (check :: remaining)))
        (if look table state.supervisor.pid check then .stop (.check state remaining)
          else .finished 96)
  | stopValid {state : LauncherState} :
      Moves table file (.stop (.check state [])) (.stop (.signal state.supervisor.pid))
  | stopSignalFails {supervisor : Pid} (gone : table supervisor = none) :
      Moves table file (.stop (.signal supervisor)) (.finished 97)
  | stopOrphanFails {state : LauncherState} (gone : table state.init.pid = none)
      (systemd : state.launchMode = .systemd) :
      Moves table file (.stop (.signalOrphan state)) (.finished 95)
  | stopOrphanGone {state : LauncherState} (gone : table state.init.pid = none)
      (compat : state.launchMode = .compat) :
      Moves table file (.stop (.signalOrphan state))
        (.stop (.pollOrphan state (state.debianChecks.getD [])))
  | stopTimeout : Moves table file (.stop .wait) (.finished 99)
  | forceRead : Moves table file (.forceStop .read)
      (match file with
        | some state => if state.supervisor.complete
            then .forceStop (.checkSupervisor state (supervisorChecks state))
            else forceInit state false
        | none => .forceStop (.tryLock ⟨initializeState .unknown, false, false⟩))
  | forceCheckSupervisor {state : LauncherState} {check : IdentityCheck}
      {remaining : List IdentityCheck} :
      Moves table file (.forceStop (.checkSupervisor state (check :: remaining)))
        (if look table state.supervisor.pid check
          then .forceStop (.checkSupervisor state remaining)
          else forceInit state false)
  | forceSupervisorValid {state : LauncherState} :
      Moves table file (.forceStop (.checkSupervisor state []))
        (forceInit state true)
  | forceCheckInit {state : LauncherState} {supervisorValid : Bool} {check : IdentityCheck}
      {remaining : List IdentityCheck} :
      Moves table file (.forceStop (.checkInit state supervisorValid (check :: remaining)))
        (if look table state.init.pid check
          then .forceStop (.checkInit state supervisorValid remaining)
          else .forceStop (.tryLock ⟨state, supervisorValid, false⟩))
  | forceInitValid {state : LauncherState} {supervisorValid : Bool} :
      Moves table file (.forceStop (.checkInit state supervisorValid []))
        (.forceStop (.tryLock ⟨state, supervisorValid, true⟩))
  | forceSession {plan : ForcePlan} :
      Moves table file (.forceStop (.checkSession plan))
        (if look table plan.state.supervisor.pid (fun process =>
            process.session == plan.state.supervisor.pid &&
              process.group == plan.state.supervisor.pid)
          then .forceStop (.killInit plan
            (if plan.initValid then debianTargets plan.state else []))
          else .finished 129)
  | forceInitKilled {plan : ForcePlan} :
      Moves table file (.forceStop (.killInit plan [])) (.forceStop (.killGroup plan))
  | forceTimeout {plan : ForcePlan} :
      Moves table file (.forceStop (.wait plan)) (.finished 133)
  | tailOrphanKilled {foundAt : Nat} {final : LauncherState} :
      Moves table file (.forceStop (.tail foundAt final (.killOrphan [])))
        (.forceStop (.tail foundAt final (.scan 0 0 [])))
  | tailScan {foundAt round : Nat} {final : LauncherState} {position next : Pid}
      {found more : List Pid} (step : ScanStep table 512 position found next more) :
      Moves table file (.forceStop (.tail foundAt final (.scan round position found)))
        (.forceStop (.tail foundAt final (.scan round next more)))
  | tailScanned {foundAt round : Nat} {final : LauncherState} {position : Pid} {found : List Pid}
      (ends : ScanEnds table 512 position found) :
      Moves table file (.forceStop (.tail foundAt final (.scan round position found)))
        (afterScan foundAt final round found)
  | tailKilled {foundAt round : Nat} {final : LauncherState} :
      Moves table file (.forceStop (.tail foundAt final (.kill round [])))
        (.forceStop (.tail foundAt final (.scan (round + 1) 0 [])))
  /-- `write_state` fails, which is ignored. -/
  | tailWriteFails {foundAt : Nat} {final : LauncherState} :
      Moves table file (.forceStop (.tail foundAt final .write))
        (.forceStop (.tail foundAt final .report))
  | lockFails {command : Command} {code : Int} (fails : command.lockError = some code) :
      Moves table file command (.finished code)

end DawnShell.Launcher
