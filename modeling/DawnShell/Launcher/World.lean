/-
Module: DawnShell.Launcher.World
Layer: Launcher
Purpose: Invocations, supervisors and the processes of Debian as they interleave, one system call at a
  time, over the lock file, the state file and the process table.  A supervisor may be killed at any
  moment, a Debian process may end at any moment, and unrelated processes come and go.
Trusted boundary: faithful model of bfu_namespace_probe.c:2572-2594, 3092-3192 (what the forked processes
  do to their descriptors, groups and control groups), 3313-3502 and 3504-3804.  `SIGKILL` takes effect at
  once; a pid is given out again only when its last owner has been waited for; a process that has executed
  its program keeps what `/proc` shows of it.  The lock is that of `flock`: it belongs to one open file
  description and is gone when the last descriptor of it is closed.
Main exports: World, World.Free, RowMoves, Label, Step, World.initial
-/
import DawnShell.Launcher.Command
import DawnShell.Lib.Transition

namespace DawnShell.Launcher

/-- The machine as far as the launcher is concerned.  An invocation's number is also the number of the
open file description it has made of the lock file. -/
@[ext]
structure World where
  table : ProcessTable := fun _ => none
  commands : Nat → Command := fun _ => .absent
  /-- The description that has taken the lock last and not given it back. -/
  lock : Option Nat := none
  file : Option LauncherState := none
  /-- How many times the lock has been taken. -/
  clock : Nat := 0
  /-- When each invocation took it last. -/
  takenAt : Nat → Nat := fun _ => 0

/-- A process keeps a description open. -/
def ProcessTable.keepsOpen (table : ProcessTable) (description : Nat) : Prop :=
  ∃ pid process, table pid = some process ∧ process.alive = true ∧ process.lockFd = true ∧
    process.launch = description

/-- Nobody has the lock. -/
def World.Free (world : World) : Prop :=
  ∀ description, world.lock = some description →
    (world.commands description).holds = false ∧ ¬world.table.keepsOpen description

/-- The processes a signal reaches are killed. -/
def ProcessTable.killWhere (table : ProcessTable) (hit : Pid → Process → Bool) : ProcessTable :=
  fun pid => (table pid).map fun process => if hit pid process then process.dead else process

/-- `SIGKILL` to everything a target reaches. -/
def ProcessTable.sigkill (table : ProcessTable) (target : Target) : ProcessTable :=
  table.killWhere fun pid process => target.hits table pid process

/-! ### What a process does to its own row -/

/-- The record of a supervisor after `read_proc_start_ticks` and `read_proc_exe_identity` of itself. -/
def ownState (pid : Pid) (process : Process) : LauncherState :=
  { initializeState .starting with
    supervisor := ⟨pid, process.startTicks, process.exeDev, process.exeIno⟩ }

/-- The record of a supervisor after it has captured the identity of its child. -/
def captured (state : LauncherState) (child : Process) : LauncherState :=
  { state with
    state := .running
    init := { state.init with exeDev := child.exeDev, exeIno := child.exeIno }
    initNamespaces := child.namespaces }

/-- The steps of a supervisor that change nothing but its locals. -/
inductive Supervisor.Moves (table : ProcessTable) (pid : Pid) (process : Process) :
    Supervisor → Supervisor → Prop where
  | identity {locals : Supervisor} (phase : locals.phase = .identity) :
      Moves table pid process locals
        { locals with phase := .writeStarting, state := ownState pid process }
  /-- The first write must succeed; the later ones need not. -/
  | writeFails {locals : Supervisor} {next : SupervisorPhase}
      (phases : (locals.phase, next) ∈
        [(.writeStarting, .exit), (.writeMode, .forkChild), (.writeChild, .awaitExec),
          (.writeRunning, .loop false), (.writeStopping, .loop true), (.writeFailed, .exit),
          (.writeStopped, .closeLock)]) :
      Moves table pid process locals { locals with phase := next }
  | helpersReady {locals : Supervisor} (phase : locals.phase = .helpers) :
      Moves table pid process locals { locals with phase := .namespaces }
  | namespaces {locals : Supervisor} (mode : LaunchMode) (phase : locals.phase = .namespaces) :
      Moves table pid process locals
        { locals with
          phase := .writeMode
          mode := mode
          state := { locals.state with launchMode := mode } }
  /-- `setsid`, the log, the signals, the identity, the helpers, the namespaces or a fork fails. -/
  | failsEarly {locals : Supervisor}
      (phase : locals.phase ∈ [.setsid, .identity, .helpers, .namespaces, .forkChild]) :
      Moves table pid process locals { locals with phase := .exit }
  | readTicks {locals : Supervisor} {child : Process} (phase : locals.phase = .readTicks)
      (present : table locals.child = some child) :
      Moves table pid process locals
        { locals with
          phase := .writeChild
          state := { locals.state with
            init := { locals.state.init with
              pid := locals.child, startTicks := child.startTicks } } }
  /-- The start time could not be read in twenty attempts, which is ignored. -/
  | readTicksFails {locals : Supervisor} (phase : locals.phase = .readTicks) :
      Moves table pid process locals
        { locals with
          phase := .writeChild
          state := { locals.state with init := { locals.state.init with pid := locals.child } } }
  /-- The pipe of the child is closed: it has executed its program or is gone. -/
  | executed {locals : Supervisor} (phase : locals.phase = .awaitExec)
      (closed : ∀ child, table locals.child = some child → child.alive = true →
        child.role = .debian locals.mode true) :
      Moves table pid process locals { locals with phase := .grace }
  | survives {locals : Supervisor} (phase : locals.phase = .grace) :
      Moves table pid process locals { locals with phase := .capture }
  | captures {locals : Supervisor} {child : Process} (phase : locals.phase = .capture)
      (present : table locals.child = some child) (alive : child.alive = true) :
      Moves table pid process locals
        { locals with phase := .writeRunning, state := captured locals.state child }
  /-- The child reports a failure or nothing in time, its liveness or its identity cannot be read, or
  its namespaces are wrong. -/
  | failsLate {locals : Supervisor} {waitStatus : Int}
      (phases : (locals.phase, waitStatus) ∈
        [(.awaitExec, 80), (.grace, 81), (.capture, 82)]) :
      Moves table pid process locals { locals with phase := .killChild waitStatus }
  /-- The child is asked to stop. -/
  | stops {locals : Supervisor} (phase : locals.phase = .loop false)
      (requested : locals.stopRequested = true) :
      Moves table pid process locals
        { locals with
          phase := .writeStopping
          state := { locals.state with state := .stopping } }

/-- The steps of a process that change nothing but its own row. -/
inductive RowMoves (table : ProcessTable) (pid : Pid) (process : Process) : Process → Prop where
  | supervisor {locals next : Supervisor} (role : process.role = .supervisor locals)
      (moves : Supervisor.Moves table pid process locals next) :
      RowMoves table pid process { process with role := .supervisor next }
  | setsid {locals : Supervisor} (role : process.role = .supervisor locals)
      (phase : locals.phase = .setsid) :
      RowMoves table pid process
        { process with
          role := .supervisor { locals with phase := .identity }
          group := pid
          session := pid }
  | supervisorCloses {locals : Supervisor} (role : process.role = .supervisor locals)
      (phase : locals.phase = .closeLock) :
      RowMoves table pid process
        { process with role := .supervisor { locals with phase := .exit }, lockFd := false }
  | supervisorExits {locals : Supervisor} (role : process.role = .supervisor locals)
      (phase : locals.phase = .exit) : RowMoves table pid process process.dead
  /-- A Debian process or a helper closes the descriptor it has inherited. -/
  | closesLock (child : ∀ locals, process.role ≠ .supervisor locals) :
      RowMoves table pid process { process with lockFd := false }
  | joins (role : process.role = .debian .systemd false) (closed : process.lockFd = false) :
      RowMoves table pid process { process with delegated := true }
  | executes {mode : LaunchMode} (exeDev exeIno : UInt64) (namespaces : Namespaces)
      (role : process.role = .debian mode false) (closed : process.lockFd = false)
      (joined : mode = .systemd → process.delegated = true)
      (grouped : mode = .compat → process.group = pid) :
      RowMoves table pid process
        { process with role := .debian mode true, exeDev, exeIno, namespaces }
  /-- systemd makes itself the leader of a session. -/
  | systemdSession (role : process.role = .debian .systemd true) :
      RowMoves table pid process { process with group := pid, session := pid }
  /-- A process that is no supervisor ends. -/
  | ends (child : ∀ locals, process.role ≠ .supervisor locals) :
      RowMoves table pid process process.dead

/-- A row with which a fork begins. -/
structure Process.Fresh (process : Process) (launch : Nat) (role : Role) : Prop where
  launch : process.launch = launch
  role : process.role = role
  alive : process.alive = true

/-- What a supervisor writes next, and how it goes on. -/
def Supervisor.writes (locals : Supervisor) : Option Supervisor :=
  match locals.phase with
  | .writeStarting => some { locals with phase := .helpers, recorded := true }
  | .writeMode => some { locals with phase := .forkChild }
  | .writeChild => some { locals with phase := .awaitExec }
  | .writeRunning => some { locals with phase := .loop false }
  | .writeStopping => some { locals with phase := .loop true }
  | .writeFailed => some { locals with phase := .exit }
  | .writeStopped => some { locals with phase := .closeLock }
  | _ => none

/-- Where a supervisor goes on after `fork`. -/
def Supervisor.forked (locals : Supervisor) (child : Pid) : Supervisor :=
  { locals with
    phase := match locals.mode with
      | .compat => .setGroup
      | .systemd => .readTicks
    child }

/-- Where a supervisor goes on after it has sent `SIGKILL` to its child; in the loop it waits for it. -/
def Supervisor.killed (locals : Supervisor) : Option Supervisor :=
  match locals.phase with
  | .killChild waitStatus =>
      some { locals with
        phase := .writeFailed
        state := { locals.state with state := .failed, waitStatus } }
  | .loop true => some locals
  | _ => none

/-- Where a supervisor goes on after it has waited for its child. -/
def Supervisor.reaped (locals : Supervisor) (waitStatus : Int) : Option Supervisor :=
  match locals.phase with
  | .grace =>
      some { locals with
        phase := .writeFailed
        state := { locals.state with state := .failed, waitStatus := 81 } }
  | .loop _ =>
      some { locals with
        phase := .writeStopped
        state := { locals.state with state := .stopped, waitStatus } }
  | _ => none

/-- The processes a supervisor kills with its child. -/
def Supervisor.strikes (locals : Supervisor) (table : ProcessTable) (pid : Pid)
    (process : Process) : Bool :=
  match locals.mode with
  | .compat => (compatTargets locals.child).any (·.hits table pid process)
  | .systemd => (Target.process locals.child).hits table pid process

/-- The phases in which a supervisor may have a live child. -/
def SupervisorPhase.hasChild : SupervisorPhase → Bool
  | .setGroup | .readTicks | .writeChild | .awaitExec | .grace | .capture | .writeRunning | .loop _
  | .writeStopping | .killChild _ => true
  | _ => false

/-- A request to stop reaches a process.  A supervisor takes note of it, or ends of it when it has not
set its handlers; what others make of it is left to them. -/
inductive Requested (process : Process) : Process → Prop where
  | noted {locals : Supervisor} (role : process.role = .supervisor locals) :
      Requested process
        { process with role := .supervisor { locals with stopRequested := true } }
  | early {locals : Supervisor} (role : process.role = .supervisor locals)
      (phase : locals.phase = .setsid ∨ locals.phase = .identity) :
      Requested process process.dead
  | ignored (child : process.alive = false ∨ ∀ locals, process.role ≠ .supervisor locals) :
      Requested process process

/-! ### Steps -/

inductive Label where
  | begin (invocation : Nat)
  | move (invocation : Nat)
  | take (invocation : Nat)
  | blocked (invocation : Nat)
  | unlock (invocation : Nat)
  | fork (invocation : Nat) (supervisor : Pid)
  | kill (invocation : Nat) (target : Target)
  | terminate (invocation : Nat) (pid : Pid)
  | write (invocation : Nat)
  | returns (invocation : Nat)
  | row (pid : Pid)
  | leaveGroup (pid : Pid)
  | setGroup (supervisor : Pid)
  | writeState (supervisor : Pid)
  | forkHelper (parent : Pid) (child : Pid)
  | forkDebian (supervisor : Pid) (child : Pid)
  | killChild (supervisor : Pid)
  | reap (supervisor : Pid)
  | reapOrphan (pid : Pid)
  | appear (pid : Pid)
  | strike (supervisor : Pid)

/-- The beginnings of invocations. -/
def Command.first : Command → Bool
  | .start .tryLock | .stop .tryLock | .forceStop .read | .probe .tryLock => true
  | _ => false

/-- One system call of one process. -/
inductive Step (world : World) : Label → World → Prop where
  | begin {invocation : Nat} {command : Command} (unused : world.commands invocation = .absent)
      (first : command.first = true) :
      Step world (.begin invocation)
        { world with commands := Function.update world.commands invocation command }
  | move {invocation : Nat} {next : Command}
      (moves : Command.Moves world.table world.file (world.commands invocation) next) :
      Step world (.move invocation)
        { world with commands := Function.update world.commands invocation next }
  | take {invocation : Nat} {next : Command}
      (takes : (world.commands invocation).taken (world.clock + 1) = some next)
      (free : world.Free) :
      Step world (.take invocation)
        { world with
          commands := Function.update world.commands invocation next
          lock := some invocation
          clock := world.clock + 1
          takenAt := Function.update world.takenAt invocation (world.clock + 1) }
  | blocked {invocation : Nat} {next : Command}
      (blocked : (world.commands invocation).blocked = some next) (held : ¬world.Free) :
      Step world (.blocked invocation)
        { world with commands := Function.update world.commands invocation next }
  | unlock {invocation : Nat} {next : Command}
      (unlocks : (world.commands invocation).unlocked = some next) :
      Step world (.unlock invocation)
        { world with
          commands := Function.update world.commands invocation next
          lock := if world.lock = some invocation then none else world.lock }
  | fork {invocation : Nat} {pid : Pid} {process : Process}
      (forks : world.commands invocation = .start .fork) (unused : world.table pid = none)
      (large : 1 < pid) (fresh : process.Fresh invocation (.supervisor {}))
      (inherits : process.lockFd = true) (apart : process.delegated = false) :
      Step world (.fork invocation pid)
        { world with
          commands := Function.update world.commands invocation (.start .closeLock)
          table := Function.update world.table pid (some process) }
  | kill {invocation : Nat} {target : Target} {next : Command}
      (kills : (world.commands invocation).kills = some (target, next)) :
      Step world (.kill invocation target)
        { world with
          commands := Function.update world.commands invocation next
          table := world.table.sigkill target }
  | terminate {invocation : Nat} {pid : Pid} {next : Command} {process asked : Process}
      (terminates : (world.commands invocation).terminates = some (pid, next))
      (present : world.table pid = some process) (requested : Requested process asked) :
      Step world (.terminate invocation pid)
        { world with
          commands := Function.update world.commands invocation next
          table := Function.update world.table pid (some asked) }
  | write {invocation foundAt : Nat} {final : LauncherState}
      (writes : world.commands invocation = .forceStop (.tail foundAt final .write)) :
      Step world (.write invocation)
        { world with
          commands := Function.update world.commands invocation
            (.forceStop (.tail foundAt final .report))
          file := some final }
  | returns {invocation foundAt : Nat} {final : LauncherState}
      (reports : world.commands invocation = .forceStop (.tail foundAt final .report)) :
      Step world (.returns invocation)
        { world with commands := Function.update world.commands invocation (.finished 0) }
  | row {pid : Pid} {process next : Process} (present : world.table pid = some process)
      (alive : process.alive = true) (moves : RowMoves world.table pid process next) :
      Step world (.row pid)
        { world with table := Function.update world.table pid (some next) }
  /-- `setpgid` of the compat service on itself. -/
  | leaveGroup {pid : Pid} {process : Process} (present : world.table pid = some process)
      (alive : process.alive = true) (role : process.role = .debian .compat false)
      (closed : process.lockFd = false) :
      Step world (.leaveGroup pid)
        { world with
          table := Function.update world.table pid (some { process with group := pid }) }
  /-- `setpgid` of the supervisor on the compat service; it does nothing to a service that has executed
  its program or is gone. -/
  | setGroup {pid : Pid} {process child : Process} {locals : Supervisor}
      (present : world.table pid = some process) (alive : process.alive = true)
      (role : process.role = .supervisor locals) (phase : locals.phase = .setGroup)
      (found : world.table locals.child = some child) (different : locals.child ≠ pid) :
      Step world (.setGroup pid)
        { world with
          table := Function.update
            (Function.update world.table pid
              (some { process with role := .supervisor { locals with phase := .readTicks } }))
            locals.child
            (some (if child.role = .debian .compat false
              then { child with group := locals.child } else child)) }
  | writeState {pid : Pid} {process : Process} {locals next : Supervisor}
      (present : world.table pid = some process) (alive : process.alive = true)
      (role : process.role = .supervisor locals) (writes : locals.writes = some next) :
      Step world (.writeState pid)
        { world with
          table := Function.update world.table pid
            (some { process with role := .supervisor next })
          file := some locals.state }
  /-- A supervisor forks the network manager or a `systemctl` helper, Debian forks what it runs. -/
  | forkHelper {parent pid : Pid} {process child : Process}
      (present : world.table parent = some process) (alive : process.alive = true)
      (launched : process.role ≠ .other) (unused : world.table pid = none) (large : 1 < pid)
      (fresh : child.Fresh process.launch .helper) (inherits : child.lockFd = process.lockFd)
      (together : child.delegated = process.delegated) :
      Step world (.forkHelper parent pid)
        { world with table := Function.update world.table pid (some child) }
  | forkDebian {parent pid : Pid} {process child : Process} {locals : Supervisor}
      (present : world.table parent = some process) (alive : process.alive = true)
      (role : process.role = .supervisor locals) (phase : locals.phase = .forkChild)
      (unused : world.table pid = none) (large : 1 < pid)
      (fresh : child.Fresh process.launch (.debian locals.mode false))
      (inherits : child.lockFd = process.lockFd) (apart : child.delegated = false)
      (grouped : child.group = process.group) :
      Step world (.forkDebian parent pid)
        { world with
          table := Function.update
            (Function.update world.table parent
              (some { process with role := .supervisor (locals.forked pid) }))
            pid (some child) }
  /-- The signals of a supervisor never reach its own group. -/
  | killChild {pid : Pid} {process : Process} {locals next : Supervisor}
      (present : world.table pid = some process) (alive : process.alive = true)
      (role : process.role = .supervisor locals) (kills : locals.killed = some next) :
      Step world (.killChild pid)
        { world with
          table := Function.update (world.table.killWhere (locals.strikes world.table)) pid
            (some { process with role := .supervisor next }) }
  | reap {pid : Pid} {process child : Process} {locals next : Supervisor} {waitStatus : Int}
      (present : world.table pid = some process) (alive : process.alive = true)
      (role : process.role = .supervisor locals)
      (reaped : locals.reaped waitStatus = some next)
      (found : world.table locals.child = some child) (dead : child.alive = false)
      (different : locals.child ≠ pid) :
      Step world (.reap pid)
        { world with
          table := Function.update
            (Function.update world.table pid
              (some { process with role := .supervisor next }))
            locals.child none }
  /-- A zombie that no supervisor is going to wait for is waited for by the system. -/
  | reapOrphan {pid : Pid} {process : Process} (present : world.table pid = some process)
      (dead : process.alive = false)
      (abandoned : ∀ parent supervisor locals, world.table parent = some supervisor →
        supervisor.alive = true → supervisor.role = .supervisor locals →
        locals.phase.hasChild = true → locals.child ≠ pid) :
      Step world (.reapOrphan pid)
        { world with table := Function.update world.table pid none }
  /-- A process that no launch has started. -/
  | appear {pid : Pid} {process : Process} (unused : world.table pid = none)
      (role : process.role = .other) (unlocked : process.lockFd = false) :
      Step world (.appear pid)
        { world with table := Function.update world.table pid (some process) }
  /-- A supervisor is killed from outside. -/
  | strike {pid : Pid} {process : Process} {locals : Supervisor}
      (present : world.table pid = some process) (alive : process.alive = true)
      (role : process.role = .supervisor locals) :
      Step world (.strike pid)
        { world with table := Function.update world.table pid (some process.dead) }

/-- Before the first invocation. -/
def World.initial : World := {}

end DawnShell.Launcher
