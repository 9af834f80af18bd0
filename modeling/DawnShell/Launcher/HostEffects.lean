/-
Module: DawnShell.Launcher.HostEffects
Layer: Launcher
Purpose: What a launch does to Android outside of Debian, and how it is undone: the FIFO for reboot
  requests, the routing rules of the network manager, and the USB interfaces of the exclusive policy.  The
  supervisor is the one of `DawnShell.Launcher.Readiness`; here its steps have their effects on the host,
  the network manager is a process beside it, and a stop or a force-stop ends the launch.
Trusted boundary: faithful model of bfu_namespace_probe.c:2434-2448, 2450-2505, 2507-2570, 2572-2594,
  3485-3501, 3784-3803, 4691-4712 and 4779-4826.  Nobody else adds rules at the priority of the network
  manager, and a deletion succeeds when there is one of its rules; what a route lookup and a rule listing
  answer is left open.  A run of a USB program is one step, against any answers.  A failed start of the
  compat variant asks the network manager to end; here it learns of it by its parent-death signal.  Reboot
  requests are left out.
Main exports: Host.Manager, Host.Shutdown, Host.World, Host.Step, Host.needsHost
-/
import DawnShell.Launcher.Readiness
import DawnShell.Launcher.ExclusiveUsb

namespace DawnShell.Launcher.Host

/-- The address family of a routing rule. -/
inductive Family where
  | v4
  | v6
deriving DecidableEq, Repr

/-- `network_manager_loop`, by what is done next. -/
inductive Manager where
  | absent
  /-- Before its parent-death signal and its handlers are set. -/
  | forked
  | clear (pending : List Family)
  | openFifo
  | report
  | test
  | reconcile (family : Family)
  /-- The pause between two rounds. -/
  | watch
  | close (pending : List Family)
  | unlink
  | exited
deriving DecidableEq, Repr

/-- A supervisor that has left its loop. -/
inductive Shutdown where
  | restore
  | terminate
  | await
  | cleanup
  | closeLock
deriving DecidableEq, Repr

/-- The invocation that ends the launch. -/
inductive Stop where
  | idle
  /-- `run_stop` has sent `SIGTERM` and waits for the lock. -/
  | waiting
  /-- `run_force_stop` has killed the group of the supervisor and waits for the lock. -/
  | killing
  /-- It has returned 0. -/
  | returned
deriving DecidableEq, Repr

structure World where
  launch : Readiness.Launch := {}
  shutdown : Shutdown := .restore
  /-- The supervisor has not closed the lock at the end of its shutdown. -/
  holdsLock : Bool := true
  /-- The group of the supervisor has been killed. -/
  killed : Bool := false
  manager : Manager := .absent
  /-- `stop_requested` of the network manager. -/
  managerAsked : Bool := false
  /-- The network manager has written `1` to its own ready pipe. -/
  managerReady : Bool := false
  fifo : Bool := false
  /-- How many rules of the network manager there are. -/
  rules : Family → Nat := fun _ => 0
  usb : ExclusiveUsbState := {}
  /-- What all scans have exchanged with sysfs. -/
  scanned : List UsbExchange := []
  /-- What the restoration has exchanged with sysfs. -/
  restored : List UsbExchange := []
  stop : Stop := .idle

/-- The supervisor is no more. -/
def World.supervisorGone (world : World) : Bool :=
  world.killed || match world.launch.phase with
    | .ended _ | .brokenPipe => true
    | _ => false

/-- The lock of the launch is free. -/
def World.lockFree (world : World) : Bool := !world.holdsLock || world.supervisorGone

/-- `delete_tailscale_bypass_rule`: up to four rules are deleted. -/
def deleteTailscaleBypassRule (rules : Family → Nat) (family : Family) : Family → Nat :=
  Function.update rules family (rules family - 4)

/-- The steps of a supervisor that do something to the host. -/
def needsHost : Readiness.Phase → Readiness.Phase → Bool
  | .prepare (.hostRebootFifo :: _), .prepare _ => true
  | .prepare (.networkManagerStart :: _), _ => true
  | .awaitNetwork _, .negotiate => true
  | .writeRunning, .announce => true
  | .finish, .ended _ => true
  | _, _ => false

/-- The supervisor goes on to a phase. -/
def World.goesTo (world : World) (phase : Readiness.Phase) : World :=
  { world with launch := { world.launch with phase } }

/-! ### The network manager -/

/-- The manager, its flag in the ready pipe, the rules and the FIFO. -/
inductive ManagerStep (world : World) : World → Prop where
  /-- `getppid` finds another parent. -/
  | orphaned (phase : world.manager = .forked) (gone : world.supervisorGone = true) :
      ManagerStep world { world with manager := .exited }
  | guards (phase : world.manager = .forked) (there : world.supervisorGone = false) :
      ManagerStep world { world with manager := .clear [.v4, .v6] }
  | clears {family : Family} {pending : List Family}
      (phase : world.manager = .clear (family :: pending)) :
      ManagerStep world
        { world with
          manager := .clear pending
          rules := deleteTailscaleBypassRule world.rules family }
  | cleared (phase : world.manager = .clear []) :
      ManagerStep world { world with manager := .openFifo }
  | opens (phase : world.manager = .openFifo) :
      ManagerStep world { world with manager := .report }
  /-- The FIFO cannot be opened: it is removed, and the manager reports `0`. -/
  | openFails (phase : world.manager = .openFifo) :
      ManagerStep world { world with manager := .exited, fifo := false }
  | reports (phase : world.manager = .report) :
      ManagerStep world { world with manager := .test, managerReady := true }
  | goesOn (phase : world.manager = .test) (unasked : world.managerAsked = false)
      (there : world.supervisorGone = false) :
      ManagerStep world { world with manager := .reconcile .v4 }
  /-- The route is as it was and its rule is still there. -/
  | keeps {family : Family} (phase : world.manager = .reconcile family) :
      ManagerStep world
        { world with manager := if family = .v4 then .reconcile .v6 else .watch }
  /-- There is no route, or its rule cannot be added. -/
  | drops {family : Family} (phase : world.manager = .reconcile family) :
      ManagerStep world
        { world with
          manager := if family = .v4 then .reconcile .v6 else .watch
          rules := deleteTailscaleBypassRule world.rules family }
  | replaces {family : Family} (phase : world.manager = .reconcile family) :
      ManagerStep world
        { world with
          manager := if family = .v4 then .reconcile .v6 else .watch
          rules := Function.update world.rules family
            (deleteTailscaleBypassRule world.rules family family + 1) }
  | wakes (phase : world.manager = .watch) : ManagerStep world { world with manager := .test }
  | leaves (phase : world.manager = .test)
      (asked : world.managerAsked = true ∨ world.supervisorGone = true) :
      ManagerStep world { world with manager := .close [.v4, .v6] }
  | closes {family : Family} {pending : List Family}
      (phase : world.manager = .close (family :: pending)) :
      ManagerStep world
        { world with
          manager := .close pending
          rules := deleteTailscaleBypassRule world.rules family }
  | closed (phase : world.manager = .close []) :
      ManagerStep world { world with manager := .unlink }
  | unlinks (phase : world.manager = .unlink) :
      ManagerStep world { world with manager := .exited, fifo := false }

/-! ### The launch -/

inductive Label where
  | launch (label : Readiness.Label)
  | supervisor
  | manager
  | parentDeath
  | stop
  | forceStop
deriving DecidableEq, Repr

/-- One step of the supervisor, of the network manager or of the invocation that ends them. -/
inductive Step (policy : HostUsbPolicy) (filter : UsbDeviceFilter) (world : World) :
    Label → World → Prop where
  /-- What does not concern the host. -/
  | launch {label : Readiness.Label} {next : Readiness.Launch}
      (step : Readiness.Step world.launch label next)
      (apart : needsHost world.launch.phase next.phase = false)
      (alive : label = .supervisor → world.killed = false) :
      Step policy filter world (.launch label) { world with launch := next }
  /-- `prepare_host_reboot_fifo`. -/
  | fifoPrepared {remaining : List Readiness.FailureStage}
      (phase : world.launch.phase = .prepare (.hostRebootFifo :: remaining))
      (alive : world.killed = false) :
      Step policy filter world .supervisor { world.goesTo (.prepare remaining) with fifo := true }
  | managerForked {remaining : List Readiness.FailureStage}
      (phase : world.launch.phase = .prepare (.networkManagerStart :: remaining))
      (alive : world.killed = false) :
      Step policy filter world .supervisor
        { world.goesTo (.prepare remaining) with manager := .forked }
  | managerStartFails {remaining : List Readiness.FailureStage}
      (phase : world.launch.phase = .prepare (.networkManagerStart :: remaining))
      (alive : world.killed = false) :
      Step policy filter world .supervisor
        { world.goesTo (.report .networkManagerStart) with fifo := false }
  | networkReady {limit : Nat} (phase : world.launch.phase = .awaitNetwork limit)
      (alive : world.killed = false) (ready : world.managerReady = true) :
      Step policy filter world .supervisor (world.goesTo .negotiate)
  /-- Without the exclusive policy no interface is touched. -/
  | runs (phase : world.launch.phase = .writeRunning) (alive : world.killed = false)
      (shared : policy ≠ .exclusive) :
      Step policy filter world .supervisor (world.goesTo .announce)
  | runsExclusive {log : List UsbExchange} {usb : ExclusiveUsbState}
      (phase : world.launch.phase = .writeRunning) (alive : world.killed = false)
      (exclusive : policy = .exclusive)
      (run : Interaction.Runs (reconcileExclusiveUsb filter world.usb) log usb) :
      Step policy filter world .supervisor
        { world.goesTo .announce with usb, scanned := world.scanned ++ log }
  | scans {log : List UsbExchange} {usb : ExclusiveUsbState}
      (phase : world.launch.phase = .loop false) (alive : world.killed = false)
      (exclusive : policy = .exclusive)
      (run : Interaction.Runs (reconcileExclusiveUsb filter world.usb) log usb) :
      Step policy filter world .supervisor { world with usb, scanned := world.scanned ++ log }
  | restoreSkipped (phase : world.launch.phase = .finish) (alive : world.killed = false)
      (shutdown : world.shutdown = .restore) (shared : policy ≠ .exclusive) :
      Step policy filter world .supervisor { world with shutdown := .terminate }
  | restores {log : List UsbExchange} {usb : ExclusiveUsbState}
      (phase : world.launch.phase = .finish) (alive : world.killed = false)
      (shutdown : world.shutdown = .restore) (exclusive : policy = .exclusive)
      (run : Interaction.Runs (restoreExclusiveUsb world.usb) log usb) :
      Step policy filter world .supervisor
        { world with usb, restored := log, shutdown := .terminate }
  /-- `SIGTERM` to the network manager. -/
  | terminates (phase : world.launch.phase = .finish) (alive : world.killed = false)
      (shutdown : world.shutdown = .terminate) :
      Step policy filter world .supervisor
        { world with managerAsked := true, shutdown := .await }
  | awaits (phase : world.launch.phase = .finish) (alive : world.killed = false)
      (shutdown : world.shutdown = .await) (ended : world.manager = .exited) :
      Step policy filter world .supervisor { world with shutdown := .cleanup }
  /-- `cleanup_delegated_cgroups`, and the state `stopped`. -/
  | cleans (phase : world.launch.phase = .finish) (alive : world.killed = false)
      (shutdown : world.shutdown = .cleanup) :
      Step policy filter world .supervisor { world with shutdown := .closeLock }
  | closesLock (phase : world.launch.phase = .finish) (alive : world.killed = false)
      (shutdown : world.shutdown = .closeLock) :
      Step policy filter world .supervisor { world.goesTo (.ended 0) with holdsLock := false }
  | manager {next : World} (step : ManagerStep world next) : Step policy filter world .manager next
  /-- The kernel sends the parent-death signal of the network manager. -/
  | parentDeath (gone : world.supervisorGone = true) (guarded : world.manager ≠ .forked) :
      Step policy filter world .parentDeath { world with managerAsked := true }
  | stops (idle : world.stop = .idle) (held : world.lockFree = false) :
      Step policy filter world .stop { world with stop := .waiting }
  /-- There is no supervisor to stop. -/
  | returnsAtOnce (idle : world.stop = .idle) (free : world.lockFree = true) :
      Step policy filter world .stop { world with stop := .returned }
  | stopReturns (waiting : world.stop = .waiting) (free : world.lockFree = true) :
      Step policy filter world .stop { world with stop := .returned }
  /-- `SIGKILL` to the group of the supervisor, which is also that of the network manager, and to
  Debian. -/
  | forceKills (idle : world.stop = .idle) (held : world.lockFree = false) :
      Step policy filter world .forceStop
        { world with
          launch := { world.launch with debian := false }
          killed := true
          manager := match world.manager with
            | .absent => .absent
            | _ => .exited
          stop := .killing }
  | forceReturns (killing : world.stop = .killing) (free : world.lockFree = true) :
      Step policy filter world .forceStop { world with stop := .returned }

end DawnShell.Launcher.Host
