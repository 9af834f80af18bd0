/-
Module: DawnShell.Launcher.HostReboot
Layer: Launcher
Purpose: The FIFO by which Debian asks the network manager to reboot the host: writers append whole request
  lines, and the manager polls it, each time taking what is pending up to the size of its buffer.
Trusted boundary: faithful model of bfu_namespace_probe.c:2535-2561.  A write of one line is atomic; a read
  of an empty FIFO returns nothing; the routes that the loop also watches are left out.
Main exports: RebootFifo, FifoStep, RebootFifo.apply, afterSchedule
-/
import DawnShell.Launcher.ExclusiveUsb
import DawnShell.Lib.CStrings

namespace DawnShell.Launcher

/-- The line that `strcmp` looks for, and that a writer writes. -/
def rebootRequest : Text := "ANDROID_REBOOT\n".toList

/-- `sizeof(request)`. -/
def rebootBufferBytes : Nat := 64

/-- What the manager has read is a request. -/
def isRebootRequest (request : Text) : Bool := CString.terminated request == rebootRequest

/-- The FIFO, and how many times the manager has run `/system/bin/reboot`. -/
structure RebootFifo where
  pending : Text := []
  reboots : Nat := 0
deriving DecidableEq, Repr

/-- What happens to the FIFO. -/
inductive FifoStep where
  /-- A writer writes one request. -/
  | write
  /-- The manager reads. -/
  | read
deriving DecidableEq, Repr

/-- One tick of `network_manager_loop`. -/
def RebootFifo.poll (fifo : RebootFifo) : RebootFifo :=
  let request := fifo.pending.take (rebootBufferBytes - 1)
  let rest := fifo.pending.drop (rebootBufferBytes - 1)
  if 0 < request.length && isRebootRequest request then
    { pending := rest, reboots := fifo.reboots + 1 }
  else { fifo with pending := rest }

def RebootFifo.apply (fifo : RebootFifo) : FifoStep → RebootFifo
  | .write => { fifo with pending := fifo.pending ++ rebootRequest }
  | .read => fifo.poll

/-- The FIFO after a schedule of writes and reads, made empty by `prepare_host_reboot_fifo`. -/
def afterSchedule (schedule : List FifoStep) : RebootFifo := schedule.foldl RebootFifo.apply {}

end DawnShell.Launcher
