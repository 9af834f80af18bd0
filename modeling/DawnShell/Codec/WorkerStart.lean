/-
Module: DawnShell.Codec.WorkerStart
Layer: Codec
Purpose: How the codec client hands its transport to the worker: it makes a memfd and two eventfds, forks,
  and the child moves the three to the fixed numbers the worker expects.
Trusted boundary: faithful model of dawnshell_codec_client.c:133-143, 311-324 and 360-397 and
  dawnshell_codec_transport.h:26-28, as far as descriptors are concerned: the mapping, the control block
  and the search for the worker open none.  `none` is a call that fails.
Main exports: Transport, openTransport, childInstallDescriptor, childInstallDescriptors
-/
import DawnShell.Lib.Descriptors

namespace DawnShell

open Descriptors

def dscwWorkerMemfd : Nat := 3
def dscwWorkerRequestEventfd : Nat := 4
def dscwWorkerResponseEventfd : Nat := 5

/-- What a descriptor of the client refers to. -/
inductive ClientObject where
  | memfd
  | requestEventfd
  | responseEventfd
  /-- Something the client had open when it was started. -/
  | inherited (name : Nat)
deriving DecidableEq, Repr

abbrev ClientTable := Table ClientObject

/-- The three descriptors of `start_worker`, and the table with them. -/
structure Transport where
  memfd : Nat
  requestEventfd : Nat
  responseEventfd : Nat
  table : ClientTable

/-- The first three calls of `start_worker`. -/
def openTransport (limit : Nat) (table : ClientTable) : Option Transport := do
  let (memfd, table) ← allocate limit 0 table ⟨.memfd, true⟩
  let (requestEventfd, table) ← allocate limit 0 table ⟨.requestEventfd, true⟩
  let (responseEventfd, table) ← allocate limit 0 table ⟨.responseEventfd, true⟩
  pure { memfd, requestEventfd, responseEventfd, table }

/-- `child_install_descriptor`; the temporary descriptor is closed in any case. -/
def childInstallDescriptor (limit : Nat) (table : ClientTable) (source target : Nat) :
    Option ClientTable := do
  let (temporary, table) ← dupFrom limit 64 table source
  let table ← dup2 limit table temporary target
  setCloexec (close table temporary) target false

/-- What the child of `start_worker` does before it executes the worker. -/
def childInstallDescriptors (limit : Nat) (transport : Transport) : Option ClientTable := do
  let table ← childInstallDescriptor limit transport.table transport.memfd dscwWorkerMemfd
  let table ← childInstallDescriptor limit table transport.requestEventfd dscwWorkerRequestEventfd
  childInstallDescriptor limit table transport.responseEventfd dscwWorkerResponseEventfd

end DawnShell
