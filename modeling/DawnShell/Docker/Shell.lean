/-
Module: DawnShell.Docker.Shell
Layer: Docker
Purpose: What the script of the Docker policy asks the system for: commands of which it sees the status and
  the output, and operations on the files it manages.  `PolicyWorld` is what the system keeps of the
  files, and `Host` is a system on which nothing fails by chance.
Trusted boundary: faithful model of the commands of configure-docker-network.sh.  A shell runs under
  `set -e`; a signal that kills it, or runs its trap, is seen at its next command, before the command has
  an effect.  A failed operation has done nothing, except that a failed write may have written a part.  A
  path holds a regular file or nothing.  The temporary files of different runs, whose names end in the
  process id, are one file here; a run empties it before use.  `sha256sum` is a parameter.
Main exports: PolicyFile, ManagedFile, PolicyCall, PolicyWorld, Sha256, PolicyWorld.observe, Host,
  CommandSteps, Steps
-/
import DawnShell.Lib.Environment
import DawnShell.Lib.Crash

namespace DawnShell.Docker

open Interaction

/-! ### Files -/

/-- The files of the script. -/
inductive PolicyFile where
  | owner
  | daemonJson
  | managedHash
  | dockerWrapper
  | dockerWrapperHash
  | dockerWrapperConf
  | policyRecord
  | temporary
  | wrapperTemporary
  | policyRecordNew
deriving DecidableEq, Repr

/-- The path of a file, in Debian but for the owner of the lock. -/
def PolicyFile.path : PolicyFile → String
  | .owner => "/data/local/.dawnshell-docker-policy.lock/owner"
  | .daemonJson => "/etc/docker/daemon.json"
  | .managedHash => "/etc/docker/.dawnshell-daemon-json.sha256"
  | .dockerWrapper => "/usr/local/bin/docker"
  | .dockerWrapperHash => "/etc/dawnshell/docker-wrapper.sha256"
  | .dockerWrapperConf => "/etc/dawnshell/docker-wrapper.conf"
  | .policyRecord => "/etc/dawnshell/docker-network-policy"
  | .temporary => "/etc/docker/.daemon.json.dawnshell.$$"
  | .wrapperTemporary => "/usr/local/bin/docker.dawnshell.$$"
  | .policyRecordNew => "/etc/dawnshell/docker-network-policy.new"

/-- The two files that the script replaces only when they are its own. -/
inductive ManagedFile where
  | daemonJson
  | dockerWrapper
deriving DecidableEq, Repr

namespace ManagedFile

/-- The managed file itself. -/
def file : ManagedFile → PolicyFile
  | .daemonJson => .daemonJson
  | .dockerWrapper => .dockerWrapper

/-- Where its hash is recorded. -/
def hash : ManagedFile → PolicyFile
  | .daemonJson => .managedHash
  | .dockerWrapper => .dockerWrapperHash

/-- The file that is renamed to it. -/
def temporary : ManagedFile → PolicyFile
  | .daemonJson => .temporary
  | .dockerWrapper => .wrapperTemporary

end ManagedFile

/-- What a file contains; a byte is written as the character with its number. -/
abbrev Contents := List Char

/-- `sed -n '1p'`, without the newline. -/
def firstLine (contents : Contents) : Contents := contents.takeWhile (· != '\n')

/-- The digests that `sha256sum` prints.  They are taken to be different for different contents. -/
structure Sha256 where
  sum : Contents → Contents
  injective : Function.Injective sum
  /-- They have one length, so that none begins another. -/
  apart : ∀ first second, sum first <+: sum second → sum first = sum second
  nonEmpty : ∀ contents, sum contents ≠ []
  oneLine : ∀ contents, '\n' ∉ sum contents

/-! ### Calls -/

/-- An exit status that is not 0. -/
structure Failure where
  status : Nat
  nonzero : status ≠ 0
deriving DecidableEq, Repr

/-- The status of a command and what `$(...)` makes of its output. -/
structure CommandResult where
  status : Nat
  output : Contents := []
deriving DecidableEq, Repr

/-- How a redirected output ends. -/
inductive WriteResult where
  | complete
  /-- The command fails after some characters. -/
  | failed (written : Nat) (failure : Failure)
deriving DecidableEq, Repr

/-- What the script asks for. -/
inductive PolicyCall where
  /-- A command, by its words, that leaves these files alone. -/
  | command (words : List String)
  /-- `[ -s file ]`. -/
  | isNonEmpty (file : PolicyFile)
  /-- `[ -e file ]`. -/
  | fileExists (file : PolicyFile)
  /-- `[ -f file ]`. -/
  | isRegular (file : PolicyFile)
  /-- `[ -L file ]`. -/
  | isSymlink (file : PolicyFile)
  /-- `$(sed -n '1p' file)`. -/
  | firstLine (file : PolicyFile)
  /-- `$(sha256sum file | awk ...)` for the first field. -/
  | sha256sum (file : PolicyFile)
  /-- `$(date +%s)`, whatever its status. -/
  | epoch
  /-- `> file`. -/
  | openOutput (file : PolicyFile)
  | write (file : PolicyFile) (contents : Contents)
  /-- `mv source destination`. -/
  | move (source destination : PolicyFile)
  /-- `rm -f file`. -/
  | remove (file : PolicyFile)
  /-- `mkdir "$LOCK_DIR"`. -/
  | makeLock
  /-- `rmdir "$LOCK_DIR"`. -/
  | removeLock
deriving DecidableEq, Repr

/-- What a call tells the script; a number is an exit status. -/
abbrev PolicyCall.Result : PolicyCall → Type
  | .command _ => CommandResult
  | .isNonEmpty _ | .fileExists _ | .isRegular _ | .isSymlink _ => Bool
  | .firstLine _ | .sha256sum _ => Except Failure Contents
  | .epoch => Contents
  | .write .. => WriteResult
  | .openOutput _ | .move .. | .remove _ | .makeLock | .removeLock => Nat

/-- The result of a call, unless the shell that makes it gets a signal first. -/
inductive Reply (α : Type) where
  | returned (result : α)
  /-- The status with which the shell ends. -/
  | signalled (failure : Failure)
deriving DecidableEq, Repr

/-- The answer to a call. -/
abbrev PolicyCall.Answer (call : PolicyCall) : Type := Reply call.Result

abbrev PolicyExchange := Exchange PolicyCall PolicyCall.Answer

/-! ### The system -/

/-- The files, and whether the directory of the lock exists. -/
structure PolicyWorld where
  contents : PolicyFile → Option Contents
  locked : Bool

namespace PolicyWorld

/-- One file is changed. -/
def put (world : PolicyWorld) (file : PolicyFile) (contents : Option Contents) : PolicyWorld :=
  { world with contents := fun other => if other = file then contents else world.contents other }

/-- Whether the system can give this answer. -/
def possible (sha256 : Sha256) (world : PolicyWorld) : PolicyExchange → Bool
  | ⟨.isNonEmpty file, .returned yes⟩ => yes == (world.contents file).any (· ≠ [])
  | ⟨.fileExists file, .returned yes⟩ | ⟨.isRegular file, .returned yes⟩ =>
      yes == (world.contents file).isSome
  | ⟨.isSymlink _, .returned yes⟩ => !yes
  | ⟨.firstLine file, .returned (.ok line)⟩ =>
      (world.contents file).any fun contents => line = firstLine contents
  | ⟨.sha256sum file, .returned (.ok digest)⟩ =>
      (world.contents file).any fun contents => digest = sha256.sum contents
  | ⟨.move source _, .returned 0⟩ => (world.contents source).isSome
  | ⟨.makeLock, .returned 0⟩ => !world.locked
  | ⟨.removeLock, .returned 0⟩ => world.locked && (world.contents .owner).isNone
  | _ => true

/-- What an exchange does to the files. -/
def effect (world : PolicyWorld) : PolicyExchange → PolicyWorld
  | ⟨.openOutput file, .returned 0⟩ => world.put file (some [])
  | ⟨.write file contents, .returned .complete⟩ =>
      world.put file ((world.contents file).map (· ++ contents))
  | ⟨.write file contents, .returned (.failed written _)⟩ =>
      world.put file ((world.contents file).map (· ++ contents.take written))
  | ⟨.move source destination, .returned 0⟩ =>
      (world.put destination (world.contents source)).put source none
  | ⟨.remove file, .returned 0⟩ => world.put file none
  | ⟨.makeLock, .returned 0⟩ => { world with locked := true }
  | ⟨.removeLock, .returned 0⟩ => { world with locked := false }
  | _ => world

/-- What an exchange does to the files; none when the answer is impossible. -/
def observe (sha256 : Sha256) (world : PolicyWorld) (exchange : PolicyExchange) : Option PolicyWorld :=
  if world.possible sha256 exchange then some (world.effect exchange) else none

end PolicyWorld

/-! ### A system on which nothing fails by chance -/

/-- What the commands answer, and the time. -/
structure Host where
  command : List String → CommandResult
  epoch : Contents

/-- The system with these commands. -/
def Host.environment (sha256 : Sha256) (host : Host) :
    Environment PolicyWorld PolicyCall PolicyCall.Answer where
  answer world
    | .command words => .returned (host.command words)
    | .isNonEmpty file => .returned ((world.contents file).any (· ≠ []))
    | .fileExists file | .isRegular file => .returned (world.contents file).isSome
    | .isSymlink _ => .returned false
    | .firstLine file =>
        .returned (((world.contents file).map firstLine).elim (.error ⟨2, by decide⟩) .ok)
    | .sha256sum file =>
        .returned (((world.contents file).map sha256.sum).elim (.error ⟨1, by decide⟩) .ok)
    | .epoch => .returned host.epoch
    | .openOutput _ => .returned 0
    | .write .. => .returned .complete
    | .move source _ => .returned (if (world.contents source).isSome then 0 else 1)
    | .remove _ => .returned 0
    | .makeLock => .returned (if world.locked then 1 else 0)
    | .removeLock => .returned (if world.locked && (world.contents .owner).isNone then 0 else 1)
  move := PolicyWorld.effect

/-! ### Programs -/

/-- A part of the script that only runs commands. -/
abbrev CommandSteps := Fallible (List String) (fun _ => Reply CommandResult) Failure

/-- A part of the script. -/
abbrev Steps := Fallible PolicyCall PolicyCall.Answer Failure

/-- A command whose status is looked at. -/
def run (words : List String) : CommandSteps CommandResult := do
  match ← ExceptT.lift (Interaction.call words) with
  | .returned result => return result
  | .signalled failure => throw failure

/-- A command that ends the script when it fails. -/
def check (words : List String) : CommandSteps Unit := do
  let result ← run words
  if nonzero : result.status ≠ 0 then throw ⟨result.status, nonzero⟩

/-- A command in a condition. -/
def test (words : List String) : CommandSteps Bool := do
  let result ← run words
  return result.status = 0

/-- `variable="$(command)"`. -/
def capture (words : List String) : CommandSteps Contents := do
  let result ← run words
  if nonzero : result.status ≠ 0 then throw ⟨result.status, nonzero⟩
  return result.output

/-- `echo line`. -/
def say (line : String) : CommandSteps Unit := check ["echo", line]

/-- `fail`: `echo "ERROR: $*"; exit "$code"`. -/
def fail {α : Type} (code : Failure) (message : String) : CommandSteps α := do
  say ("ERROR: " ++ message)
  throw code

/-- Commands as a part of the script. -/
def commands {α : Type} (part : CommandSteps α) : Steps α :=
  ExceptT.mk (part.run.embed PolicyCall.command fun _ answer => answer)

/-- A call whose result is looked at. -/
def ask (call : PolicyCall) : Steps call.Result := do
  match ← ExceptT.lift (Interaction.call call) with
  | .returned result => return result
  | .signalled failure => throw failure

/-- A status that ends the script unless it is 0. -/
def succeed (status : Nat) : Steps Unit :=
  if nonzero : status ≠ 0 then throw ⟨status, nonzero⟩ else return

/-- The output that is redirected to an open file. -/
def write (file : PolicyFile) (contents : Contents) : Steps Unit := do
  match ← ask (.write file contents) with
  | .complete => return
  | .failed _ failure => throw failure

/-- A command with its output redirected to a file. -/
def writeFile (file : PolicyFile) (contents : Contents) : Steps Unit := do
  succeed (← ask (.openOutput file))
  write file contents

/-- `mv`. -/
def move (source destination : PolicyFile) : Steps Unit := do
  succeed (← ask (.move source destination))

/-- `chown 0:0 file; chmod mode file`. -/
def setRootMode (file : PolicyFile) (mode : String) : Steps Unit :=
  commands do
    check ["chown", "0:0", file.path]
    check ["chmod", mode, file.path]

/-- Several lines of text. -/
def lines (texts : List String) : Contents := texts.flatMap fun text => text.toList ++ ['\n']

end DawnShell.Docker
