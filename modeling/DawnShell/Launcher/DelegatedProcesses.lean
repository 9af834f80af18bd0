/-
Module: DawnShell.Launcher.DelegatedProcesses
Layer: Launcher
Purpose: How the launcher finds the processes of a Debian instance that the record has lost: it reads the
  control groups of every process from `/proc` and signals those whose path lies in the delegated subtree.
Trusted boundary: faithful model of bfu_namespace_probe.c:4462-4528.  The names in `/proc` and the text of
  each `cgroup` file are arguments; a file that cannot be opened or read is `none`.
Main exports: cgroupPathIsDelegated, processInDelegatedCgroup, collectDelegatedProcesses, terminationOrder,
  CgroupLine, cgroupContents, InSubtree
-/
import DawnShell.Launcher.Cgroup
import DawnShell.Lib.CStrings

namespace DawnShell.Launcher

open CString

/-- `cgroup_path_is_delegated`. -/
def cgroupPathIsDelegated (path : Text) : Bool :=
  match path with
  | '/' :: relative =>
      cgroupChildName.isPrefixOf relative &&
        match relative.drop cgroupChildName.length with
        | [] => true
        | separator :: _ => separator == '/'
  | _ => false

/-- `sizeof(contents)` of `process_in_delegated_cgroup`. -/
def cgroupBufferBytes : Nat := 4096

/-- `process_in_delegated_cgroup` on what the file of the process has in it. -/
def processInDelegatedCgroup (file : Option Text) : Bool :=
  match file with
  | none => false
  | some contents =>
      let read := contents.take (cgroupBufferBytes - 1)
      (strtok '\n' (terminated read)).any fun line =>
        match strrchr ':' line with
        | none => false
        | some value => cgroupPathIsDelegated value

/-- The pid that a name in `/proc` is, when it is the name of a process that may be looked at. -/
def pidOfName (own : Int32) (name : Text) : Option Int32 :=
  let parsed := strtoll name
  if parsed.behind ≠ [] ∨ parsed.value ≤ 1 then none
  else if Int32.ofInt parsed.value = own then none
  else some (Int32.ofInt parsed.value)

/-- `collect_delegated_processes`. -/
def collectDelegatedProcesses (file : Int32 → Option Text) (own : Int32) (capacity : Nat) :
    List Text → List Int32
  | [] => []
  | name :: names =>
      match capacity with
      | 0 => []
      | room + 1 =>
          match pidOfName own name with
          | none => collectDelegatedProcesses file own (room + 1) names
          | some pid =>
              if processInDelegatedCgroup (file pid)
              then pid :: collectDelegatedProcesses file own room names
              else collectDelegatedProcesses file own (room + 1) names

/-- The index of the lowest pid, as the loop of `terminate_delegated_processes` finds it. -/
def lowestPid (pids : List Int32) : Nat :=
  (List.range pids.length).foldl
    (fun lowest index => if pids.getD index 0 < pids.getD lowest 0 then index else lowest) 0

/-- The pids one round of `terminate_delegated_processes` sends `SIGKILL` to, in order. -/
def terminationOrder (pids : List Int32) : List Int32 :=
  pids.eraseIdx (lowestPid pids) ++ (pids[lowestPid pids]?).toList

/-! ### The files -/

/-- A line as the kernel writes it. -/
structure CgroupLine where
  hierarchy : Text
  controllers : Text
  path : Text
  hierarchyPlain : ':' ∉ hierarchy ∧ '\n' ∉ hierarchy ∧ nul ∉ hierarchy
  controllersPlain : ':' ∉ controllers ∧ '\n' ∉ controllers ∧ nul ∉ controllers
  absolute : path.head? = some '/'
  pathPlain : '\n' ∉ path ∧ nul ∉ path

def CgroupLine.text (line : CgroupLine) : Text :=
  line.hierarchy ++ ':' :: line.controllers ++ ':' :: line.path

/-- A whole `cgroup` file. -/
def cgroupContents (lines : List CgroupLine) : Text := lines.flatMap (·.text ++ ['\n'])

/-- A path of the delegated subtree. -/
def InSubtree (path : Text) : Prop :=
  path = '/' :: cgroupChildName ∨ ('/' :: cgroupChildName) ++ ['/'] <+: path

instance (path : Text) : Decidable (InSubtree path) :=
  inferInstanceAs (Decidable (_ ∨ _))

end DawnShell.Launcher
