/-
Module: DawnShell.Launcher.ProcessStat
Layer: Launcher
Purpose: How the launcher reads the start time of a process, which tells it from a later process with the
  same pid: the field is counted from behind the name, which is in parentheses and may contain anything.
Trusted boundary: faithful model of bfu_namespace_probe.c:649-686.  The text of the `stat` file is an
  argument, which one `read` gives as far as the buffer holds it; a file that cannot be opened or read is
  `none`.
Main exports: readProcStartTicks, StatLine, StatLine.text
-/
import DawnShell.Launcher.Cgroup
import DawnShell.Lib.CStrings

namespace DawnShell.Launcher

open CString

/-- `sizeof(buffer)` of `read_proc_start_ticks`. -/
def statBufferBytes : Nat := 4096

/-- The value of a token; none when `strtoull` does not read the whole of it. -/
def tokenValue (token : Text) : Option UInt64 :=
  let read := strtoull token
  if read.error = true ∨ read.behind = token ∨ read.behind ≠ [] then none else some read.value

/-- The loop over the tokens, the first of which is the field of a number. -/
def startTicksField : Nat → List Text → Option UInt64
  | _, [] => none
  | field, token :: tokens =>
      if field = 22 then tokenValue token else startTicksField (field + 1) tokens

/-- What `read_proc_start_ticks` finds in the buffer. -/
def startTicksOf (buffer : Text) : Option UInt64 :=
  match strrchr ')' buffer with
  | some (' ' :: fields) => startTicksField 3 (strtok ' ' fields)
  | _ => none

/-- `read_proc_start_ticks`: what it returns, and `*ticks` behind it. -/
def readProcStartTicks (file : Option Text) (ticks : UInt64) : Int × UInt64 :=
  match file with
  | none | some [] => (-1, ticks)
  | some contents =>
      match startTicksOf (terminated (contents.take (statBufferBytes - 1))) with
      | none => (-1, ticks)
      | some value => (0, value)

/-! ### The lines -/

/-- A line as the kernel writes it, with the fields behind the name; the line end belongs to the last. -/
structure StatLine where
  pid : Text
  comm : Text
  fields : List Text
  pidPlain : nul ∉ pid
  commPlain : nul ∉ comm
  filled : ∀ field ∈ fields, field ≠ []
  spaced : ∀ field ∈ fields, ' ' ∉ field
  closed : ∀ field ∈ fields, '(' ∉ field ∧ ')' ∉ field
  plain : ∀ field ∈ fields, nul ∉ field

/-- `pid (comm) fields`. -/
def StatLine.text (line : StatLine) : Text :=
  line.pid ++ " (".toList ++ line.comm ++ ')' :: line.fields.flatMap (' ' :: ·)

end DawnShell.Launcher
