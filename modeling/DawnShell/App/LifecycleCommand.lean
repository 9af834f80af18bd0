/-
Module: DawnShell.App.LifecycleCommand
Layer: App
Purpose: The root command of a lifecycle operation.  Every argument is put in single quotes, and the
  settings go to the launcher as positional arguments.
Trusted boundary: faithful model of BfuSu.java:196-201, BfuRootfsProbe.java:16 and
  DebianLauncher.java:22, 127-151
Main exports: shellQuote, Operation, Layout, lifecycleCommand
-/
import DawnShell.App.Preferences

namespace DawnShell.App

open Java

/-- `String.replace` of a quote by the text that closes the quotes, quotes it and opens them again. -/
def replaceQuote (unit : UInt16) : JavaString :=
  if unit = 0x27 then literal "'\"'\"'".toList else [unit]

/-- `shellQuote`; `none` is the exception for a null character. -/
def shellQuote (value : JavaString) : Option JavaString :=
  if value.contains 0 then none else some (0x27 :: value.flatMap replaceQuote ++ [0x27])

/-- `DebianLauncher.Operation`. -/
inductive Operation where
  | start
  | restart
  | status
  | stop
  | forceStop
deriving DecidableEq, Repr

/-- `operation.name().toLowerCase(Locale.US).replace('_', '-')`. -/
def Operation.argument : Operation → List Char
  | .start => "start".toList
  | .restart => "restart".toList
  | .status => "status".toList
  | .stop => "stop".toList
  | .forceStop => "force-stop".toList

/-- The paths of a `BfuRuntime.Layout` that a lifecycle command names. -/
structure Layout where
  namespaceProbeBinary : JavaString
  run : JavaString
  lifecycleLog : JavaString

/-- `ROOTFS_PATH`. -/
def rootfsPath : List Char := "/data/local/debian".toList

/-- `motd`. -/
def motd : List Char :=
  "DawnShell Debian 13 emergency environment\nStarted during Direct Boot; remains active after Android unlock.\n".toList

/-- `" " + BfuSu.shellQuote(value)`. -/
def quotedArgument (value : JavaString) : Option JavaString := (shellQuote value).map (0x20 :: ·)

/-- The launcher, its command and what every command names. -/
def launcherCommand (layout : Layout) (operation : Operation) : Option JavaString := do
  let binary ← shellQuote layout.namespaceProbeBinary
  let root ← quotedArgument (literal rootfsPath)
  let run ← quotedArgument layout.run
  return binary ++ literal (' ' :: operation.argument) ++ root ++ run

/-- The arguments of a start and of a restart: the log and the settings. -/
def settingsArguments (preferences : StoredPreferences) (layout : Layout) : Option JavaString := do
  let log ← quotedArgument layout.lifecycleLog
  let cgroup ← quotedArgument preferences.cgroupPolicySetting
  let fallback ← quotedArgument (literal
    (if preferences.pidNamespaceFallbackSetting then "fallback".toList else "strict".toList))
  let usb ← quotedArgument preferences.usbPassthroughModeSetting
  let exclusiveIds := preferences.usbExclusiveDeviceIdsSetting
  let filter ← quotedArgument (if exclusiveIds = [] then literal "-".toList else exclusiveIds)
  return log ++ cgroup ++ fallback ++ usb ++ filter

/-- The command in front of a start, which writes the message of the day. -/
def motdCommand : Option JavaString := do
  let text ← shellQuote (literal motd)
  let file ← shellQuote (literal (rootfsPath ++ "/etc/motd".toList))
  return literal "printf %s ".toList ++ text ++ literal " > ".toList ++ file

/-- `lifecycleCommand`. -/
def lifecycleCommand (preferences : StoredPreferences) (layout : Layout) (operation : Operation) :
    Option JavaString := do
  let command ← launcherCommand layout operation
  if operation = .start ∨ operation = .restart then
    let greeting ← motdCommand
    let settings ← settingsArguments preferences layout
    return greeting ++ literal " && ".toList ++ command ++ settings
  else return command

end DawnShell.App
