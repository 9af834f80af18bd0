import DawnShell.Lib.BigEndian
import DawnShell.Lib.WrapCounter
import DawnShell.Lib.Interaction
import DawnShell.Lib.Observer
import DawnShell.Lib.Fallible
import DawnShell.Lib.Interference
import DawnShell.Lib.Memory
import DawnShell.Lib.Keyed
import DawnShell.Lib.Transition
import DawnShell.Lib.ShellWords
import DawnShell.Lib.JavaStrings
import DawnShell.Codec.Wire
import DawnShell.Codec.Platform
import DawnShell.Codec.Image
import DawnShell.Codec.Session
import DawnShell.Codec.Create
import DawnShell.Codec.Worker
import DawnShell.Codec.Rpc
import DawnShell.Codec.Pipe
import DawnShell.Proofs.Framing
import DawnShell.Proofs.SessionSteps
import DawnShell.Proofs.SessionEffects
import DawnShell.Proofs.SessionInput
import DawnShell.Proofs.SessionConsumption
import DawnShell.Proofs.PendingImage
import DawnShell.Proofs.SessionStatistics
import DawnShell.Proofs.WorkerTable
import DawnShell.Proofs.RpcNumbers
import DawnShell.Proofs.ReplyBounds
import DawnShell.Proofs.RpcDispatch
import DawnShell.Proofs.RpcAgreement
import DawnShell.Proofs.PipeEffects
import DawnShell.Proofs.PipeSession
import DawnShell.Proofs.InputRetry
import DawnShell.Launcher.Process
import DawnShell.Launcher.Command
import DawnShell.Launcher.World
import DawnShell.Launcher.Readiness
import DawnShell.Launcher.ExclusiveUsb
import DawnShell.Launcher.HostEffects
import DawnShell.Launcher.Cgroup
import DawnShell.Launcher.NamespaceEntry
import DawnShell.Launcher.Arguments
import DawnShell.App.Preferences
import DawnShell.App.LifecycleCommand
import DawnShell.Proofs.LauncherSteps
import DawnShell.Proofs.LauncherLock
import DawnShell.Proofs.LauncherProbe
import DawnShell.Proofs.LauncherRecord
import DawnShell.Proofs.LauncherFamily
import DawnShell.Proofs.LauncherOrphans
import DawnShell.Proofs.LauncherForceStop
import DawnShell.Proofs.LauncherReadiness
import DawnShell.Proofs.ExclusiveUsbRecords
import DawnShell.Proofs.LauncherHostEffects
import DawnShell.Proofs.CgroupNegotiation
import DawnShell.Proofs.NamespaceRace
import DawnShell.Proofs.UsbDeviceIds
import DawnShell.Proofs.QuotedWords
import DawnShell.Proofs.SettingsCommand
import DawnShell.Lib.FieldLine
import DawnShell.Ffmpeg.Wrapper
import DawnShell.Proofs.PlanLine
import DawnShell.Codec.Adapter
import DawnShell.Proofs.AdapterOutput
import DawnShell.Lib.Crash
import DawnShell.App.Publish
import DawnShell.Proofs.AtomicPublication
import DawnShell.Lib.TaskQueue
import DawnShell.App.BootService
import DawnShell.App.RootCommands
import DawnShell.Proofs.BootServiceSteps
import DawnShell.Proofs.BusyFlags
import DawnShell.Proofs.StopFinality
import DawnShell.Proofs.ManagementExclusion
import DawnShell.Lib.Environment
import DawnShell.Docker.Policy
import DawnShell.Proofs.DockerStages
import DawnShell.Proofs.DockerUserContent
import DawnShell.Proofs.DockerRecovery
import DawnShell.Launcher.HostReboot
import DawnShell.Lib.CStrings
import DawnShell.Proofs.UnknownTypes
import DawnShell.Launcher.StateFile
import DawnShell.Launcher.DelegatedProcesses
import DawnShell.Proofs.StateFileRoundTrip
import DawnShell.Codec.WorkerStart
import DawnShell.Proofs.DelegatedDetection
import DawnShell.Proofs.RebootRequests
import DawnShell.Proofs.DescriptorInstallation
import DawnShell.Proofs.PipeConsumption
import DawnShell.Proofs.OutputReplies
import DawnShell.Lib.Ledger
import DawnShell.Proofs.HandleAccounting
import DawnShell.Lib.Checked
import DawnShell.Codec.ImageMachine
import DawnShell.Proofs.ImageCrop
import DawnShell.App.HardwareCodecProbe
import DawnShell.Proofs.HardwareSelection
import DawnShell.Lib.SeccompFilter
import DawnShell.Launcher.SystemCallFilters
import DawnShell.Proofs.SystemCallVerdicts
import DawnShell.Proofs.UsbFilterGrammar
import DawnShell.Codec.AccessUnits
import DawnShell.Proofs.AccessUnitScan
import DawnShell.Codec.AdapterCommands
import DawnShell.Proofs.MediaOutput
import DawnShell.Proofs.PacketTimes
import DawnShell.Proofs.RawFrames
import DawnShell.Ffmpeg.Commands
import DawnShell.Proofs.PlannedOptions
import DawnShell.Proofs.TakenCommands
import DawnShell.Launcher.SupervisorStart
import DawnShell.Proofs.FailedStarts
import DawnShell.Launcher.ProcessStat
import DawnShell.Proofs.StartTicks
import DawnShell.App.OutputCollector
import DawnShell.Lib.RingBuffer
import DawnShell.Proofs.CollectedOutput
import DawnShell.Lib.Base64
import DawnShell.Lib.SshWire
import DawnShell.App.OpenSshEd25519Key
import DawnShell.Proofs.KeyContainer
import DawnShell.Proofs.AuthorizedKeyLines
import DawnShell.Docker.Wrapper
import DawnShell.Proofs.WrapperInjection
import DawnShell.Proofs.ComposeProject
import DawnShell.Lib.JsonGrammar
import DawnShell.Codec.JsonReader
import DawnShell.Lib.ExceptBind
import DawnShell.Proofs.JsonTokens
import DawnShell.Proofs.JsonReading
