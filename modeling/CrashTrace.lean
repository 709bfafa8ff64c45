import CrashTrace.Output.Writer
import CrashTrace.Report.Header
import CrashTrace.Report.Emitter
import CrashTrace.Report.Stack
import CrashTrace.Settings.Json
import CrashTrace.System.Descriptor
import CrashTrace.System.Signal
import CrashTrace.System.Exclusion
import CrashTrace.System.UsualFiles
import CrashTrace.System.DumpTarget
import CrashTrace.Process.Operation
import CrashTrace.Process.Watchdog
import CrashTrace.Session.Run
import CrashTrace.Log.Filter
import CrashTrace.Demo.Run
import CrashTrace.Main
import CrashTrace.Proofs.Registry.Recording
import CrashTrace.Proofs.Stack.History
import CrashTrace.Proofs.Stack.Torn
import CrashTrace.Proofs.Registry.Slots
import CrashTrace.Proofs.Registry.SlotHistory
import CrashTrace.Proofs.Registry.Handles
import CrashTrace.Proofs.Registry.PausedWalk
import CrashTrace.Proofs.Process.Actions
import CrashTrace.Proofs.Process.Settled
import CrashTrace.Proofs.Process.Coherent
import CrashTrace.Proofs.Process.Setup
import CrashTrace.Proofs.Process.Course
import CrashTrace.Proofs.Session.Requests
import CrashTrace.Proofs.Session.Reached
import CrashTrace.Proofs.Process.FatalSignal
import CrashTrace.Proofs.Session.FatalSignal
import CrashTrace.Proofs.Output.Accepting
import CrashTrace.Proofs.Report.Snapshots
import CrashTrace.Proofs.Text.Numeral
import CrashTrace.Proofs.Text.Escape
import CrashTrace.Proofs.Report.Lines
import CrashTrace.Proofs.Report.Reading
import CrashTrace.Proofs.Process.OneReport
import CrashTrace.Proofs.Process.Retained
import CrashTrace.Proofs.Process.Waiting
import CrashTrace.Proofs.Process.Resting
import CrashTrace.Proofs.Process.UserSignal
import CrashTrace.Proofs.Session.Registered
import CrashTrace.Proofs.Session.UserSignal
import CrashTrace.Proofs.Session.Refusals
import CrashTrace.Proofs.Output.Emitter
import CrashTrace.Proofs.Output.Limited
import CrashTrace.Proofs.Process.Separate
import CrashTrace.Proofs.Process.Watchdog
import CrashTrace.Proofs.Process.TimerCourse
import CrashTrace.Proofs.Process.Lockstep
import CrashTrace.Proofs.Process.BrokenPipe
import CrashTrace.Proofs.Process.SinkKind
import CrashTrace.Proofs.Session.SinkKind
import CrashTrace.Proofs.Registry.Ledger
import CrashTrace.Proofs.Registry.Guards
import CrashTrace.Proofs.Registry.Overrun
import CrashTrace.Proofs.Report.Marks
import CrashTrace.Proofs.Report.Blocks
import CrashTrace.Proofs.Process.CurrentThread
import CrashTrace.Proofs.Process.FatalError
import CrashTrace.Proofs.Session.FatalError
import CrashTrace.Proofs.Process.Halting
import CrashTrace.Proofs.Process.Endless
import CrashTrace.Proofs.Session.Halting
import CrashTrace.Proofs.Session.Events
import CrashTrace.Proofs.Settings.Lawful
import CrashTrace.Proofs.Output.Front
import CrashTrace.Proofs.Registry.Renamed
import CrashTrace.Proofs.Report.Names
import CrashTrace.Proofs.Report.Numbers
import CrashTrace.Proofs.Report.Timeout
import CrashTrace.Proofs.Stack.Interleaved
import CrashTrace.Proofs.Json.Written
import CrashTrace.Proofs.Json.Respelled
import CrashTrace.Proofs.Settings.RoundTrip
