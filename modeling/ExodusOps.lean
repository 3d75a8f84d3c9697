import ExodusOps.Lib.Bytes
import ExodusOps.Lib.ByteStream
import ExodusOps.Lib.CondVar
import ExodusOps.Lib.Descriptors
import ExodusOps.Lib.History
import ExodusOps.Lib.Holder
import ExodusOps.Lib.Json
import ExodusOps.Lib.JsonFlat
import ExodusOps.Lib.JsonText
import ExodusOps.Lib.Machine
import ExodusOps.Lib.Numeral
import ExodusOps.Lib.Radix
import ExodusOps.Lib.SharedMutex
import ExodusOps.Lib.Utf8
import ExodusOps.Registry.NodeRegistry
import ExodusOps.Registry.History
import ExodusOps.Registry.Locking
import ExodusOps.Wire.MessageSerializer
import ExodusOps.Wire.RoundTrip
import ExodusOps.Wire.Grammar
import ExodusOps.Wire.Lengths
import ExodusOps.Wire.Chunking
import ExodusOps.Wire.RecvCalls
import ExodusOps.Wire.SendAll
import ExodusOps.Server.Handlers
import ExodusOps.Server.World
import ExodusOps.Server.History
import ExodusOps.Server.Sessions
import ExodusOps.Server.Texts
import ExodusOps.Server.Discipline
import ExodusOps.Server.ReadYourWrites
import ExodusOps.Server.Ownership
import ExodusOps.Server.Rejected
import ExodusOps.Server.Isolation
import ExodusOps.Server.Monitor
import ExodusOps.Server.Intake
import ExodusOps.Server.Wakeups
import ExodusOps.Server.Sockets
import ExodusOps.Server.Capacity
import ExodusOps.Server.AcceptLoop
import ExodusOps.Server.Watchdog
import ExodusOps.Server.Output
import ExodusOps.Server.Readable
import ExodusOps.Server.Requests
import ExodusOps.Server.Config
import ExodusOps.Server.Service
import ExodusOps.Server.Serving
import ExodusOps.Server.Pool
import ExodusOps.Server.Lifecycle
import ExodusOps.Server.Lifetime
import ExodusOps.Server.Shutdown
import ExodusOps.Client.SendCommand
import ExodusOps.Client.Envelope
import ExodusOps.Client.Conversation
import ExodusOps.Client.Correlation
import ExodusOps.Client.Alignment
import ExodusOps.Client.Drain
import ExodusOps.Client.Threads
import ExodusOps.Client.Guarded
import ExodusOps.Client.Handle
import ExodusOps.Client.LastError
import ExodusOps.Client.Linearized
import ExodusOps.Telemetry.OtelScope
import ExodusOps.Telemetry.BatchExporter
import ExodusOps.Telemetry.Observed
import ExodusOps.Telemetry.Delivery
import ExodusOps.Telemetry.Exit
import ExodusOps.Telemetry.Exported
import ExodusOps.Telemetry.Logger
import ExodusOps.Telemetry.Reported
import ExodusOps.Telemetry.Bracketing
import ExodusOps.Telemetry.LogLines
import ExodusOps.Telemetry.Tick
import ExodusOps.Telemetry.MonitorThread
import ExodusOps.Telemetry.Correlation
import ExodusOps.Telemetry.Reasons
