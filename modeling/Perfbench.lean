import Perfbench.Counter.Representation
import Perfbench.Counter.Duplicates
import Perfbench.Counter.IndexSafety
import Perfbench.Counter.Latency
import Perfbench.Logfile
import Perfbench.Report
import Perfbench.SendLoop
import Perfbench.Dataplane
import Perfbench.Controller
import Perfbench.Pacing
import Perfbench.Replay
import Perfbench.SampleCycles
import Perfbench.Connection.Running
import Perfbench.Connection.Conns
import Perfbench.Connection.Versions
import Perfbench.Connection.Established
import Perfbench.Connection.EchoRun
import Perfbench.Connection.Liveness
import Perfbench.Launch
import Perfbench.FinishedOnce
import Perfbench.IntervalSums
import Perfbench.Testcases.FeaturesDelivery
import Perfbench.Testcases.SharedLogs
import Perfbench.Testcases.RegisteredSwitches
import Perfbench.Testcases.SwitchIdentities
import Perfbench.Testcases.SwitchIndexes
import Perfbench.Connection.ByteStream
import Perfbench.Switch.ReadBounds
import Perfbench.Switch.Headers
import Perfbench.Switch.AddFlow
import Perfbench.Switch.Covering
import Perfbench.Testcases.PacketInSandwich
import Perfbench.Testcases.PacketOut
import Perfbench.IndexLoops
import Perfbench.MaxPackets
import Perfbench.Switch.BufferAccounts
import Perfbench.Switch.CaptureThreads
import Perfbench.Switch.BufferSafety
import Perfbench.Switch.Lookup
import Perfbench.Switch.Agent
import Perfbench.Connection.Handshake
import Perfbench.Testcases.FeaturesRefinement
