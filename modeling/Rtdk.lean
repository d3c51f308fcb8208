import Rtdk.Partition
import Rtdk.Sealing
import Rtdk.Lossless
import Rtdk.Forgery
import Rtdk.Nonce
import Rtdk.Agreement
import Rtdk.VlanStrip
import Rtdk.Retag
import Rtdk.FrameCondition
import Rtdk.Latency
import Rtdk.Rtt
import Rtdk.Period
import Rtdk.Gaps
import Rtdk.Conserve
import Rtdk.Pflow
import Rtdk.Sane
import Rtdk.Bounds
import Rtdk.MirrorLoop
import Rtdk.Lttt
import Rtdk.Rounds
import Rtdk.MessagePool
import Rtdk.Unsealed
import Rtdk.Routing
import Rtdk.Burst
import Rtdk.Extremes
import Rtdk.Accumulator
import Rtdk.Cnp
import Rtdk.ProbeTiming
import Rtdk.Ratt
import Rtdk.Smear
import Rtdk.RattArgs
import Rtdk.PflowRx
import Rtdk.GlobalStats
import Rtdk.Interval
import Rtdk.SentCount
import Rtdk.Launch
import Rtdk.Runs
import Rtdk.Tally
import Rtdk.Hist
import Rtdk.Extent
import Rtdk.Schedule
import Rtdk.Numerals
import Rtdk.ConfigRead
import Rtdk.NumericConfig
import Rtdk.StatSetup
import Rtdk.RxDeadline
import Rtdk.OnesComplement
import Rtdk.UdpFrame
import Rtdk.Blocks
import Rtdk.LtttRx
import Rtdk.Snprintf
import Rtdk.LogRecord
import Rtdk.MetaCodec
import Rtdk.DoWhile
import Rtdk.SendPackets
import Rtdk.Json
import Rtdk.MqttMessage
import Rtdk.DeltaMessage
import Rtdk.StatsMessage
import Rtdk.StatsPool
import Rtdk.Duration
import Rtdk.Escapes
import Rtdk.Strqtok
import Rtdk.Workload
import Rtdk.Fuel
import Rtdk.RattMirror
import Rtdk.ToolLog
import Rtdk.Shutdown
import Rtdk.WakeUps
import Rtdk.Dissector
import Rtdk.HistogramPlot
import Rtdk.Allocation
import Rtdk.ConfigMemory
import Rtdk.PortSetup
import Rtdk.ConfigMeaning
import Rtdk.ToolLogEnd
