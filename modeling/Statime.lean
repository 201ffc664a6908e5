import Statime.Rust.Panic
import Statime.Rust.Bytes
import Statime.Rust.Fixed
import Statime.Rust.Float
import Statime.Rust.ArrayVec
import Statime.Rust.Iter
import Statime.Rust.RingBuffer
import Statime.Rust.Order
import Statime.Machine.Run
import Statime.Machine.TwoRuns
import Statime.Machine.Election
import Statime.Time
import Statime.OverlayClock
import Statime.Config
import Statime.Datastructures.Common
import Statime.Datastructures.Tlv
import Statime.Datastructures.Datasets
import Statime.Datastructures.Messages
import Statime.Datastructures.Codec
import Statime.Datastructures.TlvRecords
import Statime.Datastructures.TlvGrammar
import Statime.Datastructures.Unwritten
import Statime.Datastructures.Parsing
import Statime.Bmc.DatasetComparison
import Statime.Bmc.ForeignMaster
import Statime.Bmc.Bmca
import Statime.Bmc.Ranking
import Statime.Bmc.Records
import Statime.Bmc.Rounds
import Statime.Bmc.Held
import Statime.Bmc.Selection
import Statime.Bmc.Calls
import Statime.Bmc.Representation
import Statime.Bmc.Kept
import Statime.Bmc.Newer
import Statime.Port.State
import Statime.Port.Basic
import Statime.Port.Slave
import Statime.Port.Master
import Statime.Port.Bmca
import Statime.Port.Handle
import Statime.Port.Answers
import Statime.PtpInstance
import Statime.TlvForwarder
import Statime.Port.DelayExchange
import Statime.Port.Announce
import Statime.Port.Core
import Statime.Port.Refinement
import Statime.Port.Machine
import Statime.Port.Provenance
import Statime.Port.Delivery
import Statime.Port.Duplicates
import Statime.Port.ArrivalOrder
import Statime.Port.TimedMessages
import Statime.Port.PeerDelay
import Statime.Port.TimeRanges
import Statime.Port.SlaveArithmetic
import Statime.Port.SlaveOverflow
import Statime.Port.TwoResponders
import Statime.Port.Steering
import Statime.Port.Servo
import Statime.Port.TwoWay
import Statime.Port.Following
import Statime.Port.NewMaster
import Statime.Port.Datasets
import Statime.Port.Effects
import Statime.Port.PacketBuffers
import Statime.Port.MasterArithmetic
import Statime.Port.Understood
import Statime.Port.Forwarding
import Statime.Instance.PathTrace
import Statime.Instance.ParentUpdate
import Statime.Instance.Round
import Statime.Instance.SingleSlave
import Statime.Instance.Assertions
import Statime.Instance.Faulty
import Statime.Instance.SelectedMaster
import Statime.Instance.SlaveOnly
import Statime.Instance.Heard
import Statime.Instance.Acceptable
import Statime.Instance.RoundDatasets
import Statime.Instance.StepsRemoved
import Statime.Instance.MasterOnly
import Statime.Instance.PortOrder
import Statime.Instance.Agreement
import Statime.Instance.Failover
import Statime.Port.Sent
import Statime.Port.Genuine
import Statime.Port.Timers
import Statime.Port.BmcaCalls
import Statime.Network.Basic
import Statime.Network.Timestamps
import Statime.Network.Exchanges
import Statime.Network.Instances
import Statime.Daemon.Timers
import Statime.Port.Multiport
import Statime.Instance.ParentTrace
import Statime.Daemon.EthernetPortTask
import Statime.Daemon.PortTasks
import Statime.Daemon.StopTheWorld
import Statime.Daemon.MetricsExporter
import Statime.Daemon.Clocks
import Statime.Daemon.ClockWiring
import Statime.Daemon.ClockModes
import Statime.Daemon.ClockTree
import Statime.Rust.Float64
import Statime.Filters.Matrix
import Statime.Filters.Kalman
import Statime.Filters.MeasurementError
import Statime.Filters.Covariance
import Statime.Filters.Uncertainty
import Statime.Filters.FilterTime
import Statime.Filters.LocalTime
import Statime.Filters.NotAhead
import Statime.Filters.ReportedDelay
