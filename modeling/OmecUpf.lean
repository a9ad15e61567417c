import OmecUpf.Lib.Go
import OmecUpf.Lib.Loop
import OmecUpf.Lib.Allocator
import OmecUpf.Lib.Bytes
import OmecUpf.Lib.GoText
import OmecUpf.Lib.GoNet
import OmecUpf.Lib.GoMut
import OmecUpf.Bess.Gtp
import OmecUpf.Bess.Gtpu
import OmecUpf.Bess.GtpuParser
import OmecUpf.Bess.GtpuEcho
import OmecUpf.Bess.Qos
import OmecUpf.Pfcpiface.Rules
import OmecUpf.Pfcpiface.IdAllocator
import OmecUpf.Pfcpiface.IpPool
import OmecUpf.Pfcpiface.Ie
import OmecUpf.Pfcpiface.Upf
import OmecUpf.Pfcpiface.ParseSdf
import OmecUpf.Pfcpiface.ParseRules
import OmecUpf.Pfcpiface.ParsePdr
import OmecUpf.Pfcpiface.SessionQer
import OmecUpf.Pfcpiface.SeqNum
import OmecUpf.Pfcpiface.Conn
import OmecUpf.Pfcpiface.MessagesSession
import OmecUpf.Pfcpiface.Messages
import OmecUpf.Pfcpiface.Teid
import OmecUpf.Pfcpiface.Panics
import OmecUpf.Pfcpiface.SessionQos
import OmecUpf.Pfcpiface.SdfShortcut
import OmecUpf.Pfcpiface.IdAllocatorSpec
import OmecUpf.Pfcpiface.PortRanges
import OmecUpf.Pfcpiface.SessionMetrics
import OmecUpf.Pfcpiface.FlowDescription
import OmecUpf.Conf.RouteControl
import OmecUpf.Pfcpiface.WebService
import OmecUpf.Pfcpiface.Notifier
import OmecUpf.Lib.GoMap
import OmecUpf.Pfcpiface.Pfd
import OmecUpf.Lib.PrefixCover
import OmecUpf.Pfcpiface.PortRangeCover
import OmecUpf.Lib.KeyedFold
import OmecUpf.Bess.FlowMeasure
import OmecUpf.Bess.MeasurePipeline
import OmecUpf.Bess.QosTable
import OmecUpf.Lib.GoChan
import OmecUpf.Pfcpiface.Node
import OmecUpf.Pfcpiface.NodeRegistry
import OmecUpf.Pfcpiface.NodeShutdown
import OmecUpf.Pfcpiface.Requests
