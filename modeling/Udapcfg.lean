import Udapcfg.Infra.OrdMap
import Udapcfg.Infra.Bytes
import Udapcfg.Infra.Framing
import Udapcfg.Infra.Decimal
import Udapcfg.Infra.ItemList
import Udapcfg.Infra.Utf8
import Udapcfg.Infra.StableSort
import Udapcfg.Infra.Backlog
import Udapcfg.Infra.LexOrder
import Udapcfg.Infra.Ascii
import Udapcfg.Infra.Template
import Udapcfg.Udap.Hex
import Udapcfg.Udap.Mac
import Udapcfg.Udap.Protocol
import Udapcfg.Udap.Tlv
import Udapcfg.Udap.Parameters
import Udapcfg.Udap.GetData
import Udapcfg.Udap.Device
import Udapcfg.Udap.Transport
import Udapcfg.Udap.Session
import Udapcfg.Udap.MultiTransport
import Udapcfg.Udap.Client
import Udapcfg.Udap.Interfaces
import Udapcfg.Udap.Ops.Reply
import Udapcfg.Udap.Ops.Config
import Udapcfg.Udap.Ops.GetIp
import Udapcfg.Udap.Ops.GetUuid
import Udapcfg.Udap.Ops.Call
import Udapcfg.Udap.Ops.Cases
import Udapcfg.Udap.Ops.Recorded
import Udapcfg.Mocksbr.Device
import Udapcfg.Mocksbr.State
import Udapcfg.Mocksbr.Wire
import Udapcfg.Mocksbr.Responses
import Udapcfg.Mocksbr.Network
import Udapcfg.Mocksbr.Transport
import Udapcfg.Properties.CommitBarrier
import Udapcfg.Properties.ForeignDatagrams
import Udapcfg.Properties.SetData
import Udapcfg.Properties.GetData
import Udapcfg.Properties.Network
import Udapcfg.Properties.Overlay
import Udapcfg.Properties.Exchange
import Udapcfg.Properties.SetThenGet
import Udapcfg.Properties.CacheRecord
import Udapcfg.Properties.LastWrite
import Udapcfg.Properties.ReadModifyWrite
import Udapcfg.Properties.Writes
import Udapcfg.Properties.PartialWrite
import Udapcfg.Properties.Retransmission
import Udapcfg.Properties.Acknowledged
import Udapcfg.Properties.InterfaceOrder
import Udapcfg.Properties.NaturalOrder
import Udapcfg.Properties.TlvCodec
import Udapcfg.Properties.HeaderCodec
import Udapcfg.Properties.ResponseGrammar
import Udapcfg.Properties.SetDataCodec
import Udapcfg.Properties.Composition
import Udapcfg.Properties.GetExact
import Udapcfg.Properties.MultiTransport
import Udapcfg.Properties.Retirement
import Udapcfg.Properties.FanOut
import Udapcfg.Properties.Discovery
import Udapcfg.Properties.LateReplies
import Udapcfg.Properties.DiscoverNetwork
import Udapcfg.Properties.DisjointWrites
import Udapcfg.Properties.Persistence
import Udapcfg.Properties.SyntheticKeys
import Udapcfg.Properties.Validation
import Udapcfg.Properties.WriteBack
import Udapcfg.Properties.MacText
import Udapcfg.Properties.ReadWriteCycle
import Udapcfg.Properties.Recovery
import Udapcfg.Infra.Machine
import Udapcfg.Udap.Udp
import Udapcfg.Properties.Simulation
import Udapcfg.Properties.WireTrace
import Udapcfg.Properties.Udp
import Udapcfg.Properties.ReplySize
import Udapcfg.Properties.Service
import Udapcfg.Mocksbr.Clock
import Udapcfg.Properties.Clock
import Udapcfg.Properties.Deadline
import Udapcfg.Udap.MultiSocket
import Udapcfg.Properties.SharedDiscovery
import Udapcfg.Properties.ClientHistory
import Udapcfg.Properties.SharedProgram
import Udapcfg.Mocksbr.Shared
import Udapcfg.Properties.Isolation
import Udapcfg.Properties.Programs
import Udapcfg.Udap.ClientCalls
import Udapcfg.Udap.Host
import Udapcfg.Cli.Output
import Udapcfg.Cli.Run
import Udapcfg.Infra.Attempt
import Udapcfg.Properties.Sockets
import Udapcfg.Infra.Lines
import Udapcfg.Properties.Cli
import Udapcfg.Properties.CliDiscover
import Udapcfg.Properties.CliMain
import Udapcfg.Udap.NetConfig
import Udapcfg.Properties.AddressText
import Udapcfg.Properties.InterfacesTable
