import Lpa.Support.EndAround
import Lpa.Support.BitRun
import Lpa.Support.Keyed
import Lpa.Support.Memory
import Lpa.Support.Runs
import Lpa.Support.Program
import Lpa.Support.Interference
import Lpa.Support.Monitor
import Lpa.Common.Bytes
import Lpa.Common.Headers
import Lpa.Common.Words
import Lpa.Common.Checksum
import Lpa.Common.Engines
import Lpa.Common.Wire
import Lpa.Keepalive.TkoPacket
import Lpa.Offload.Info
import Lpa.Offload.IpChange
import Lpa.Olm.Dispatch
import Lpa.Arp.Model
import Lpa.Arp.Power
import Lpa.Keepalive.NatPacket
import Lpa.Keepalive.TkoEvents
import Lpa.PacketFilter.Config
import Lpa.PacketFilter.Mask
import Lpa.PacketFilter.Filter
import Lpa.PacketFilter.Power
import Lpa.PacketFilter.Faults
import Lpa.PacketFilter.Frames
import Lpa.NetActivity.Handler
import Lpa.NetActivity.Balance
import Lpa.NetActivity.World
import Lpa.NetActivity.Packets
import Lpa.NetActivity.Arrivals
import Lpa.Support.Total
import Lpa.Support.Mutex
import Lpa.Support.Raise
import Lpa.Wowl.Pattern
import Lpa.Wowl.Decode
import Lpa.Wowl.Capability
import Lpa.Offload.IpClients
import Lpa.Wowl.Power
import Lpa.NetActivity.Inactivity
import Lpa.NetActivity.SuspendTime
import Lpa.NetActivity.CallTime
import Lpa.NetActivity.SuspendTotal
import Lpa.NetActivity.ThreadX
import Lpa.NetActivity.SetUp
import Lpa.NetActivity.Order
import Lpa.NetActivity.Exclusion
import Lpa.NetActivity.Protocol
import Lpa.NetActivity.Offloads
import Lpa.Tlsoe.Model
import Lpa.Tlsoe.TearDown
import Lpa.Tlsoe.Host
import Lpa.Tlsoe.HandOver
import Lpa.Tlsoe.HandBack
import Lpa.Olm.Descriptor
import Lpa.Olm.Lifecycle
import Lpa.Arp.Work
import Lpa.Arp.Dhcp
import Lpa.Arp.StaysOff
import Lpa.Olm.Builtin
import Lpa.Olm.Pointers
import Lpa.Olm.Sessions
import Lpa.Keepalive.NkoRuns
import Lpa.Support.CircularList
import Lpa.Support.WriteRing
import Lpa.Support.Masked
import Lpa.Keepalive.TkoConnect
import Lpa.Keepalive.TkoActivate
import Lpa.Keepalive.ArpTable
import Lpa.Keepalive.TkoConfig
import Lpa.Keepalive.TkoMemory
import Lpa.Tlsoe.Addresses
import Lpa.Tlsoe.Sockets
import Lpa.Keepalive.TkoSleep
import Lpa.Keepalive.TkoSockets
import Lpa.Keepalive.TkoSessions
import Lpa.Tlsoe.Table
import Lpa.Olm.Manager
import Lpa.Olm.Calls
import Lpa.Olm.Balance
import Lpa.Olm.Interfaces
import Lpa.Olm.WorkerThread
