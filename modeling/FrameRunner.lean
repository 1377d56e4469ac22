import FrameRunner.Lib.Slots
import FrameRunner.Lib.Run
import FrameRunner.Lib.ShortestPath
import FrameRunner.Network.Bridging
import FrameRunner.Network.Forwarding
import FrameRunner.Network.Delivery
import FrameRunner.Rip.NextHop
import FrameRunner.Routing.StaticRoute
import FrameRunner.Routing.History
import FrameRunner.Ospf.SpfOrder
import FrameRunner.Ospf.Merge
import FrameRunner.Ospf.Adjacency
import FrameRunner.Engine.Order
import FrameRunner.Tcp.Queue
import FrameRunner.Tcp.Repair
import FrameRunner.Tcp.Resend
import FrameRunner.Tcp.Table
import FrameRunner.Tcp.Ack
import FrameRunner.Rip.Replacement
import FrameRunner.Rip.Chunks
import FrameRunner.Engine.Storage
import FrameRunner.Engine.Trace
import FrameRunner.Network.LearningBridge
import FrameRunner.Tcp.Ownership
import FrameRunner.Network.Disposal
import FrameRunner.Ospf.HelloDelivery
import FrameRunner.Ospf.Flood
import FrameRunner.Network.Accounting
import FrameRunner.Tcp.Failure
import FrameRunner.Tcp.Listener
import FrameRunner.Tcp.Steps
import FrameRunner.Tcp.Window
import FrameRunner.Tcp.Upcalls
import FrameRunner.Tcp.SimSteps
import FrameRunner.Tcp.TimeWait
import FrameRunner.Tcp.StaleTimers
import FrameRunner.Network.Checksums
import FrameRunner.Network.IcmpChecksums
import FrameRunner.Network.IpLength
import FrameRunner.Network.Reception
import FrameRunner.Network.OutputFailure
import FrameRunner.Lib.SlotQueue
import FrameRunner.Network.ArpPending
import FrameRunner.Lib.ExpiringMap
import FrameRunner.Network.ArpMap
import FrameRunner.Network.Masks
import FrameRunner.Ospf.SpfExits
import FrameRunner.Lib.Memory
import FrameRunner.Network.PacketMemory
import FrameRunner.Network.PacketWindow
import FrameRunner.Engine.Injection
import FrameRunner.Lib.Iterate
import FrameRunner.Engine.Loops
import FrameRunner.Engine.EndTime
import FrameRunner.Network.Capture
import FrameRunner.Network.PacketTrace
import FrameRunner.Lib.Sweep
import FrameRunner.Engine.Periodic
import FrameRunner.Rip.Aging
import FrameRunner.Rip.Timers
import FrameRunner.Ospf.Timers
import FrameRunner.Lib.HopByHop
import FrameRunner.Network.Transit
import FrameRunner.Ospf.Domain
import FrameRunner.Ospf.Exchange
import FrameRunner.Lib.Announce
import FrameRunner.Rip.Walks
import FrameRunner.Rip.Convergence
import FrameRunner.Lib.Flooding
import FrameRunner.Ospf.Flooding
import FrameRunner.Tcp.Completion
import FrameRunner.Tcp.Recovery
import FrameRunner.Network.UdpPorts
import FrameRunner.Network.SourceAddresses
import FrameRunner.Lib.Isolation
import FrameRunner.Routing.Interleaving
