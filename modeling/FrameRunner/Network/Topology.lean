import FrameRunner.Common.Ref
import FrameRunner.Engine.Scheduler
import FrameRunner.Lib.Slots
import FrameRunner.Network.Packet
import FrameRunner.Routing.RouteTable

/-!
# The simulated network

`Topology` is what the packet path reads and never writes: interfaces, links,
devices, routes and registered handlers. `Net` is what it changes: the
scheduler, the ARP caches, the MAC tables and the byte counters. Tests of
pointers for `NULL` are modelled where the pointer can be `NULL` once the device
is set up; a failing `malloc` is not modelled, and the times kept beside the
counters are left out.

A handler of the application, and a protocol handler other than `udp_receive`,
is called but not followed: `Net.calls` records the call.
-/

namespace FrameRunner

open FrameRunner.Lib

/-! ## Addresses -/

/-- `uint8_t mac[6]`. -/
structure Mac where
  b0 : UInt8
  b1 : UInt8
  b2 : UInt8
  b3 : UInt8
  b4 : UInt8
  b5 : UInt8
  deriving DecidableEq, Repr

/-- The six bytes of an address, as they lie in a header. -/
def Mac.bytes (mac : Mac) : List UInt8 := [mac.b0, mac.b1, mac.b2, mac.b3, mac.b4, mac.b5]

@[simp] theorem Mac.length_bytes (mac : Mac) : mac.bytes.length = 6 := rfl

/-- The address at offset `i` of a header. -/
def getMac (bytes : List UInt8) (i : ℕ) : Mac :=
  ⟨getU8 bytes i, getU8 bytes (i + 1), getU8 bytes (i + 2), getU8 bytes (i + 3),
    getU8 bytes (i + 4), getU8 bytes (i + 5)⟩

/-- `ETH_BROADCAST`. -/
def ethBroadcast : Mac := ⟨0xFF, 0xFF, 0xFF, 0xFF, 0xFF, 0xFF⟩

/-- The address of one station: no group bit. -/
def Mac.IsUnicast (mac : Mac) : Prop := mac.b0 &&& 1 = 0

instance (mac : Mac) : Decidable mac.IsUnicast := inferInstanceAs (Decidable (_ = _))

/-! ## What the packet path reads -/

/-- `RxHandler` with its `handler_ctx`. -/
inductive RxHandler where
  | ip (stack : StackRef)
  | router (router : RouterRef)
  | switch (sw : SwitchRef)
  | app (fn : AppRef)
  deriving DecidableEq, Repr

/-- `Interface` up to its counters. `ipAddr` is the address in host byte order,
    `errDisabled` is `state == IFACE_ERR_DISABLED`. -/
structure Interface where
  mac : Mac
  ipAddr : UInt32
  prefixLen : UInt8
  up : Bool
  link : Option LinkRef
  rxHandler : Option RxHandler
  arpCache : Option CacheRef
  errDisabled : Bool := false

/-- `Link`; the bandwidth and the loss rate are never read. -/
structure Link where
  endA : IfaceRef
  endB : IfaceRef
  delayMs : UInt32
  up : Bool

/-- `Router`. -/
structure Router where
  interfaces : List IfaceRef
  arpCache : CacheRef
  routeTbl : RouteTable
  ipStack : StackRef

/-- `Udp_Recv_Handler` with its context. -/
inductive UdpRecvHandler where
  | ripReceive (state : RipRef)
  | app (fn : AppRef)
  deriving DecidableEq, Repr

/-- `UdpSocket`. -/
structure UdpSocket where
  port : UInt16 := 0
  valid : Bool := false
  recvHandler : UdpRecvHandler := .app 0
  deriving DecidableEq, Repr

/-- `UDP_MAX_SOCKETS`. -/
abbrev udpMaxSockets : ℕ := 32

/-- `UdpContext`: whether it has a simulator, and the sockets of its state. -/
structure UdpContext where
  sim : Bool
  sockets : Slots udpMaxSockets UdpSocket

/-- `IpProtocolEntry`. -/
inductive IpProtocolHandler where
  | udpReceive (ctx : UdpRef)
  | other (fn : AppRef)
  deriving DecidableEq, Repr

/-- Devices, interfaces and links with everything registered at them. `devices`
    lists the interfaces of each device of `sim->topo`, and `memory n` is what
    the memory of the `n`-th packet holds before it is written. -/
structure Topology where
  iface : IfaceRef → Interface
  link : LinkRef → Link
  devices : List (List IfaceRef)
  router : RouterRef → Router
  ports : SwitchRef → List IfaceRef
  ipStack : StackRef → UInt8 → Option IpProtocolHandler
  udp : UdpRef → UdpContext
  memory : ℕ → ℕ → UInt8

/-! ## What the packet path changes -/

/-- An `EventCallback` with its context. -/
inductive NetCallback where
  | ethernetReceiveEvent
  | arpRequestHandler
  | arpReplyHandler
  | macAgeHandler (sw : SwitchRef)
  | other (fn : AppRef)
  deriving DecidableEq, Repr

/-- The pointers of an `Event`. -/
structure NetPayload where
  srcDevice : Option IfaceRef := none
  dstDevice : Option IfaceRef := none
  packet : Option Packet := none
  deriving DecidableEq, Repr

abbrev NetEvent := Event NetCallback NetPayload

/-- `ArpCacheEntry`; the all-zero record is the default. -/
structure ArpCacheEntry where
  ipAddr : UInt32 := 0
  macAddr : Mac := ⟨0, 0, 0, 0, 0, 0⟩
  timestamp : UInt64 := 0
  valid : Bool := false
  deriving DecidableEq, Repr

/-- `ArpPendingPacket`; the all-zero record is the default. -/
structure ArpPendingPacket where
  targetIp : UInt32 := 0
  ethertype : UInt16 := 0
  iface : Option IfaceRef := none
  packet : Option Packet := none
  valid : Bool := false
  deriving DecidableEq, Repr

abbrev arpMaxCacheSize : ℕ := 256
abbrev arpMaxPendingPackets : ℕ := 32

/-- `ArpCache`. -/
structure ArpCache where
  entries : Slots arpMaxCacheSize ArpCacheEntry
  count : ℤ
  pending : Slots arpMaxPendingPackets ArpPendingPacket
  pendingCount : ℕ

/-- `MacEntry`; the all-zero record is the default. -/
structure MacEntry where
  mac : Mac := ⟨0, 0, 0, 0, 0, 0⟩
  port : Option IfaceRef := none
  timestamp : UInt64 := 0
  valid : Bool := false
  deriving DecidableEq, Repr

abbrev macTableSize : ℕ := 1024

/-- `MacTable`. -/
structure MacTable where
  entries : Slots macTableSize MacEntry
  count : ℤ

/-- The counters of an `Interface`. -/
structure IfaceStats where
  txBytes : ℕ := 0
  rxBytes : ℕ := 0
  rxDropped : ℕ := 0
  rxErrors : ℕ := 0
  txErrors : ℕ := 0
  deriving DecidableEq, Repr

/-- A call at a boundary of the model: a packet handed to `ip_output`, an event
    handed to the scheduler, and a packet handed to a receive handler. -/
inductive NetCall where
  | ipOutput (srcIp dstIp : UInt32) (protocol : UInt8) (payload : List UInt8)
  | schedule (e : NetEvent)
  | rxHandler (iface : IfaceRef) (pkt : Packet) (ethertype : UInt16)
  | protocol (fn : AppRef) (iface : IfaceRef) (pkt : Packet)
  | udpRecv (handler : UdpRecvHandler) (iface : IfaceRef) (srcIp : UInt32) (srcPort : UInt16)
      (payload : Packet)

/-- The state of the packet path. `allocs` counts the packets created so far,
    `calls` are the calls made so far, oldest first. -/
structure Net where
  sched : Scheduler NetCallback NetPayload
  arp : CacheRef → ArpCache
  macTbl : SwitchRef → MacTable
  stats : IfaceRef → IfaceStats
  allocs : ℕ
  calls : List NetCall

namespace Net

/-- A call is recorded. -/
def record (net : Net) (c : NetCall) : Net := { net with calls := net.calls ++ [c] }

/-- `scheduler_schedule` on the simulator's scheduler. -/
def schedule (net : Net) (e : NetEvent) : Net :=
  { net.record (.schedule e) with sched := schedulerSchedule net.sched e }

/-- Memory for one more packet is taken. -/
def alloc (net : Net) : Net := { net with allocs := net.allocs + 1 }

/-- The counters of an interface are changed. -/
def addStats (net : Net) (iface : IfaceRef) (f : IfaceStats → IfaceStats) : Net :=
  { net with stats := Function.update net.stats iface (f (net.stats iface)) }

abbrev txBytes (net : Net) (iface : IfaceRef) (n : ℕ) : Net :=
  net.addStats iface fun s => { s with txBytes := s.txBytes + n }

abbrev rxBytes (net : Net) (iface : IfaceRef) (n : ℕ) : Net :=
  net.addStats iface fun s => { s with rxBytes := s.rxBytes + n }

abbrev rxDropped (net : Net) (iface : IfaceRef) : Net :=
  net.addStats iface fun s => { s with rxDropped := s.rxDropped + 1 }

abbrev rxErrors (net : Net) (iface : IfaceRef) : Net :=
  net.addStats iface fun s => { s with rxErrors := s.rxErrors + 1 }

abbrev txErrors (net : Net) (iface : IfaceRef) : Net :=
  net.addStats iface fun s => { s with txErrors := s.txErrors + 1 }

/-- An ARP cache is replaced. -/
def setArp (net : Net) (cache : CacheRef) (c : ArpCache) : Net :=
  { net with arp := Function.update net.arp cache c }

/-- A MAC table is replaced. -/
def setMacTbl (net : Net) (sw : SwitchRef) (table : MacTable) : Net :=
  { net with macTbl := Function.update net.macTbl sw table }

/-! What one change leaves alone. -/

variable (net : Net) (c : NetCall) (e : NetEvent) (iface : IfaceRef)
  (f : IfaceStats → IfaceStats) (cache : CacheRef) (a : ArpCache) (sw : SwitchRef) (m : MacTable)

@[simp] theorem record_calls : (net.record c).calls = net.calls ++ [c] := rfl
@[simp] theorem record_sched : (net.record c).sched = net.sched := rfl
@[simp] theorem record_arp : (net.record c).arp = net.arp := rfl
@[simp] theorem record_macTbl : (net.record c).macTbl = net.macTbl := rfl
@[simp] theorem record_allocs : (net.record c).allocs = net.allocs := rfl

@[simp] theorem schedule_calls : (net.schedule e).calls = net.calls ++ [.schedule e] := rfl
@[simp] theorem schedule_sched : (net.schedule e).sched = schedulerSchedule net.sched e := rfl
@[simp] theorem schedule_arp : (net.schedule e).arp = net.arp := rfl
@[simp] theorem schedule_macTbl : (net.schedule e).macTbl = net.macTbl := rfl

@[simp] theorem alloc_calls : net.alloc.calls = net.calls := rfl
@[simp] theorem alloc_sched : net.alloc.sched = net.sched := rfl
@[simp] theorem alloc_arp : net.alloc.arp = net.arp := rfl
@[simp] theorem alloc_macTbl : net.alloc.macTbl = net.macTbl := rfl

@[simp] theorem addStats_calls : (net.addStats iface f).calls = net.calls := rfl
@[simp] theorem addStats_sched : (net.addStats iface f).sched = net.sched := rfl
@[simp] theorem addStats_arp : (net.addStats iface f).arp = net.arp := rfl
@[simp] theorem addStats_macTbl : (net.addStats iface f).macTbl = net.macTbl := rfl

@[simp] theorem setArp_calls : (net.setArp cache a).calls = net.calls := rfl
@[simp] theorem setArp_sched : (net.setArp cache a).sched = net.sched := rfl
@[simp] theorem setArp_macTbl : (net.setArp cache a).macTbl = net.macTbl := rfl
@[simp] theorem setArp_arp : (net.setArp cache a).arp = Function.update net.arp cache a := rfl

@[simp] theorem setMacTbl_calls : (net.setMacTbl sw m).calls = net.calls := rfl
@[simp] theorem setMacTbl_sched : (net.setMacTbl sw m).sched = net.sched := rfl
@[simp] theorem setMacTbl_arp : (net.setMacTbl sw m).arp = net.arp := rfl
@[simp] theorem setMacTbl_macTbl :
    (net.setMacTbl sw m).macTbl = Function.update net.macTbl sw m := rfl

end Net

end FrameRunner
