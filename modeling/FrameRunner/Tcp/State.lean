import FrameRunner.Common.Datagram
import FrameRunner.Common.Ref
import FrameRunner.Engine.Event
import FrameRunner.Lib.Slots

/-!
# TCP state (`protocols/tcp.h`)

The connection table, the segments on the wire, and what a call of the module
gives back: segments for the IP layer, events for the scheduler and calls of the
application's handlers. A handler is called last in `tcp_receive`, so a call it
makes itself is a call after that one.
-/

namespace FrameRunner

open FrameRunner.Lib

/-! ## Constants -/

def ipProtoTcp : UInt8 := 6

def tcpHdrLen : ℕ := 20
def tcpHdrWords : UInt16 := 5
def tcpFlagFin : UInt8 := 0x01
def tcpFlagSyn : UInt8 := 0x02
def tcpFlagPsh : UInt8 := 0x08
def tcpFlagAck : UInt8 := 0x10
abbrev tcpMaxConns : ℕ := 64
abbrev tcpMaxInflight : ℕ := 1
def tcpRetransmitUs : UInt64 := 1000000
def tcpTimeWaitUs : UInt64 := 2 * tcpRetransmitUs
def tcpMss : ℕ := 1460
def tcpDefaultWindow : UInt16 := 65535

/-! ## Records -/

/-- `TcpState`. -/
inductive TcpState where
  | closed | listen | synSent | synReceived | established | finWait1 | finWait2 | closeWait
  | closing | lastAck | timeWait
  deriving DecidableEq, Repr

/-- `TcpSegment`; `pkt` are the bytes of the tracked clone. -/
structure TcpSegment where
  pkt : Option (List UInt8) := none
  seqStart : UInt32 := 0
  seqEnd : UInt32 := 0
  flags : UInt8 := 0
  sentTs : UInt64 := 0
  retransmits : ℕ := 0
  acked : Bool := false
  deriving DecidableEq, Repr

/-- `TcbSendQueue`. -/
structure TcbSendQueue where
  entries : Slots tcpMaxInflight TcpSegment := fun _ => {}
  count : Int := 0

/-- `Tcb`; the all-zero record is the default. -/
structure Tcb where
  localIp : UInt32 := 0
  remoteIp : UInt32 := 0
  localPort : UInt16 := 0
  remotePort : UInt16 := 0
  state : TcpState := .closed
  sndUna : UInt32 := 0
  sndNxt : UInt32 := 0
  rcvNxt : UInt32 := 0
  rcvWnd : UInt16 := 0
  sndWnd : UInt16 := 0
  sendq : TcbSendQueue := {}
  retransmitTs : UInt64 := 0
  recvHandler : Option AppRef := none
  connectHandler : Option AppRef := none
  handlerCtx : Option AppRef := none
  valid : Bool := false

/-- `TcpTable`. -/
structure TcpTable where
  tcbs : Slots tcpMaxConns Tcb
  count : ℕ

/-- A `Tcb *` into the table. -/
abbrev TcbIndex := Fin tcpMaxConns

/-- The table with `*tcb` replaced. -/
def TcpTable.set (table : TcpTable) (i : TcbIndex) (tcb : Tcb) : TcpTable :=
  { table with tcbs := Function.update table.tcbs i tcb }

@[simp] theorem TcpTable.set_self (table : TcpTable) (i : TcbIndex) (tcb : Tcb) :
    (table.set i tcb).tcbs i = tcb := Function.update_self ..

/-! ## What a call gives back -/

/-- The callbacks that TCP puts on its events. -/
inductive TcpTimer where
  | retransmitHandler
  | timeWaitHandler
  deriving DecidableEq, Repr

/-- An event of TCP; its `data` is a `Tcb *`. -/
abbrev TcpEvent := Event TcpTimer TcbIndex

/-- A call of `recv_handler` or `connect_handler`. -/
inductive TcpUpcall where
  | recv (tcb : TcbIndex) (payload : List UInt8) (handler : AppRef)
  | connect (tcb : TcbIndex) (handler : AppRef)
  deriving DecidableEq, Repr

structure TcpOut where
  sent : List IpDatagram := []
  events : List TcpEvent := []
  upcalls : List TcpUpcall := []

/-! ## Segments -/

/-- The bytes that `tcp_send_segment` writes (lines 205–220). -/
def tcpSegmentBytes (srcPort dstPort : UInt16) (seq ack : UInt32) (flags : UInt8)
    (payload : List UInt8) : List UInt8 :=
  be16 srcPort ++ (be16 dstPort ++ (be32 seq ++ (be32 ack ++
    (be16 (tcpHdrWords <<< 12 ||| flags.toUInt16) ++ (be16 tcpDefaultWindow ++
    (be16 0 ++ (be16 0 ++ payload)))))))

/-- The header fields that `tcp_receive` reads (lines 503–518). -/
structure TcpFields where
  srcPort : UInt16
  dstPort : UInt16
  seqNum : UInt32
  ackNum : UInt32
  hdrWords : UInt16
  flags : UInt8
  payload : List UInt8
  deriving DecidableEq, Repr

/-- The reads of lines 503–518 and the bytes after the header. -/
def tcpFields (data : List UInt8) : TcpFields where
  srcPort := getU16 data 0
  dstPort := getU16 data 2
  seqNum := getU32 data 4
  ackNum := getU32 data 8
  hdrWords := getU16 data 12 >>> 12
  flags := (getU16 data 12 &&& 0x3F).toUInt8
  payload := data.drop tcpHdrLen

theorem length_tcpSegmentBytes (srcPort dstPort : UInt16) (seq ack : UInt32) (flags : UInt8)
    (payload : List UInt8) :
    (tcpSegmentBytes srcPort dstPort seq ack flags payload).length = tcpHdrLen + payload.length := by
  simp [tcpSegmentBytes, tcpHdrLen]
  omega

/-- The receiver reads back what the sender wrote, for flags of six bits. -/
theorem tcpFields_tcpSegmentBytes (srcPort dstPort : UInt16) (seq ack : UInt32) {flags : UInt8}
    (hw : (tcpHdrWords <<< 12 ||| flags.toUInt16) >>> 12 = tcpHdrWords)
    (hf : ((tcpHdrWords <<< 12 ||| flags.toUInt16) &&& 0x3F).toUInt8 = flags)
    (payload : List UInt8) :
    tcpFields (tcpSegmentBytes srcPort dstPort seq ack flags payload) =
      { srcPort := srcPort, dstPort := dstPort, seqNum := seq, ackNum := ack,
        hdrWords := tcpHdrWords, flags := flags, payload := payload } := by
  have h0 := getU16_append [] (be16 dstPort ++ (be32 seq ++ (be32 ack ++
    (be16 (tcpHdrWords <<< 12 ||| flags.toUInt16) ++ (be16 tcpDefaultWindow ++
    (be16 0 ++ (be16 0 ++ payload))))))) srcPort (i := 0) rfl
  have h2 := getU16_append (be16 srcPort) (be32 seq ++ (be32 ack ++
    (be16 (tcpHdrWords <<< 12 ||| flags.toUInt16) ++ (be16 tcpDefaultWindow ++
    (be16 0 ++ (be16 0 ++ payload)))))) dstPort (i := 2) rfl
  have h4 := getU32_append (be16 srcPort ++ be16 dstPort) (be32 ack ++
    (be16 (tcpHdrWords <<< 12 ||| flags.toUInt16) ++ (be16 tcpDefaultWindow ++
    (be16 0 ++ (be16 0 ++ payload))))) seq (i := 4) rfl
  have h8 := getU32_append (be16 srcPort ++ (be16 dstPort ++ be32 seq))
    (be16 (tcpHdrWords <<< 12 ||| flags.toUInt16) ++ (be16 tcpDefaultWindow ++
    (be16 0 ++ (be16 0 ++ payload)))) ack (i := 8) rfl
  have h12 := getU16_append (be16 srcPort ++ (be16 dstPort ++ (be32 seq ++ be32 ack)))
    (be16 tcpDefaultWindow ++ (be16 0 ++ (be16 0 ++ payload)))
    (tcpHdrWords <<< 12 ||| flags.toUInt16) (i := 12) rfl
  simp only [List.append_assoc, List.nil_append] at h0 h2 h4 h8 h12
  simp only [tcpFields, tcpSegmentBytes, h0, h2, h4, h8, h12, hw, hf]
  rfl

end FrameRunner
