import FrameRunner.Tcp.State

/-!
# TCP (`protocols/tcp.c`)

The functions of the module. Each takes the table and what it sees of the
simulator, and returns the new table, its result and what it gives back. An
allocation that fails, a `NULL` argument and the error counters of the interface
are not modelled; a segment that the IP layer refuses is (`ipOk`).
-/

namespace FrameRunner

open FrameRunner.Lib

/-! ## The table -/

/-- `tcp_init` (lines 346–352). -/
def tcpInit : TcpTable where
  tcbs := fun _ => {}
  count := 0

/-- `tcp_alloc_tcb` (lines 5–19). -/
def tcpAllocTcb (table : TcpTable) : Option (TcpTable × TcbIndex) :=
  match Fin.find? fun i => !(table.tcbs i).valid with
  | none => none
  | some i => some ({ table.set i { valid := true } with count := table.count + 1 }, i)

/-- `tcp_release_tcb` (lines 21–36). -/
def tcpReleaseTcb (table : TcpTable) (i : TcbIndex) : TcpTable :=
  { table.set i {} with count := table.count - 1 }

/-- `tcp_find_exact` (lines 128–149). -/
def tcpFindExact (table : TcpTable) (localIp : UInt32) (localPort : UInt16) (remoteIp : UInt32)
    (remotePort : UInt16) : Option TcbIndex :=
  Fin.find? fun i =>
    let tcb := table.tcbs i
    tcb.valid && tcb.state != .listen && tcb.localIp == localIp && tcb.localPort == localPort &&
      tcb.remoteIp == remoteIp && tcb.remotePort == remotePort

/-- `tcp_find_listener` (lines 151–169). -/
def tcpFindListener (table : TcpTable) (localIp : UInt32) (localPort : UInt16) :
    Option TcbIndex :=
  Fin.find? fun i =>
    let tcb := table.tcbs i
    tcb.valid && tcb.state == .listen && (tcb.localIp == localIp || tcb.localIp == 0) &&
      tcb.localPort == localPort

/-! ## The send queue -/

/-- `tcp_sendq_has_unacked` (lines 38–49). -/
def tcpSendqHasUnacked (tcb : Tcb) : Bool :=
  (Fin.find? fun k => (tcb.sendq.entries k).pkt.isSome && !(tcb.sendq.entries k).acked).isSome

/-- `tcp_sendq_track` (lines 80–110); `none` is the result `-1`. -/
def tcpSendqTrack (tcb : Tcb) (clone : List UInt8) (seqStart seqEnd : UInt32) (flags : UInt8)
    (now : UInt64) : Option Tcb :=
  if tcb.sendq.count ≥ tcpMaxInflight then none
  else
    match Fin.find? fun k => (tcb.sendq.entries k).pkt.isNone with
    | none => none
    | some k =>
      let seg : TcpSegment :=
        { pkt := some clone, seqStart := seqStart, seqEnd := seqEnd, flags := flags,
          sentTs := now, retransmits := 0, acked := false }
      some { tcb with
        sendq := { entries := Function.update tcb.sendq.entries k seg
                   count := tcb.sendq.count + 1 } }

/-- One entry in `tcp_sendq_ack`. -/
def tcpSegmentAcked (seg : TcpSegment) (ack : UInt32) : Bool :=
  seg.pkt.isSome && ack ≥ seg.seqEnd

/-- `tcp_sendq_ack` (lines 112–126). -/
def tcpSendqAck (tcb : Tcb) (ack : UInt32) : Tcb :=
  { tcb with
    sendq :=
      { entries := fun k =>
          if tcpSegmentAcked (tcb.sendq.entries k) ack then
            { tcb.sendq.entries k with acked := true, pkt := none }
          else tcb.sendq.entries k
        count := tcb.sendq.count - Slots.count (fun seg => tcpSegmentAcked seg ack) tcb.sendq.entries } }

/-- `fin_is_acked` of the closing states: no entry still holds a FIN. -/
def tcpFinIsAcked (tcb : Tcb) : Bool :=
  (Fin.find? fun k => (tcb.sendq.entries k).pkt.isSome &&
    (tcb.sendq.entries k).flags &&& tcpFlagFin != 0).isNone

/-! ## Sending and timers -/

/-- `tcp_send_segment` (lines 171–240) for the connection of a TCB: the segment
    as `ip_output` took it, whose bytes are those of `*sent_clone`. `none` is the
    result `-1`. -/
def tcpSendSegment (env : IpEnv) (tcb : Tcb) (seq ack : UInt32) (flags : UInt8)
    (payload : List UInt8) : Option IpDatagram :=
  if payload.length > tcpMss then none
  else if env.ipOk then
    some { srcIp := tcb.localIp, dstIp := tcb.remoteIp, protocol := ipProtoTcp,
           data := tcpSegmentBytes tcb.localPort tcb.remotePort seq ack flags payload }
  else none

/-- `sim->sched ? scheduler_now(sim->sched) : 0`. -/
def IpEnv.time (env : IpEnv) : UInt64 := env.now.getD 0

/-- `tcp_schedule_retransmit` (lines 258–296) with or without a context. The event
    has a handler of its own only with one. -/
def tcpScheduleRetransmit (env : IpEnv) (tcpCtx : Bool) (i : TcbIndex) (tcb : Tcb) :
    Tcb × List TcpEvent :=
  match env.now with
  | none => (tcb, [])
  | some t =>
    let now := t + tcpRetransmitUs
    ({ tcb with retransmitTs := now },
      [{ type := .tcpRetransmit, timestamp := now, payload := i,
         handler := if tcpCtx then some .retransmitHandler else none }])

/-- The timer that the entry into `TCP_TIME_WAIT` starts (lines 808–823 and
    854–869). -/
def tcpScheduleTimeWait (env : IpEnv) (i : TcbIndex) : List TcpEvent :=
  match env.now with
  | none => []
  | some t =>
    [{ type := .timerExpired, timestamp := t + tcpTimeWaitUs, payload := i,
       handler := some .timeWaitHandler }]

/-- `tcp_time_wait_handler` (lines 328–344). -/
def tcpTimeWaitHandler (table : TcpTable) (i : TcbIndex) : TcpTable :=
  if !(table.tcbs i).valid then table
  else if (table.tcbs i).state ≠ .timeWait then table
  else tcpReleaseTcb table i

/-- One entry of the send queue in `tcp_retransmit_handler` (lines 1070–1094). The
    flag is the early `return`. -/
def tcpRetransmitEntry (env : IpEnv) (i : TcbIndex) (acc : Tcb × TcpOut × Bool)
    (k : Fin tcpMaxInflight) : Tcb × TcpOut × Bool :=
  let (tcb, out, returned) := acc
  let seg := tcb.sendq.entries k
  match returned, seg.pkt, seg.acked with
  | false, some pkt, false =>
    if !env.ipOk then (tcb, out, true)
    else
      let sent : IpDatagram :=
        { srcIp := tcb.localIp, dstIp := tcb.remoteIp, protocol := ipProtoTcp, data := pkt }
      let seg := { seg with retransmits := seg.retransmits + 1, sentTs := env.now.getD seg.sentTs }
      let (tcb, events) := tcpScheduleRetransmit env true i
        { tcb with sendq := { tcb.sendq with entries := Function.update tcb.sendq.entries k seg } }
      (tcb, { out with sent := out.sent ++ [sent], events := out.events ++ events }, false)
  | _, _, _ => acc

/-- `tcp_retransmit_handler` (lines 1055–1095). -/
def tcpRetransmitHandler (env : IpEnv) (table : TcpTable) (i : TcbIndex) : TcpTable × TcpOut :=
  if !(table.tcbs i).valid then (table, {})
  else
    let (tcb, out, _) :=
      Slots.forEach tcpMaxInflight (tcpRetransmitEntry env i) (table.tcbs i, {}, false)
    (table.set i tcb, out)

/-! ## The API -/

/-- `tcp_listen` (lines 355–389). -/
def tcpListen (table : TcpTable) (localIp : UInt32) (localPort : UInt16)
    (recvFn connectFn ctx : Option AppRef) : TcpTable × Option TcbIndex :=
  if localPort == 0 then (table, none)
  else if (tcpFindListener table localIp localPort).isSome then (table, none)
  else
    match tcpAllocTcb table with
    | none => (table, none)
    | some (table, i) =>
      (table.set i
        { table.tcbs i with
          localIp := localIp, localPort := localPort, remoteIp := 0, remotePort := 0,
          state := .listen, rcvWnd := tcpDefaultWindow, recvHandler := recvFn,
          connectHandler := connectFn, handlerCtx := ctx }, some i)

/-- `tcp_connect` (lines 392–459). -/
def tcpConnect (env : IpEnv) (table : TcpTable) (localIp remoteIp : UInt32)
    (localPort remotePort : UInt16) (recvFn connectFn ctx : Option AppRef) :
    TcpTable × Option TcbIndex × TcpOut :=
  if localIp == 0 || remoteIp == 0 || localPort == 0 || remotePort == 0 then (table, none, {})
  else if (tcpFindExact table localIp localPort remoteIp remotePort).isSome then (table, none, {})
  else
    match tcpAllocTcb table with
    | none => (table, none, {})
    | some (table, i) =>
      let tcb : Tcb :=
        { table.tcbs i with
          localIp := localIp, localPort := localPort, remoteIp := remoteIp,
          remotePort := remotePort, state := .synSent, sndUna := 0, sndNxt := 1, rcvNxt := 0,
          sndWnd := tcpDefaultWindow, rcvWnd := tcpDefaultWindow, recvHandler := recvFn,
          connectHandler := connectFn, handlerCtx := ctx }
      let table := table.set i tcb
      match tcpSendSegment env tcb 0 0 tcpFlagSyn [] with
      | none => (tcpReleaseTcb table i, none, {})
      | some syn =>
        match tcpSendqTrack tcb syn.data 0 1 tcpFlagSyn env.time with
        | none => (tcpReleaseTcb table i, none, { sent := [syn] })
        | some tcb =>
          let (tcb, events) := tcpScheduleRetransmit env false i tcb
          (table.set i tcb, some i, { sent := [syn], events := events })

/-- `tcp_send` (lines 929–994). -/
def tcpSend (env : IpEnv) (table : TcpTable) (i : TcbIndex) (data : List UInt8) :
    TcpTable × Int × TcpOut :=
  let tcb := table.tcbs i
  if !tcb.valid then (table, -1, {})
  else if tcb.state ≠ .established then (table, -1, {})
  else if data.length = 0 then (table, 0, {})
  else
    let sendLen := if data.length > tcpMss then tcpMss else data.length
    if tcpSendqHasUnacked tcb then (table, -1, {})
    else
      let oldSndNxt := tcb.sndNxt
      match tcpSendSegment env tcb oldSndNxt tcb.rcvNxt (tcpFlagAck ||| tcpFlagPsh)
          (data.take sendLen) with
      | none => (table, -1, {})
      | some pkt =>
        match tcpSendqTrack tcb pkt.data oldSndNxt (oldSndNxt + UInt32.ofNat sendLen)
            (tcpFlagAck ||| tcpFlagPsh) env.time with
        | none => (table, -1, { sent := [pkt] })
        | some tcb =>
          let (tcb, events) := tcpScheduleRetransmit env false i
            { tcb with sndNxt := tcb.sndNxt + UInt32.ofNat sendLen }
          (table.set i tcb, 0, { sent := [pkt], events := events })

/-- `tcp_close` (lines 997–1053). -/
def tcpClose (env : IpEnv) (table : TcpTable) (i : TcbIndex) : TcpTable × Int × TcpOut :=
  let tcb := table.tcbs i
  if !tcb.valid then (table, -1, {})
  else if tcb.state ≠ .established ∧ tcb.state ≠ .closeWait then (table, -1, {})
  else if tcpSendqHasUnacked tcb then (table, -1, {})
  else
    let oldState := tcb.state
    match tcpSendSegment env tcb tcb.sndNxt tcb.rcvNxt (tcpFlagFin ||| tcpFlagAck) [] with
    | none => (table, -1, {})
    | some pkt =>
      match tcpSendqTrack tcb pkt.data tcb.sndNxt (tcb.sndNxt + 1) (tcpFlagFin ||| tcpFlagAck)
          env.time with
      | none => (table, -1, { sent := [pkt] })
      | some tcb =>
        let (tcb, events) := tcpScheduleRetransmit env false i
          { tcb with
            sndNxt := tcb.sndNxt + 1
            state := if oldState = .established then .finWait1
              else if oldState = .closeWait then .lastAck
              else tcb.state }
        (table.set i tcb, 0, { sent := [pkt], events := events })

/-! ## Receiving -/

/-- A listener's answer to a SYN (lines 529–588). -/
def tcpReceiveListen (env : IpEnv) (table : TcpTable) (listener : TcbIndex) (pkt : IpDatagram)
    (hdr : TcpFields) : TcpTable × Int × TcpOut :=
  match tcpAllocTcb table with
  | none => (table, -1, {})
  | some (table, i) =>
    let child : Tcb :=
      { table.tcbs i with
        localIp := pkt.dstIp, localPort := hdr.dstPort, remoteIp := pkt.srcIp,
        remotePort := hdr.srcPort, state := .synReceived, sndUna := 0, sndNxt := 1,
        rcvNxt := hdr.seqNum + 1, sndWnd := tcpDefaultWindow, rcvWnd := tcpDefaultWindow,
        recvHandler := (table.tcbs listener).recvHandler,
        connectHandler := (table.tcbs listener).connectHandler,
        handlerCtx := (table.tcbs listener).handlerCtx }
    let table := table.set i child
    match tcpSendSegment env child 0 child.rcvNxt (tcpFlagSyn ||| tcpFlagAck) [] with
    | none => (tcpReleaseTcb table i, -1, {})
    | some synAck =>
      match tcpSendqTrack child synAck.data 0 1 (tcpFlagSyn ||| tcpFlagAck) env.time with
      | none => (tcpReleaseTcb table i, -1, { sent := [synAck] })
      | some child => (table.set i child, 0, { sent := [synAck] })

/-- A pure ACK for the current `rcv_nxt`. -/
def tcpSendAck (env : IpEnv) (tcb : Tcb) : Option IpDatagram :=
  tcpSendSegment env tcb tcb.sndNxt tcb.rcvNxt tcpFlagAck []

/-- `connect_handler`, if there is one. -/
def tcpConnectUpcall (i : TcbIndex) (tcb : Tcb) : List TcpUpcall :=
  tcb.connectHandler.toList.map (TcpUpcall.connect i)

/-- `TCP_SYN_SENT` (lines 598–633). -/
def tcpReceiveSynSent (env : IpEnv) (table : TcpTable) (i : TcbIndex) (hdr : TcpFields) :
    TcpTable × Int × TcpOut :=
  let tcb := table.tcbs i
  if hdr.flags &&& tcpFlagSyn ≠ 0 ∧ hdr.flags &&& tcpFlagAck ≠ 0 ∧ hdr.ackNum = tcb.sndNxt then
    let tcb := tcpSendqAck { tcb with rcvNxt := hdr.seqNum + 1, sndUna := hdr.ackNum } hdr.ackNum
    let tcb := { tcb with state := .established }
    match tcpSendAck env tcb with
    | none => (table.set i tcb, -1, {})
    | some ack => (table.set i tcb, 0, { sent := [ack], upcalls := tcpConnectUpcall i tcb })
  else (table, -1, {})

/-- `TCP_SYN_RECEIVED` (lines 635–650). -/
def tcpReceiveSynReceived (table : TcpTable) (i : TcbIndex) (hdr : TcpFields) :
    TcpTable × Int × TcpOut :=
  let tcb := table.tcbs i
  if hdr.flags &&& tcpFlagAck ≠ 0 ∧ hdr.ackNum = tcb.sndNxt then
    let tcb := tcpSendqAck { tcb with sndUna := hdr.ackNum } hdr.ackNum
    let tcb := { tcb with state := .established }
    (table.set i tcb, 0, { upcalls := tcpConnectUpcall i tcb })
  else (table, -1, {})

/-- The ACK field in `TCP_ESTABLISHED` (lines 659–664). -/
def tcpEstablishedAck (tcb : Tcb) (hdr : TcpFields) : Tcb :=
  if hdr.flags &&& tcpFlagAck ≠ 0 ∧ hdr.ackNum > tcb.sndUna ∧ hdr.ackNum ≤ tcb.sndNxt then
    { tcpSendqAck tcb hdr.ackNum with sndUna := hdr.ackNum }
  else tcb

/-- `TCP_ESTABLISHED` (lines 652–757). -/
def tcpReceiveEstablished (env : IpEnv) (table : TcpTable) (i : TcbIndex) (hdr : TcpFields) :
    TcpTable × Int × TcpOut :=
  let tcb := tcpEstablishedAck (table.tcbs i) hdr
  if hdr.payload.length > 0 then
    if hdr.seqNum = tcb.rcvNxt then
      let tcb := { tcb with rcvNxt := tcb.rcvNxt + UInt32.ofNat hdr.payload.length }
      match tcpSendAck env tcb with
      | none => (table.set i tcb, -1, {})
      | some ack =>
        (table.set i tcb, 0,
          { sent := [ack], upcalls := tcb.recvHandler.toList.map (TcpUpcall.recv i hdr.payload) })
    else
      match tcpSendAck env tcb with
      | none => (table.set i tcb, -1, {})
      | some ack => (table.set i tcb, 0, { sent := [ack] })
  else if hdr.flags &&& tcpFlagFin ≠ 0 ∧ hdr.seqNum = tcb.rcvNxt then
    let tcb := { tcb with rcvNxt := hdr.seqNum + 1 }
    match tcpSendAck env tcb with
    | none => (table.set i tcb, -1, {})
    | some ack => (table.set i { tcb with state := .closeWait }, 0, { sent := [ack] })
  else if hdr.flags &&& tcpFlagFin = 0 then (table.set i tcb, 0, {})
  else (table.set i tcb, -1, {})

/-- `TCP_FIN_WAIT_1` (lines 759–783). -/
def tcpReceiveFinWait1 (table : TcpTable) (i : TcbIndex) (hdr : TcpFields) :
    TcpTable × Int × TcpOut :=
  let tcb := table.tcbs i
  if hdr.flags &&& tcpFlagAck ≠ 0 ∧ hdr.ackNum > tcb.sndUna then
    let tcb := tcpSendqAck { tcb with sndUna := hdr.ackNum } hdr.ackNum
    (table.set i (if tcpFinIsAcked tcb then { tcb with state := .finWait2 } else tcb), 0, {})
  else (table, -1, {})

/-- `TCP_FIN_WAIT_2` (lines 785–832). -/
def tcpReceiveFinWait2 (env : IpEnv) (table : TcpTable) (i : TcbIndex) (hdr : TcpFields) :
    TcpTable × Int × TcpOut :=
  let tcb := table.tcbs i
  if hdr.flags &&& tcpFlagFin ≠ 0 ∧ hdr.seqNum = tcb.rcvNxt then
    let tcb := { tcb with rcvNxt := hdr.seqNum + 1 }
    match tcpSendAck env tcb with
    | none => (table.set i tcb, -1, {})
    | some ack =>
      (table.set i { tcb with state := .timeWait }, 0,
        { sent := [ack], events := tcpScheduleTimeWait env i })
  else (table, 0, {})

/-- `TCP_CLOSING` (lines 834–879). -/
def tcpReceiveClosing (env : IpEnv) (table : TcpTable) (i : TcbIndex) (hdr : TcpFields) :
    TcpTable × Int × TcpOut :=
  let tcb := table.tcbs i
  if hdr.ackNum > tcb.sndUna then
    let tcb := tcpSendqAck { tcb with sndUna := hdr.ackNum } hdr.ackNum
    if tcpFinIsAcked tcb then
      (table.set i { tcb with state := .timeWait }, 0, { events := tcpScheduleTimeWait env i })
    else (table.set i tcb, 0, {})
  else (table, -1, {})

/-- `TCP_LAST_ACK` (lines 881–906). -/
def tcpReceiveLastAck (table : TcpTable) (i : TcbIndex) (hdr : TcpFields) :
    TcpTable × Int × TcpOut :=
  let tcb := table.tcbs i
  if hdr.flags &&& tcpFlagAck ≠ 0 ∧ hdr.ackNum > tcb.sndUna then
    let tcb := tcpSendqAck { tcb with sndUna := hdr.ackNum } hdr.ackNum
    if tcpFinIsAcked tcb then (tcpReleaseTcb (table.set i tcb) i, 0, {})
    else (table.set i tcb, 0, {})
  else (table, -1, {})

/-- The switch of `tcp_receive` on the state of the TCB found. -/
def tcpReceiveState (env : IpEnv) (table : TcpTable) (i : TcbIndex) (hdr : TcpFields) :
    TcpTable × Int × TcpOut :=
  match (table.tcbs i).state with
  | .synSent => tcpReceiveSynSent env table i hdr
  | .synReceived => tcpReceiveSynReceived table i hdr
  | .established => tcpReceiveEstablished env table i hdr
  | .finWait1 => tcpReceiveFinWait1 table i hdr
  | .finWait2 => tcpReceiveFinWait2 env table i hdr
  | .closing => tcpReceiveClosing env table i hdr
  | .lastAck => tcpReceiveLastAck table i hdr
  | .timeWait => (table, 0, {})
  | _ => (table, -1, {})

/-- `tcp_receive` (lines 461–927). -/
def tcpReceive (env : IpEnv) (table : TcpTable) (pkt : IpDatagram) : TcpTable × Int × TcpOut :=
  if pkt.data.length < tcpHdrLen then (table, -1, {})
  else if pkt.protocol ≠ ipProtoTcp then (table, -1, {})
  else
    let hdr := tcpFields pkt.data
    if hdr.hdrWords ≠ tcpHdrWords then (table, -1, {})
    else
      match tcpFindExact table pkt.dstIp hdr.dstPort pkt.srcIp hdr.srcPort with
      | some i => tcpReceiveState env table i hdr
      | none =>
        if hdr.flags = tcpFlagSyn then
          match tcpFindListener table pkt.dstIp hdr.dstPort with
          | some listener => tcpReceiveListen env table listener pkt hdr
          | none => (table, -1, {})
        else (table, -1, {})

end FrameRunner
