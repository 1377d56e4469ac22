import FrameRunner.Lib.Run
import FrameRunner.Tcp.Model

/-!
# One TCP connection over a bad network

Two endpoints with their tables and the network between them. The network keeps
every segment that an endpoint's IP layer took, and may hand any of them to the
peer at any time and any number of times: so it loses, duplicates, delays and
reorders. The calls of both sides, the deliveries and the timers interleave
freely, and `ipOk` makes any send fail.

The state records what the applications saw: the bytes their successful
`tcp_send` calls accepted and the bytes handed to their `recv_handler`.
-/

namespace FrameRunner

open FrameRunner.Lib

/-- The two endpoints. -/
inductive Side where
  | a | b
  deriving DecidableEq, Repr

/-- The peer. -/
def Side.other : Side → Side
  | .a => .b
  | .b => .a

@[simp] theorem Side.other_other (x : Side) : x.other.other = x := by cases x <;> rfl

theorem Side.other_ne (x : Side) : x.other ≠ x := by cases x <;> decide

theorem Side.eq_other_of_ne {x y : Side} (h : y ≠ x) : y = x.other := by
  cases x <;> cases y <;> simp_all [Side.other]

/-- An address of the connection. -/
structure TcpAddr where
  ip : UInt32
  port : UInt16
  deriving DecidableEq, Repr

/-- Both endpoints and the network. -/
structure TcpConn where
  table : Side → TcpTable
  /-- all segments sent so far -/
  sent : Side → List IpDatagram
  /-- the bytes that successful `tcp_send` calls accepted -/
  accepted : Side → List UInt8
  /-- the bytes handed to `recv_handler` -/
  delivered : Side → List UInt8
  /-- a TCB of the connection was set up here -/
  opened : Side → Bool
  /-- a `tcp_close` has succeeded here -/
  closed : Side → Bool

/-- Nothing has happened yet. -/
def tcpConnInit : TcpConn where
  table := fun _ => tcpInit
  sent := fun _ => []
  accepted := fun _ => []
  delivered := fun _ => []
  opened := fun _ => false
  closed := fun _ => false

/-- What happens next. -/
inductive TcpConnInput where
  | listen (x : Side) (localIp : UInt32) (recvFn connectFn ctx : Option AppRef)
  | connect (x : Side) (recvFn connectFn ctx : Option AppRef)
  | send (x : Side) (i : TcbIndex) (data : List UInt8)
  | close (x : Side) (i : TcbIndex)
  /-- the network hands over the `k`-th segment that the peer sent -/
  | deliver (x : Side) (k : ℕ)
  /-- the retransmission timer of a TCB -/
  | retransmit (x : Side) (i : TcbIndex)
  /-- the timer of `TCP_TIME_WAIT` -/
  | timeWait (x : Side) (i : TcbIndex)
  deriving DecidableEq, Repr

/-- The TCB of a connection, not of a listener. -/
def Tcb.IsConn (tcb : Tcb) : Prop := tcb.valid = true ∧ tcb.state ≠ .listen

instance (tcb : Tcb) : Decidable tcb.IsConn := inferInstanceAs (Decidable (_ ∧ _))

/-- The table holds the TCB of a connection. -/
def TcpTable.hasConn (table : TcpTable) : Bool :=
  (Fin.find? fun i => decide (table.tcbs i).IsConn).isSome

/-- The bytes that a call handed to `recv_handler`. -/
def TcpOut.received (out : TcpOut) : List UInt8 :=
  out.upcalls.flatMap fun
    | .recv _ payload _ => payload
    | .connect _ _ => []

/-- A call of side `x` returns. -/
def TcpConn.commit (s : TcpConn) (x : Side) (table : TcpTable) (out : TcpOut)
    (accepted : List UInt8) (closed : Bool) : TcpConn where
  table := Function.update s.table x table
  sent := Function.update s.sent x (s.sent x ++ out.sent)
  accepted := Function.update s.accepted x (s.accepted x ++ accepted)
  delivered := Function.update s.delivered x (s.delivered x ++ out.received)
  opened := Function.update s.opened x (s.opened x || table.hasConn)
  closed := Function.update s.closed x (s.closed x || closed)

/-- One step between the addresses `addr`. -/
def tcpConnStep (addr : Side → TcpAddr) (s : TcpConn) : IpEnv × TcpConnInput → TcpConn
  | (_, .listen x localIp recvFn connectFn ctx) =>
    s.commit x (tcpListen (s.table x) localIp (addr x).port recvFn connectFn ctx).1 {} [] false
  | (env, .connect x recvFn connectFn ctx) =>
    let (table, _, out) := tcpConnect env (s.table x) (addr x).ip (addr x.other).ip (addr x).port
      (addr x.other).port recvFn connectFn ctx
    s.commit x table out [] false
  | (env, .send x i data) =>
    let (table, res, out) := tcpSend env (s.table x) i data
    s.commit x table out (if res = 0 then data.take tcpMss else []) false
  | (env, .close x i) =>
    let (table, res, out) := tcpClose env (s.table x) i
    s.commit x table out [] (res == 0)
  | (env, .deliver x k) =>
    match (s.sent x.other)[k]? with
    | none => s
    | some pkt =>
      let (table, _, out) := tcpReceive env (s.table x) pkt
      s.commit x table out [] false
  | (env, .retransmit x i) =>
    let (table, out) := tcpRetransmitHandler env (s.table x) i
    s.commit x table out [] false
  | (_, .timeWait x i) => s.commit x (tcpTimeWaitHandler (s.table x) i) {} [] false

/-! ## When a step is safe -/

/-- The segment finds the TCB of an established connection and is its next data. -/
def TcpNextData (table : TcpTable) (pkt : IpDatagram) : Prop :=
  let hdr := tcpFields pkt.data
  ∃ i, tcpFindExact table pkt.dstIp hdr.dstPort pkt.srcIp hdr.srcPort = some i ∧
    (table.tcbs i).state = .established ∧ hdr.payload ≠ [] ∧ hdr.seqNum = (table.tcbs i).rcvNxt

/-- The segment is a SYN that finds a listener and no connection. -/
def TcpOpens (table : TcpTable) (pkt : IpDatagram) : Prop :=
  let hdr := tcpFields pkt.data
  tcpFindExact table pkt.dstIp hdr.dstPort pkt.srcIp hdr.srcPort = none ∧
    hdr.flags = tcpFlagSyn ∧ (tcpFindListener table pkt.dstIp hdr.dstPort).isSome

/-- The condition on a step: the ACK of the next data does not fail locally, a
    side sets the connection up once, and the sequence numbers do not wrap. -/
def TcpConnSafe (addr : Side → TcpAddr) (s : TcpConn) : IpEnv × TcpConnInput → Prop
  | (env, .connect x _ _ _) =>
    tcpFindExact (s.table x) (addr x).ip (addr x).port (addr x.other).ip (addr x.other).port = none →
      env.ipOk = true → s.opened x = false
  | (env, .send x i data) =>
    let tcb := (s.table x).tcbs i
    tcb.valid = true → tcb.state = .established → tcpSendqHasUnacked tcb = false →
      env.ipOk = true → tcb.sndNxt.toNat + min data.length tcpMss < 2 ^ 32
  | (env, .deliver x k) => ∀ pkt, (s.sent x.other)[k]? = some pkt →
    (TcpNextData (s.table x) pkt → env.ipOk = true) ∧
    (TcpOpens (s.table x) pkt → env.ipOk = true → s.opened x = false)
  | _ => True

instance (table : TcpTable) (pkt : IpDatagram) : Decidable (TcpNextData table pkt) :=
  match h : tcpFindExact table pkt.dstIp (tcpFields pkt.data).dstPort pkt.srcIp
      (tcpFields pkt.data).srcPort with
  | none => isFalse fun ⟨_, hi, _⟩ => nomatch h.symm.trans hi
  | some i =>
    decidable_of_iff ((table.tcbs i).state = .established ∧ (tcpFields pkt.data).payload ≠ [] ∧
        (tcpFields pkt.data).seqNum = (table.tcbs i).rcvNxt)
      ⟨fun hi => ⟨i, h, hi⟩, fun ⟨_, hj, hi⟩ => Option.some.inj (h.symm.trans hj) ▸ hi⟩

instance (table : TcpTable) (pkt : IpDatagram) : Decidable (TcpOpens table pkt) :=
  inferInstanceAs (Decidable (_ ∧ _ ∧ _))

instance (addr : Side → TcpAddr) (s : TcpConn) :
    (input : IpEnv × TcpConnInput) → Decidable (TcpConnSafe addr s input)
  | (_, .listen ..) => isTrue trivial
  | (_, .connect ..) => inferInstanceAs (Decidable (_ → _ → _))
  | (_, .send ..) => inferInstanceAs (Decidable (_ → _ → _ → _ → _))
  | (_, .close ..) => isTrue trivial
  | (env, .deliver x k) =>
    match h : (s.sent x.other)[k]? with
    | none => isTrue fun _ hp => nomatch h.symm.trans hp
    | some pkt =>
      decidable_of_iff ((TcpNextData (s.table x) pkt → env.ipOk = true) ∧
          (TcpOpens (s.table x) pkt → env.ipOk = true → s.opened x = false))
        ⟨fun hs _ hp => Option.some.inj (h.symm.trans hp) ▸ hs, fun hs => hs pkt h⟩
  | (_, .retransmit ..) => isTrue trivial
  | (_, .timeWait ..) => isTrue trivial

end FrameRunner
