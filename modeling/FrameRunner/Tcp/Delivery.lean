import FrameRunner.Tcp.ConnectionReceive

/-!
# What a connection delivers

The bytes handed to the application on one side are a prefix of the bytes that
the other side accepted, in every run whose steps meet `TcpConnSafe`
(`tcpConn_delivered_prefix`). Without the condition they are not: an in-order
segment moves `rcv_nxt` before its ACK is sent, and when the ACK fails the
payload is not handed over, now or later (`not_tcpConn_delivered_prefix`).
-/

namespace FrameRunner

open FrameRunner.Lib

/-- The connection seen from side `x`. -/
def TcpConn.view (s : TcpConn) (x : Side) : TcpView where
  acc := s.accepted x
  fin := s.closed x
  peerAcc := s.accepted x.other
  peerFin := s.closed x.other
  delivered := s.delivered x

/-- Both endpoints, and the segments that each of them has sent. -/
structure ConnInv (s : TcpConn) : Prop where
  side : ∀ x, SideOk (s.view x) (s.opened x) (s.table x).tcbs
  sent : ∀ x, ∀ p ∈ s.sent x, SegOk (s.accepted x) (s.closed x) (tcpFields p.data)
  bound : ∀ x, 1 + (s.accepted x).length < 2 ^ 32

theorem connInv_init : ConnInv tcpConnInit where
  side x := {
    tcb := fun i hi => absurd hi (not_isConn_of_invalid rfl)
    unique := fun i j hi => absurd hi (not_isConn_of_invalid rfl)
    fresh := fun _ => ⟨fun i => not_isConn_of_invalid rfl, rfl, rfl, rfl⟩
    tracked := fun _ _ _ hb => nomatch hb
    pre := List.nil_prefix }
  sent _ _ hp := nomatch hp
  bound _ := by simp [tcpConnInit]

/-- One side moves: its view takes the step, and the peer sees it grow. -/
theorem ConnInv.commit {s : TcpConn} (I : ConnInv s) {x : Side} {table : TcpTable} {out : TcpOut}
    {more : List UInt8} {fin : Bool} (h : SideStep (s.view x) (s.opened x) table out more fin) :
    ConnInv (s.commit x table out more fin) := by
  refine ⟨fun y => ?_, fun y p hp => ?_, fun y => ?_⟩
  · by_cases hy : y = x
    · subst hy
      have hside := h.side
      simpa [TcpConn.commit, TcpConn.view, Function.update_of_ne (Side.other_ne y)] using hside
    · obtain rfl : x = y.other := by rw [Side.eq_other_of_ne hy, Side.other_other]
      have hside := (I.side y).peer h.grows
      simpa [TcpConn.commit, TcpConn.view, Function.update_of_ne hy] using hside
  · by_cases hy : y = x
    · subst hy
      simp only [TcpConn.commit, Function.update_self] at hp ⊢
      rcases List.mem_append.mp hp with hp | hp
      · exact (I.sent y p hp).mono h.grows
      · exact h.sent p hp
    · simp only [TcpConn.commit, Function.update_of_ne hy] at hp ⊢
      exact I.sent y p hp
  · by_cases hy : y = x
    · subst hy
      simp only [TcpConn.commit, Function.update_self]
      rcases h.bound with hmore | hb
      · rw [hmore, List.append_nil]
        exact I.bound y
      · exact hb
    · simp only [TcpConn.commit, Function.update_of_ne hy]
      exact I.bound y

theorem ConnInv.step {addr : Side → TcpAddr} {s : TcpConn} (I : ConnInv s)
    {input : IpEnv × TcpConnInput} (hsafe : TcpConnSafe addr s input) :
    ConnInv (tcpConnStep addr s input) := by
  obtain ⟨env, input⟩ := input
  cases input with
  | listen x localIp recvFn connectFn ctx => exact I.commit ((I.side x).listen ..)
  | connect x recvFn connectFn ctx =>
    rcases h : tcpConnect env (s.table x) (addr x).ip (addr x.other).ip (addr x).port
      (addr x.other).port recvFn connectFn ctx with ⟨table, res, out⟩
    simp only [tcpConnStep, h]
    exact I.commit ((I.side x).connect h hsafe)
  | send x i data =>
    rcases h : tcpSend env (s.table x) i data with ⟨table, res, out⟩
    simp only [tcpConnStep, h]
    exact I.commit ((I.side x).send h hsafe)
  | close x i =>
    rcases h : tcpClose env (s.table x) i with ⟨table, res, out⟩
    simp only [tcpConnStep, h]
    exact I.commit ((I.side x).close h)
  | deliver x k =>
    simp only [tcpConnStep]
    split
    · exact I
    · rename_i pkt hpkt
      rcases h : tcpReceive env (s.table x) pkt with ⟨table, res, out⟩
      obtain ⟨hnext, hopens⟩ := hsafe pkt hpkt
      exact I.commit ((I.side x).receive (I.bound x.other)
        (I.sent x.other pkt (List.mem_of_getElem? hpkt)) hnext hopens h)
  | retransmit x i =>
    rcases h : tcpRetransmitHandler env (s.table x) i with ⟨table, out⟩
    simp only [tcpConnStep, h]
    exact I.commit ((I.side x).retransmitHandler h)
  | timeWait x i => exact I.commit ((I.side x).timeWaitHandler i)

/-- No byte is skipped, repeated or reordered in a safe run. -/
theorem tcpConn_delivered_prefix (addr : Side → TcpAddr) (inputs : List (IpEnv × TcpConnInput))
    (hsafe : Guarded (tcpConnStep addr) (TcpConnSafe addr) tcpConnInit inputs) (x : Side) :
    (run (tcpConnStep addr) tcpConnInit inputs).delivered x <+:
      (run (tcpConnStep addr) tcpConnInit inputs).accepted x.other :=
  ((guarded_invariant ConnInv (fun _ _ hs I => I.step hs) inputs tcpConnInit hsafe
    connInv_init).side x).pre

/-- The addresses of the runs below. -/
def exampleAddr : Side → TcpAddr
  | .a => ⟨0x0A000001, 40000⟩
  | .b => ⟨0x0A000002, 80⟩

/-- The handshake and one data segment, which is the third segment of side `a`. -/
def exampleRun : List (IpEnv × TcpConnInput) :=
  [({}, .listen .b 0 (some 0) none none), ({}, .connect .a none none none), ({}, .deliver .b 0),
    ({}, .deliver .a 0), ({}, .deliver .b 1), ({}, .send .a 0 [97]), ({}, .deliver .b 2)]

theorem tcpConn_delivered_prefix_exampleRun :
    (run (tcpConnStep exampleAddr) tcpConnInit exampleRun).delivered .b = [97] ∧
      (run (tcpConnStep exampleAddr) tcpConnInit exampleRun).delivered .b <+:
        (run (tcpConnStep exampleAddr) tcpConnInit exampleRun).accepted Side.b.other :=
  ⟨by decide +kernel, tcpConn_delivered_prefix exampleAddr exampleRun (by decide +kernel) .b⟩

/-- The ACK of the first data segment fails, and its retransmission finds `rcv_nxt` past it: side
    `b` receives `[98]` only. -/
def skipRun : List (IpEnv × TcpConnInput) :=
  [({}, .listen .b 0 (some 0) none none), ({}, .connect .a none none none), ({}, .deliver .b 0),
    ({}, .deliver .a 0), ({}, .deliver .b 1), ({}, .send .a 0 [97]),
    ({ ipOk := false }, .deliver .b 2), ({}, .deliver .b 2), ({}, .deliver .a 1),
    ({}, .send .a 0 [98]), ({}, .deliver .b 3)]

theorem not_tcpConn_delivered_prefix :
    ¬ ∀ (addr : Side → TcpAddr) (inputs : List (IpEnv × TcpConnInput)) (x : Side),
      (run (tcpConnStep addr) tcpConnInit inputs).delivered x <+:
        (run (tcpConnStep addr) tcpConnInit inputs).accepted x.other := by
  intro h
  have hb : (run (tcpConnStep exampleAddr) tcpConnInit skipRun).delivered .b = [98] := by
    decide +kernel
  have ha : (run (tcpConnStep exampleAddr) tcpConnInit skipRun).accepted .a = [97, 98] := by
    decide +kernel
  have hpre := h exampleAddr skipRun .b
  rw [hb, show Side.b.other = .a from rfl, ha] at hpre
  exact absurd hpre (by decide)

end FrameRunner
