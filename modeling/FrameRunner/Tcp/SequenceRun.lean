import FrameRunner.Tcp.Delivery
import FrameRunner.Tcp.Sequence

/-!
# Sequence numbers in every run

`SeqInv` puts the two endpoints together with the segments that each of them has
sent, and holds in every run in which no connection is released and fewer than
2 ^ 32 sequence numbers are used.

Main result:
* `tcpConn_sequence`: `snd_una` of a sender, `rcv_nxt` of its receiver and
  `snd_nxt` of the sender are in this order, and no data or FIN in the network or
  in the send queue reaches past `snd_nxt`.
-/

namespace FrameRunner

open FrameRunner.Lib

/-! ## Runs -/

/-- No connection has been released: a side that has set one up still has it. -/
def NoneReleased (s : TcpConn) : Prop :=
  ∀ x, s.opened x = true → (s.table x).hasConn = true

instance (s : TcpConn) : Decidable (NoneReleased s) :=
  decidable_of_iff ((s.opened .a = true → (s.table .a).hasConn = true) ∧
      (s.opened .b = true → (s.table .b).hasConn = true))
    ⟨fun h x => by cases x; exacts [h.1, h.2], fun h => ⟨h .a, h .b⟩⟩

/-- The step releases no connection. -/
def TcpConnAlive (addr : Side → TcpAddr) (s : TcpConn) (input : IpEnv × TcpConnInput) : Prop :=
  NoneReleased (tcpConnStep addr s input)

instance (addr : Side → TcpAddr) (s : TcpConn) (input : IpEnv × TcpConnInput) :
    Decidable (TcpConnAlive addr s input) :=
  inferInstanceAs (Decidable (NoneReleased _))

/-- The sequence numbers that a side has used. -/
def TcpConn.used (s : TcpConn) (x : Side) : ℕ :=
  1 + (s.accepted x).length + (s.closed x).toNat

/-- A segment that the network still holds or that a side tracks for retransmission. -/
def TcpConn.InFlight (s : TcpConn) (x : Side) (b : List UInt8) : Prop :=
  (∃ p ∈ s.sent x, p.data = b) ∨ ∃ i k, (((s.table x).tcbs i).sendq.entries k).pkt = some b

theorem TcpConn.used_commit (s : TcpConn) (x y : Side) (table : TcpTable) (out : TcpOut)
    (more : List UInt8) (fin : Bool) : s.used y ≤ (s.commit x table out more fin).used y := by
  unfold TcpConn.used
  by_cases hy : y = x
  · subst hy
    have hfin : (s.closed y).toNat ≤ (s.closed y || fin).toNat := by
      cases s.closed y <;> cases fin <;> decide
    simp only [TcpConn.commit, Function.update_self, List.length_append]
    omega
  · simp only [TcpConn.commit, Function.update_of_ne hy]
    omega

/-- Every step is a call of one side, or nothing. -/
theorem tcpConnStep_eq (addr : Side → TcpAddr) (s : TcpConn) (input : IpEnv × TcpConnInput) :
    tcpConnStep addr s input = s ∨
      ∃ x table out more fin, tcpConnStep addr s input = s.commit x table out more fin := by
  obtain ⟨env, input⟩ := input
  cases input with
  | deliver x k =>
    simp only [tcpConnStep]
    split
    · exact .inl rfl
    · exact .inr ⟨_, _, _, _, _, rfl⟩
  | _ => exact .inr ⟨_, _, _, _, _, rfl⟩

theorem used_le_tcpConnStep (addr : Side → TcpAddr) (s : TcpConn) (input : IpEnv × TcpConnInput)
    (y : Side) : s.used y ≤ (tcpConnStep addr s input).used y := by
  rcases tcpConnStep_eq addr s input with h | ⟨x, table, out, more, fin, h⟩ <;> rw [h]
  exact s.used_commit x y table out more fin

/-! ## The invariant -/

/-- The connection seen from side `x`. -/
def TcpConn.seqView (addr : Side → TcpAddr) (rcv : Side → ℕ) (s : TcpConn) (x : Side) :
    SeqView where
  self := addr x
  peer := addr x.other
  acc := s.accepted x
  fin := s.closed x
  rcv := rcv x

/-- Both endpoints, and the segments that each of them has sent. -/
structure SeqInv (addr : Side → TcpAddr) (rcv : Side → ℕ) (s : TcpConn) : Prop where
  side : ∀ x, SideSeq (s.seqView addr rcv x) (rcv x.other) (s.opened x) (s.table x).tcbs
  sent : ∀ x, ∀ p ∈ s.sent x, DatagramSeq (s.seqView addr rcv x) p
  rcv_le : ∀ x, rcv x ≤ s.used x.other
  alive : NoneReleased s
  bound : ∀ x, s.used x < 2 ^ 32

theorem seqInv_init (addr : Side → TcpAddr) : SeqInv addr (fun _ => 0) tcpConnInit where
  side x := {
    tcb := fun i hi => absurd hi (not_isConn_of_invalid rfl)
    idle := fun _ _ _ => rfl
    unique := fun i j hi => absurd hi (not_isConn_of_invalid rfl)
    fresh := fun _ => ⟨fun i => not_isConn_of_invalid rfl, rfl, rfl, rfl⟩ }
  sent _ _ hp := nomatch hp
  rcv_le _ := Nat.zero_le _
  alive _ h := nomatch h
  bound _ := by simp [TcpConn.used, tcpConnInit]

/-- One side moves. -/
theorem SeqInv.commit {addr : Side → TcpAddr} {rcv : Side → ℕ} {s : TcpConn}
    (I : SeqInv addr rcv s) {x : Side} {table : TcpTable} {out : TcpOut} {more : List UInt8}
    {fin : Bool} {v : SeqView} {n : ℕ}
    (h : SeqStep (s.seqView addr rcv x) v (rcv x.other) (s.opened x) table out)
    (hv : v = ⟨addr x, addr x.other, s.accepted x ++ more, s.closed x || fin, n⟩)
    (hn : n ≤ s.used x.other)
    (halive : NoneReleased (s.commit x table out more fin))
    (hbound : ∀ y, (s.commit x table out more fin).used y < 2 ^ 32) :
    SeqInv addr (Function.update rcv x n) (s.commit x table out more fin) := by
  have hself : (s.commit x table out more fin).seqView addr (Function.update rcv x n) x = v := by
    simp [TcpConn.seqView, TcpConn.commit, hv]
  have hother : (s.commit x table out more fin).seqView addr (Function.update rcv x n) x.other =
      s.seqView addr rcv x.other := by
    simp [TcpConn.seqView, TcpConn.commit, Function.update_of_ne (Side.other_ne x)]
  have hgrow : rcv x ≤ n := by
    have := h.le.rcv
    rw [hv] at this
    exact this
  refine ⟨fun y => ?_, fun y p hp => ?_, fun y => ?_, halive, hbound⟩
  · by_cases hy : y = x
    · subst hy
      rw [hself, Function.update_of_ne (Side.other_ne y)]
      simpa [TcpConn.commit] using h.side
    · obtain rfl := Side.eq_other_of_ne hy
      rw [hother, Side.other_other, Function.update_self]
      have hside := I.side x.other
      rw [Side.other_other] at hside
      simpa [TcpConn.commit, Function.update_of_ne hy] using hside.peer hgrow
  · by_cases hy : y = x
    · subst hy
      rw [hself]
      simp only [TcpConn.commit, Function.update_self] at hp
      rcases List.mem_append.mp hp with hp | hp
      · exact (I.sent y p hp).mono h.le
      · exact h.sent p hp
    · obtain rfl := Side.eq_other_of_ne hy
      rw [hother]
      simp only [TcpConn.commit, Function.update_of_ne hy] at hp
      exact I.sent x.other p hp
  · refine le_trans ?_ (s.used_commit x y.other table out more fin)
    by_cases hy : y = x
    · subst hy
      rw [Function.update_self]
      exact hn
    · rw [Function.update_of_ne hy]
      exact I.rcv_le y

theorem SeqInv.step {addr : Side → TcpAddr} {rcv : Side → ℕ} {s : TcpConn}
    (I : SeqInv addr rcv s) {input : IpEnv × TcpConnInput} (halive : TcpConnAlive addr s input)
    (hbound : ∀ x, (tcpConnStep addr s input).used x < 2 ^ 32) :
    ∃ rcv', SeqInv addr rcv' (tcpConnStep addr s input) := by
  obtain ⟨env, input⟩ := input
  have hkeep : ∀ x, s.seqView addr rcv x =
      ⟨addr x, addr x.other, s.accepted x ++ [], s.closed x || false, rcv x⟩ := by
    intro x
    rw [List.append_nil, Bool.or_false]
    rfl
  unfold TcpConnAlive at halive
  cases input with
  | listen x localIp recvFn connectFn ctx =>
    exact ⟨_, I.commit ((I.side x).listen ..) (hkeep x) (I.rcv_le x) halive hbound⟩
  | connect x recvFn connectFn ctx =>
    rcases h : tcpConnect env (s.table x) (addr x).ip (addr x.other).ip (addr x).port
      (addr x.other).port recvFn connectFn ctx with ⟨table, res, out⟩
    simp only [tcpConnStep, h] at halive hbound ⊢
    exact ⟨_, I.commit ((I.side x).connect (I.alive x) h) (hkeep x) (I.rcv_le x) halive hbound⟩
  | send x i data =>
    rcases h : tcpSend env (s.table x) i data with ⟨table, res, out⟩
    simp only [tcpConnStep, h] at halive hbound ⊢
    have hx := hbound x
    simp only [TcpConn.used, TcpConn.commit, Function.update_self] at hx
    refine ⟨_, I.commit ((I.side x).send h (lt_of_le_of_lt (Nat.le_add_right _ _) hx)) ?_
      (I.rcv_le x) halive hbound⟩
    rw [Bool.or_false]
    rfl
  | close x i =>
    rcases h : tcpClose env (s.table x) i with ⟨table, res, out⟩
    simp only [tcpConnStep, h] at halive hbound ⊢
    have hx := hbound x
    simp only [TcpConn.used, TcpConn.commit, Function.update_self, List.append_nil] at hx
    refine ⟨_, I.commit ((I.side x).close h hx) ?_ (I.rcv_le x) halive hbound⟩
    rw [List.append_nil]
    rfl
  | deliver x k =>
    simp only [tcpConnStep] at halive hbound ⊢
    split at halive
    · exact ⟨rcv, I⟩
    · rename_i pkt hpkt
      rcases h : tcpReceive env (s.table x) pkt with ⟨table, res, out⟩
      simp only [hpkt, h] at halive hbound ⊢
      obtain ⟨n, hn, hstep⟩ := (I.side x).receive (w := s.seqView addr rcv x.other) (I.alive x) rfl
        (by simp [TcpConn.seqView]) (I.sent x.other pkt (List.mem_of_getElem? hpkt)) (I.rcv_le x)
        (I.bound x.other) h
      refine ⟨_, I.commit hstep ?_ hn halive hbound⟩
      rw [List.append_nil, Bool.or_false]
      rfl
  | retransmit x i =>
    rcases h : tcpRetransmitHandler env (s.table x) i with ⟨table, out⟩
    simp only [tcpConnStep, h] at halive hbound ⊢
    exact ⟨_, I.commit ((I.side x).retransmitHandler h) (hkeep x) (I.rcv_le x) halive hbound⟩
  | timeWait x i =>
    exact ⟨_, I.commit ((I.side x).timeWaitHandler i) (hkeep x) (I.rcv_le x) halive hbound⟩

theorem seqInv_run {addr : Side → TcpAddr} {inputs : List (IpEnv × TcpConnInput)}
    (halive : Guarded (tcpConnStep addr) (TcpConnAlive addr) tcpConnInit inputs)
    (hused : ∀ x, (run (tcpConnStep addr) tcpConnInit inputs).used x < 2 ^ 32) :
    ∃ rcv, SeqInv addr rcv (run (tcpConnStep addr) tcpConnInit inputs) := by
  obtain ⟨-, hbound⟩ := guarded_of_final (Q := fun s : TcpConn => ∀ x, s.used x < 2 ^ 32)
    (fun s i h x => (used_le_tcpConnStep addr s i x).trans_lt (h x)) inputs tcpConnInit hused
  exact guarded_invariant (fun s => ∃ rcv, SeqInv addr rcv s)
    (fun s i h ⟨rcv, I⟩ => I.step h.1 h.2) inputs tcpConnInit
    (halive.and inputs tcpConnInit hbound) ⟨_, seqInv_init addr⟩

/-! ## Result -/

/-- The sequence numbers of the two TCBs of a connection, sender `i` on side `x`
    and receiver `j` on the other. -/
theorem tcpConn_sequence (addr : Side → TcpAddr) (inputs : List (IpEnv × TcpConnInput))
    (halive : Guarded (tcpConnStep addr) (TcpConnAlive addr) tcpConnInit inputs)
    (hused : ∀ x, (run (tcpConnStep addr) tcpConnInit inputs).used x < 2 ^ 32)
    (x : Side) (i j : TcbIndex) :
    let s := run (tcpConnStep addr) tcpConnInit inputs
    let sender := (s.table x).tcbs i
    let receiver := (s.table x.other).tcbs j
    sender.IsConn → receiver.IsConn →
      sender.sndUna.toNat ≤ receiver.rcvNxt.toNat ∧
      receiver.rcvNxt.toNat ≤ sender.sndNxt.toNat ∧
      ∀ b, s.InFlight x b → (tcpFields b).Carries →
        (tcpFields b).seqNum.toNat + (tcpFields b).span ≤ sender.sndNxt.toNat := by
  intro s sender receiver hi hj
  obtain ⟨rcv, I⟩ := seqInv_run halive hused
  have hsend : TcbSeq (s.seqView addr rcv x) (rcv x.other) sender := (I.side x).tcb i hi
  have hrecv : TcbSeq (s.seqView addr rcv x.other) (rcv x.other.other) receiver :=
    (I.side x.other).tcb j hj
  have hnxt : sender.sndNxt.toNat = s.used x := hsend.sndNxt
  have hrcv : receiver.rcvNxt.toNat = rcv x.other := hrecv.rcvNxt
  refine ⟨?_, ?_, fun b hb hc => ?_⟩
  · rw [hrcv]
    exact hsend.sndUna
  · rw [hrcv, hnxt]
    have hle := I.rcv_le x.other
    rwa [Side.other_other] at hle
  · have hseg : SegSeq (s.seqView addr rcv x) b := by
      rcases hb with ⟨p, hp, rfl⟩ | ⟨i', k, hk⟩
      · exact (I.sent x p hp).seg
      · by_cases hconn : ((s.table x).tcbs i').IsConn
        · exact (((I.side x).tcb i' hconn).tracked k b hk).1
        · have hnone := (I.side x).idle i' k hconn
          rw [show ((s.table x).tcbs i').sendq.entries k = _ from rfl, hnone] at hk
          nomatch hk
    rw [hnxt]
    exact (hseg.seg.carries hc).2.1

theorem tcpConn_sequence_exampleRun :
    let s := run (tcpConnStep exampleAddr) tcpConnInit exampleRun
    let sender := (s.table .a).tcbs (0 : TcbIndex)
    let receiver := (s.table Side.a.other).tcbs (1 : TcbIndex)
    sender.sndUna.toNat ≤ receiver.rcvNxt.toNat ∧
      receiver.rcvNxt.toNat ≤ sender.sndNxt.toNat ∧
      ∀ b, s.InFlight .a b → (tcpFields b).Carries →
        (tcpFields b).seqNum.toNat + (tcpFields b).span ≤ sender.sndNxt.toNat :=
  tcpConn_sequence exampleAddr exampleRun (by decide +kernel)
    (fun x => by cases x <;> decide +kernel) .a 0 1 (by decide +kernel) (by decide +kernel)

end FrameRunner
