import FrameRunner.Lib.SlotMap
import FrameRunner.Tcp.Calls
import FrameRunner.Tcp.Connection
import FrameRunner.Tcp.Timers

/-!
# The connection table

What holds of a `TcpTable` after any calls of the module and any timer events, which
may come late and find another connection in their slot. A slot is taken at three
places (`tcp_listen`, `tcp_connect`, a SYN for a listener) and given back where that
fails, after LAST_ACK and by `tcp_time_wait_handler`. All of these and the writes
between are one of `TcpTableOk.opened`, `TcpTableOk.write` and `TcpTableOk.release`.

Main results:

* `tcpTable_invariant`: the count, the addresses of the connections and the free slots.
* `tcpSim_tableOk`: the tables of all hosts of a simulation.
-/

namespace FrameRunner

open FrameRunner.Lib

/-! ## The invariant -/

/-- How a connection is read. -/
def tcbKeyed : Keyed Tcb (UInt32 × UInt16 × UInt32 × UInt16) Unit where
  used tcb := tcb.valid && tcb.state != .listen
  key tcb := (tcb.localIp, tcb.localPort, tcb.remoteIp, tcb.remotePort)
  val _ := ()

theorem tcbKeyed_used {tcb : Tcb} : tcbKeyed.used tcb = true ↔ tcb.IsConn := by
  simp [tcbKeyed, Tcb.IsConn]

theorem tcpFindExact_eq (table : TcpTable) (localIp : UInt32) (localPort : UInt16)
    (remoteIp : UInt32) (remotePort : UInt16) :
    tcpFindExact table localIp localPort remoteIp remotePort =
      tcbKeyed.find table.tcbs (localIp, localPort, remoteIp, remotePort) := by
  unfold tcpFindExact Keyed.find
  congr 1
  funext i
  rw [Bool.eq_iff_iff]
  simp [tcbKeyed, and_assoc]

structure TcpTableOk (table : TcpTable) : Prop where
  count : table.count = Slots.count Tcb.valid table.tcbs
  addresses : tcbKeyed.Distinct table.tcbs
  clear : ∀ i, (table.tcbs i).valid = false → table.tcbs i = {}

theorem tcpTableOk_init : TcpTableOk tcpInit where
  count := (Slots.count_eq_zero.mpr fun _ => rfl).symm
  addresses i j hi := by cases hi
  clear i _ := rfl

section
variable {table table' : TcpTable} {i : TcbIndex} {tcb : Tcb} {env : IpEnv}

theorem TcpTableOk.update (h : TcpTableOk table) {count : ℕ}
    (hcount : count = Slots.count Tcb.valid (Function.update table.tcbs i tcb))
    (hfresh : tcb.IsConn → tcbKeyed.FreshBut table.tcbs i (tcbKeyed.key tcb))
    (hclear : tcb.valid = false → tcb = {}) :
    TcpTableOk { tcbs := Function.update table.tcbs i tcb, count := count } := by
  exact ⟨hcount, h.addresses.store fun hu => hfresh (tcbKeyed_used.mp hu),
    Slots.forall_update (p := fun tcb : Tcb => tcb.valid = false → tcb = {}) h.clear hclear i⟩

/-- A TCB that stays in use is written: a listener stays one, and a connection keeps its
    addresses. -/
theorem TcpTableOk.write (h : TcpTableOk table) (hi : (table.tcbs i).valid = true)
    (hv : tcb.valid = true) (hconn : tcb.IsConn → (table.tcbs i).IsConn ∧
      tcbKeyed.key (table.tcbs i) = tcbKeyed.key tcb) : TcpTableOk (table.set i tcb) := by
  refine h.update ?_ (fun hu => ?_) fun hv' => ?_
  · rw [Slots.count_store Tcb.valid table.tcbs i hv, hi, if_pos rfl, h.count]
  · exact h.addresses.freshBut (tcbKeyed_used.mpr (hconn hu).1) (hconn hu).2
  · rw [hv] at hv'
    cases hv'

/-- The TCB of a connection is written. -/
theorem TcpTableOk.conn (h : TcpTableOk table) (hi : (table.tcbs i).IsConn)
    (hv : tcb.valid = (table.tcbs i).valid)
    (hkey : tcbKeyed.key (table.tcbs i) = tcbKeyed.key tcb) : TcpTableOk (table.set i tcb) :=
  h.write hi.1 (hv.trans hi.1) fun _ => ⟨hi, hkey⟩

/-- A new TCB goes to a free slot, and no connection has its addresses. -/
theorem TcpTableOk.opened (h : TcpTableOk table) (halloc : tcpAllocTcb table = some (table', i))
    (hv : tcb.valid = true)
    (hfresh : tcb.IsConn → tcbKeyed.find table.tcbs (tcbKeyed.key tcb) = none) :
    TcpTableOk (table'.set i tcb) := by
  obtain ⟨hi, htcbs, hcount⟩ := tcpAllocTcb_eq_some halloc
  have heq : table'.set i tcb =
      { tcbs := Function.update table.tcbs i tcb, count := table.count + 1 } := by
    rw [TcpTable.set, htcbs, Function.update_idem, hcount]
  rw [heq]
  refine h.update ?_ (fun hu j _ hj => ?_) fun hv' => ?_
  · rw [Slots.count_store Tcb.valid table.tcbs i hv, hi, if_neg Bool.false_ne_true, h.count]
  · exact Keyed.find_eq_none_iff.mp (hfresh hu) j hj
  · rw [hv] at hv'
    cases hv'

theorem TcpTableOk.release (h : TcpTableOk table) (hi : (table.tcbs i).valid = true) :
    TcpTableOk (tcpReleaseTcb table i) := by
  refine h.update ?_ (fun hu => nomatch hu.1) fun _ => rfl
  have hcount := Slots.count_drop Tcb.valid table.tcbs i (x := {}) rfl hi
  rw [← h.count] at hcount
  exact (Nat.eq_sub_of_add_eq hcount).symm

/-! ## The calls -/

theorem tcpSendqTrack_eq_some {tcb' : Tcb} {clone : List UInt8} {seqStart seqEnd : UInt32}
    {flags : UInt8} {now : UInt64}
    (h : tcpSendqTrack tcb clone seqStart seqEnd flags now = some tcb') :
    ∃ sendq, tcb' = { tcb with sendq := sendq } := by
  unfold tcpSendqTrack at h
  split at h
  · cases h
  split at h
  · cases h
  · cases h
    exact ⟨_, rfl⟩

theorem TcpTableOk.listen (h : TcpTableOk table) (localIp : UInt32) (localPort : UInt16)
    (recvFn connectFn ctx : Option AppRef) :
    TcpTableOk (tcpListen table localIp localPort recvFn connectFn ctx).1 := by
  unfold tcpListen
  split
  · exact h
  split
  · exact h
  split
  · exact h
  · rename_i table₁ i halloc
    rw [tcpAllocTcb_self halloc]
    exact h.opened halloc rfl fun hu => absurd rfl hu.2

/-- The slot of a connection that could not be opened is given back. -/
theorem TcpTableOk.openFailed (h : TcpTableOk table) (halloc : tcpAllocTcb table = some (table', i))
    (hv : tcb.valid = true) (hfresh : tcbKeyed.find table.tcbs (tcbKeyed.key tcb) = none) :
    TcpTableOk (tcpReleaseTcb (table'.set i tcb) i) :=
  (h.opened halloc hv fun _ => hfresh).release (by rw [TcpTable.set_self]; exact hv)

/-- The TCB of a connection that was opened is written again, with its first segment. -/
theorem TcpTableOk.openSent (h : TcpTableOk table) (halloc : tcpAllocTcb table = some (table', i))
    {tcb₁ : Tcb} (hv : tcb.valid = true)
    (hfresh : tcbKeyed.find table.tcbs (tcbKeyed.key tcb) = none) {sendq : TcbSendQueue} {ts : UInt64}
    (heq : tcb₁ = { tcb with sendq := sendq, retransmitTs := ts }) :
    TcpTableOk ((table'.set i tcb).set i tcb₁) := by
  have hset : (table'.set i tcb).set i tcb₁ = table'.set i tcb₁ := by
    simp only [TcpTable.set, Function.update_idem]
  rw [hset, heq]
  exact h.opened halloc hv fun _ => hfresh

theorem TcpTableOk.connect (h : TcpTableOk table) (localIp remoteIp : UInt32)
    (localPort remotePort : UInt16) (recvFn connectFn ctx : Option AppRef) :
    TcpTableOk (tcpConnect env table localIp remoteIp localPort remotePort recvFn connectFn
      ctx).1 := by
  unfold tcpConnect
  split
  · exact h
  split
  · exact h
  rename_i hfind
  have hfind : tcbKeyed.find table.tcbs (localIp, localPort, remoteIp, remotePort) = none := by
    rw [← tcpFindExact_eq]
    simpa using hfind
  split
  · exact h
  rename_i table₁ i halloc
  rw [tcpAllocTcb_self halloc]
  dsimp only
  split
  · exact h.openFailed halloc rfl hfind
  split
  · exact h.openFailed halloc rfl hfind
  · rename_i tcb htrack
    obtain ⟨sendq, rfl⟩ := tcpSendqTrack_eq_some htrack
    exact h.openSent halloc rfl hfind (tcpScheduleRetransmit_tcb ..)

theorem TcpTableOk.receiveListen (h : TcpTableOk table) (listener : TcbIndex) {pkt : IpDatagram}
    {hdr : TcpFields} (hfind : tcbKeyed.find table.tcbs
      (pkt.dstIp, hdr.dstPort, pkt.srcIp, hdr.srcPort) = none) :
    TcpTableOk (tcpReceiveListen env table listener pkt hdr).1 := by
  unfold tcpReceiveListen
  split
  · exact h
  rename_i table₁ i halloc
  rw [tcpAllocTcb_self halloc]
  dsimp only
  split
  · exact h.openFailed halloc rfl hfind
  split
  · exact h.openFailed halloc rfl hfind
  · rename_i child htrack
    obtain ⟨sendq, rfl⟩ := tcpSendqTrack_eq_some htrack
    exact h.openSent halloc rfl hfind rfl

/-- A segment was tracked for the connection, which stays at its addresses. -/
theorem TcpTableOk.tracked (h : TcpTableOk table) (hi : (table.tcbs i).IsConn) {tcb₁ : Tcb}
    {clone : List UInt8} {seqStart seqEnd : UInt32} {flags : UInt8} {now : UInt64}
    (htrack : tcpSendqTrack (table.tcbs i) clone seqStart seqEnd flags now = some tcb)
    {sndNxt : UInt32} {state : TcpState} {ts : UInt64}
    (heq : tcb₁ = { tcb with sndNxt := sndNxt, state := state, retransmitTs := ts }) :
    TcpTableOk (table.set i tcb₁) := by
  obtain ⟨sendq, rfl⟩ := tcpSendqTrack_eq_some htrack
  rw [heq]
  exact h.conn hi rfl rfl

theorem TcpTableOk.send (h : TcpTableOk table) (i : TcbIndex) (data : List UInt8) :
    TcpTableOk (tcpSend env table i data).1 := by
  unfold tcpSend
  dsimp only
  split
  · exact h
  rename_i hv
  split
  · exact h
  rename_i hst
  split
  · exact h
  split
  · exact h
  split
  · exact h
  split
  · exact h
  · rename_i tcb htrack
    have hst : (table.tcbs i).state = .established := not_not.mp hst
    have hconn : (table.tcbs i).IsConn := ⟨by simpa using hv, by rw [hst]; decide⟩
    exact h.tracked hconn htrack (tcpScheduleRetransmit_tcb ..)

theorem TcpTableOk.close (h : TcpTableOk table) (i : TcbIndex) :
    TcpTableOk (tcpClose env table i).1 := by
  unfold tcpClose
  dsimp only
  split
  · exact h
  rename_i hv
  split
  · exact h
  rename_i hst
  split
  · exact h
  split
  · exact h
  split
  · exact h
  · rename_i tcb htrack
    have hconn : (table.tcbs i).IsConn :=
      ⟨by simpa using hv, fun hlisten => hst (by rw [hlisten]; decide)⟩
    exact h.tracked hconn htrack (tcpScheduleRetransmit_tcb ..)

/-! ## Received segments -/

theorem tcpEstablishedAck_key (tcb : Tcb) (hdr : TcpFields) :
    (tcpEstablishedAck tcb hdr).valid = tcb.valid ∧
      tcbKeyed.key tcb = tcbKeyed.key (tcpEstablishedAck tcb hdr) := by
  unfold tcpEstablishedAck
  split
  · exact ⟨rfl, rfl⟩
  · exact ⟨rfl, rfl⟩

section
variable {hdr : TcpFields}

theorem TcpTableOk.receiveSynSent (h : TcpTableOk table) (hi : (table.tcbs i).IsConn) :
    TcpTableOk (tcpReceiveSynSent env table i hdr).1 := by
  unfold tcpReceiveSynSent
  dsimp only
  split
  · split
    · exact h.conn hi rfl rfl
    · exact h.conn hi rfl rfl
  · exact h

theorem TcpTableOk.receiveSynReceived (h : TcpTableOk table) (hi : (table.tcbs i).IsConn) :
    TcpTableOk (tcpReceiveSynReceived table i hdr).1 := by
  unfold tcpReceiveSynReceived
  dsimp only
  split
  · exact h.conn hi rfl rfl
  · exact h

theorem TcpTableOk.receiveEstablished (h : TcpTableOk table) (hi : (table.tcbs i).IsConn) :
    TcpTableOk (tcpReceiveEstablished env table i hdr).1 := by
  obtain ⟨hv, hkey⟩ := tcpEstablishedAck_key (table.tcbs i) hdr
  unfold tcpReceiveEstablished
  dsimp only
  split
  · split
    · split
      · exact h.conn hi hv hkey
      · exact h.conn hi hv hkey
    · split
      · exact h.conn hi hv hkey
      · exact h.conn hi hv hkey
  · split
    · split
      · exact h.conn hi hv hkey
      · exact h.conn hi hv hkey
    · split
      · exact h.conn hi hv hkey
      · exact h.conn hi hv hkey

theorem TcpTableOk.receiveFinWait1 (h : TcpTableOk table) (hi : (table.tcbs i).IsConn) :
    TcpTableOk (tcpReceiveFinWait1 table i hdr).1 := by
  unfold tcpReceiveFinWait1
  dsimp only
  split
  · split
    · exact h.conn hi rfl rfl
    · exact h.conn hi rfl rfl
  · exact h

theorem TcpTableOk.receiveFinWait2 (h : TcpTableOk table) (hi : (table.tcbs i).IsConn) :
    TcpTableOk (tcpReceiveFinWait2 env table i hdr).1 := by
  unfold tcpReceiveFinWait2
  dsimp only
  split
  · split
    · exact h.conn hi rfl rfl
    · exact h.conn hi rfl rfl
  · exact h

theorem TcpTableOk.receiveClosing (h : TcpTableOk table) (hi : (table.tcbs i).IsConn) :
    TcpTableOk (tcpReceiveClosing env table i hdr).1 := by
  unfold tcpReceiveClosing
  dsimp only
  split
  · split
    · exact h.conn hi rfl rfl
    · exact h.conn hi rfl rfl
  · exact h

theorem TcpTableOk.receiveLastAck (h : TcpTableOk table) (hi : (table.tcbs i).IsConn) :
    TcpTableOk (tcpReceiveLastAck table i hdr).1 := by
  unfold tcpReceiveLastAck
  dsimp only
  split
  · have hset : TcpTableOk (table.set i (tcpSendqAck
        { table.tcbs i with sndUna := hdr.ackNum } hdr.ackNum)) := h.conn hi rfl rfl
    split
    · exact hset.release (by rw [TcpTable.set_self]; exact hi.1)
    · exact hset
  · exact h

theorem TcpTableOk.receiveState (h : TcpTableOk table) (hi : (table.tcbs i).IsConn) :
    TcpTableOk (tcpReceiveState env table i hdr).1 := by
  unfold tcpReceiveState
  split
  · exact h.receiveSynSent hi
  · exact h.receiveSynReceived hi
  · exact h.receiveEstablished hi
  · exact h.receiveFinWait1 hi
  · exact h.receiveFinWait2 hi
  · exact h.receiveClosing hi
  · exact h.receiveLastAck hi
  · exact h
  · exact h

theorem TcpTableOk.receive (h : TcpTableOk table) (pkt : IpDatagram) :
    TcpTableOk (tcpReceive env table pkt).1 := by
  unfold tcpReceive
  split
  · exact h
  split
  · exact h
  dsimp only
  split
  · exact h
  rw [tcpFindExact_eq]
  split
  · rename_i i hfind
    exact h.receiveState (tcbKeyed_used.mp (Keyed.find_eq_some hfind).1)
  · rename_i hfind
    split
    · split
      · exact h.receiveListen _ hfind
      · exact h
    · exact h

end

/-! ## Timers -/

/-- A late event finds no connection in TIME_WAIT, or one that has the slot now. -/
theorem TcpTableOk.timeWaitHandler (h : TcpTableOk table) (i : TcbIndex) :
    TcpTableOk (tcpTimeWaitHandler table i) := by
  unfold tcpTimeWaitHandler
  split
  · exact h
  rename_i hv
  split
  · exact h
  · exact h.release (by simpa using hv)

theorem TcpTableOk.retransmitHandler (h : TcpTableOk table) (i : TcbIndex) :
    TcpTableOk (tcpRetransmitHandler env table i).1 := by
  unfold tcpRetransmitHandler
  split
  · exact h
  rename_i hv
  have hv : (table.tcbs i).valid = true := by simpa using hv
  obtain ⟨sendq, ts, heq⟩ := (tcpRetransmitEntries_inv env i (table.tcbs i)).tcb.same
  refine h.write hv (by rw [heq]; exact hv) fun hconn => ?_
  rw [heq] at hconn ⊢
  exact ⟨hconn, rfl⟩

theorem TcpTableOk.call (h : TcpTableOk table) (c : TcpCall) :
    TcpTableOk (tcpCall env table c).1 := by
  cases c with
  | listen localIp localPort recvFn connectFn ctx =>
    exact h.listen localIp localPort recvFn connectFn ctx
  | connect localIp remoteIp localPort remotePort recvFn connectFn ctx =>
    exact h.connect localIp remoteIp localPort remotePort recvFn connectFn ctx
  | send i data => exact h.send i data
  | close i => exact h.close i
  | receive pkt => exact h.receive pkt

end

/-! ## Results -/

/-- What happens to a table: a call, or a timer event of the module for any slot, whoever
    has the slot by then. -/
inductive TcpTableInput where
  | call (env : IpEnv) (c : TcpCall)
  | timeWait (i : TcbIndex)
  | retransmit (env : IpEnv) (i : TcbIndex)

def tcpTableStep (table : TcpTable) : TcpTableInput → TcpTable
  | .call env c => (tcpCall env table c).1
  | .timeWait i => tcpTimeWaitHandler table i
  | .retransmit env i => (tcpRetransmitHandler env table i).1

theorem tcpTableOk_run (inputs : List TcpTableInput) :
    TcpTableOk (run tcpTableStep tcpInit inputs) := by
  refine run_invariant TcpTableOk (fun table input h => ?_) inputs _ tcpTableOk_init
  cases input with
  | call env c => exact h.call c
  | timeWait i => exact h.timeWaitHandler i
  | retransmit env i => exact h.retransmitHandler i

/-- In every reachable table `count` is the number of TCBs in use, no two connections have
    the same addresses, and a slot that is not in use is zero. -/
theorem tcpTable_invariant (inputs : List TcpTableInput) :
    let table := run tcpTableStep tcpInit inputs
    (table.count = Slots.count Tcb.valid table.tcbs ∧ table.count ≤ tcpMaxConns) ∧
    (∀ i j, (table.tcbs i).IsConn → (table.tcbs j).IsConn →
      (table.tcbs i).localIp = (table.tcbs j).localIp →
      (table.tcbs i).localPort = (table.tcbs j).localPort →
      (table.tcbs i).remoteIp = (table.tcbs j).remoteIp →
      (table.tcbs i).remotePort = (table.tcbs j).remotePort → i = j) ∧
    ∀ i, (table.tcbs i).valid = false → table.tcbs i = {} := by
  intro table
  have h : TcpTableOk table := tcpTableOk_run inputs
  refine ⟨⟨h.count, h.count.trans_le (Slots.count_le _ _)⟩, ?_, h.clear⟩
  intro i j hi hj hlip hlport hrip hrport
  refine h.addresses i j (tcbKeyed_used.mpr hi) (tcbKeyed_used.mpr hj) ?_
  simp only [tcbKeyed, hlip, hlport, hrip, hrport]

theorem tableOk_commit {s : TcpSim} (hs : ∀ h, TcpTableOk (s.table h)) (h : HostRef)
    {r : TcpTable × TcpOut} (hr : TcpTableOk r.1) : ∀ h', TcpTableOk ((s.commit h r).table h') := by
  intro h'
  unfold TcpSim.commit
  dsimp only
  by_cases hh : h' = h
  · subst hh
    rw [Function.update_self]
    exact hr
  · rw [Function.update_of_ne hh]
    exact hs h'

/-- The table of every host of a simulation is such a table. -/
theorem tcpSim_tableOk (inputs : List TcpSimInput) :
    ∀ h, TcpTableOk ((run tcpSimStep tcpSimInit inputs).table h) := by
  refine run_invariant (fun s : TcpSim => ∀ h, TcpTableOk (s.table h)) (fun s input hs => ?_)
    inputs _ fun _ => tcpTableOk_init
  cases input with
  | call h c ipOk => exact tableOk_commit hs h ((hs h).call c)
  | schedule type timestamp data handler => exact hs
  | register type fn => exact hs
  | step ipOk =>
    show ∀ h, TcpTableOk ((s.runStep ipOk).table h)
    unfold TcpSim.runStep
    split
    · exact hs
    rename_i e sched hstep
    have hs' : ∀ h, TcpTableOk (({ s with sched := sched } : TcpSim).table h) := hs
    unfold TcpSim.runCallback
    split
    · split
      · exact tableOk_commit hs' _ ((hs' _).retransmitHandler _)
      · exact hs'
    · split
      · exact tableOk_commit hs' _ ((hs' _).timeWaitHandler _)
      · exact hs'
    · exact hs'
    · exact hs'

end FrameRunner
