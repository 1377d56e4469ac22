import FrameRunner.Tcp.Failure
import FrameRunner.Tcp.Steps

/-!
# Handler calls of a connection (`protocols/tcp.c`)

`connect_handler` is to be called when a TCB becomes established, and `recv_handler` for
data after that. In `TCP_SYN_RECEIVED` the state changes and the handler is called in one
go. In `TCP_SYN_SENT` the ACK of the SYN-ACK is sent in between; if that fails, the TCB is
established and its handler is not called, then or later.

Main result:
* `tcpUpcalls_iff`: in which runs every TCB that gets past its handshake has had
  `connect_handler` called once, and first of all.
-/

namespace FrameRunner

open FrameRunner.Lib

/-! ## The calls of each connection -/

/-- The handler calls for the TCB in slot `i`. -/
def TcpOut.upcallsOf (out : TcpOut) (i : TcbIndex) : List TcpUpcall :=
  out.upcalls.filter fun u => u.tcb = i

/-- The table, and the handler calls so far for the connection in each slot. -/
abbrev UpcallState := TcpTable × (TcbIndex → List TcpUpcall)

/-- A step of the table; the calls of a slot are listed from its allocation, oldest first. -/
def upcallStep : UpcallState → IpEnv × TcpInput → UpcallState :=
  observe tcpStep fun calls table input i =>
    (if (table.tcbs i).valid then calls i else []) ++ (tcpStepOut table input).upcallsOf i

def upcallInit : UpcallState := (tcpInit, fun _ => [])

/-- The states before `TCP_ESTABLISHED`. -/
def TcpState.Opening (state : TcpState) : Prop :=
  state = .closed ∨ state = .listen ∨ state = .synSent ∨ state = .synReceived

instance (state : TcpState) : Decidable state.Opening := inferInstanceAs (Decidable (_ ∨ _))

/-- A call of `recv_handler`. -/
def TcpUpcall.IsRecv (u : TcpUpcall) : Prop := ∃ i payload handler, u = .recv i payload handler

/-- No handler was called before the connection was established. With it, `connect_handler`
    was called once, if there is one, and everything after that is data. -/
structure UpcallsOk (i : TcbIndex) (tcb : Tcb) (calls : List TcpUpcall) : Prop where
  opening : tcb.state.Opening → calls = []
  past : ¬ tcb.state.Opening →
    ∃ recvs, calls = tcpConnectUpcall i tcb ++ recvs ∧ ∀ u ∈ recvs, u.IsRecv

/-- The step leaves the calls of every TCB in use as they should be. -/
def UpcallStepOk (x : UpcallState) (input : IpEnv × TcpInput) : Prop :=
  ∀ i, let y := upcallStep x input
    (y.1.tcbs i).valid = true → UpcallsOk i (y.1.tcbs i) (y.2 i)

/-- The SYN-ACK that a TCB in `TCP_SYN_SENT` waits for. -/
structure TcpFields.IsSynAck (hdr : TcpFields) (tcb : Tcb) : Prop where
  syn : hdr.flags &&& tcpFlagSyn ≠ 0
  ack : hdr.flags &&& tcpFlagAck ≠ 0
  ackNum : hdr.ackNum = tcb.sndNxt

/-- The ACK of a SYN-ACK can be sent, unless nobody waits for the connection. -/
def SynAckAnswered (x : UpcallState) (input : IpEnv × TcpInput) : Prop :=
  ∀ i pkt, input.2 = .call (.receive pkt) → TcpFinds x.1 pkt i →
    (x.1.tcbs i).state = .synSent → (tcpFields pkt.data).IsSynAck (x.1.tcbs i) →
      (x.1.tcbs i).connectHandler ≠ none → input.1.ipOk = true

/-! ## Segments -/

section
variable {tcb tcb' : Tcb} {hdr : TcpFields}

theorem TcpState.Opening.ne_established {state : TcpState} (h : state.Opening) :
    state ≠ .established := by
  rcases h with h | h | h | h <;> rw [h] <;> decide

/-- What a segment makes of a TCB, as far as its handlers are concerned. -/
inductive TcbAdvanced (tcb : Tcb) (hdr : TcpFields) (tcb' : Tcb) : Prop where
  | released (hfree : tcb'.valid = false)
  | same (hsame : tcb' = tcb)
  | established (hst : tcb.state = .synSent ∧ hdr.IsSynAck tcb ∨ tcb.state = .synReceived)
      (hst' : tcb'.state = .established) (hhandler : tcb'.connectHandler = tcb.connectHandler)
  | later (hst : ¬ tcb.state.Opening) (hst' : ¬ tcb'.state.Opening)
      (hnew : tcb.state ≠ .established → tcb'.state ≠ .established)
      (hhandler : tcb'.connectHandler = tcb.connectHandler)

theorem TcbReceived.advanced (hr : TcbReceived tcb hdr tcb') : TcbAdvanced tcb hdr tcb' := by
  cases hr with
  | ignored => exact .same rfl
  | synSent hst hsyn hack hnum => exact .established (.inl ⟨hst, hsyn, hack, hnum⟩) rfl rfl
  | synReceived hst => exact .established (.inr hst) rfl rfl
  | acked hst =>
    refine .later (by rw [hst]; decide) ?_ (fun h => absurd hst h)
      (tcpEstablishedAck_connectHandler _ _)
    rw [tcpEstablishedAck_state, hst]
    decide
  | data hst =>
    refine .later (by rw [hst]; decide) ?_ (fun h => absurd hst h)
      (tcpEstablishedAck_connectHandler _ _)
    show ¬ (tcpEstablishedAck tcb hdr).state.Opening
    rw [tcpEstablishedAck_state, hst]
    decide
  | fin hst _ _ hnext =>
    refine .later (by rw [hst]; decide) ?_ (fun h => absurd hst h)
      (tcpEstablishedAck_connectHandler _ _)
    rcases hnext with rfl | rfl <;> simp [TcpState.Opening]
  | finWait1 hst =>
    have hst' : (tcb.ackedBy hdr).state = .finWait1 := hst
    split
    · exact .later (by rw [hst]; decide) (by simp [TcpState.Opening]) (by simp) rfl
    · exact .later (by rw [hst]; decide) (by rw [hst']; decide) (by simp [hst']) rfl
  | finWait2 hst _ _ hnext =>
    rcases hnext with rfl | rfl
    · exact .later (by rw [hst]; decide) (by simp [TcpState.Opening]) (by simp) rfl
    · exact .later (by rw [hst]; decide) (by simp [TcpState.Opening]) (by simp) rfl
  | closing hst hnext =>
    rcases hnext with rfl | rfl
    · exact .later (by rw [hst]; decide) (by simp [TcpState.Opening]) (by simp) rfl
    · exact .later (by rw [hst]; decide) (by simp [TcpState.Opening]) (by simp) rfl
  | lastAck hst =>
    have hst' : (tcb.ackedBy hdr).state = .lastAck := hst
    exact .later (by rw [hst]; decide) (by rw [hst']; decide) (by simp [hst']) rfl
  | released => exact .released rfl

/-! ## One step -/

theorem upcallsOk_opening {i : TcbIndex} (hst : tcb.state.Opening) : UpcallsOk i tcb [] :=
  ⟨fun _ => rfl, fun h => absurd hst h⟩

/-- Past the handshake, calls of `recv_handler` may follow. -/
theorem UpcallsOk.append {i : TcbIndex} {calls recvs : List TcpUpcall} (h : UpcallsOk i tcb calls)
    (hst : ¬ tcb.state.Opening) (hst' : ¬ tcb'.state.Opening)
    (hhandler : tcb'.connectHandler = tcb.connectHandler) (hrecvs : ∀ u ∈ recvs, u.IsRecv) :
    UpcallsOk i tcb' (calls ++ recvs) := by
  obtain ⟨before, rfl, hbefore⟩ := h.past hst
  refine ⟨fun h => absurd h hst', fun _ => ⟨before ++ recvs, ?_, fun u hu => ?_⟩⟩
  · rw [List.append_assoc]
    unfold tcpConnectUpcall
    rw [hhandler]
  · rcases List.mem_append.mp hu with hu | hu
    · exact hbefore u hu
    · exact hrecvs u hu

/-- The call of `connect_handler` is among the calls of a TCB past its handshake. -/
theorem UpcallsOk.length_le {i : TcbIndex} {calls : List TcpUpcall} (h : UpcallsOk i tcb calls)
    (hst : ¬ tcb.state.Opening) : (tcpConnectUpcall i tcb).length ≤ calls.length := by
  obtain ⟨recvs, rfl, -⟩ := h.past hst
  rw [List.length_append]
  exact Nat.le_add_right _ _

theorem upcallsOk_established {i : TcbIndex} (hst : tcb.state = .established) :
    UpcallsOk i tcb (tcpConnectUpcall i tcb) where
  opening h := absurd hst h.ne_established
  past _ := ⟨[], (List.append_nil _).symm, fun u hu => by cases hu⟩

end

section
variable {env : IpEnv} {i : TcbIndex} {tcb tcb' : Tcb} {input : TcpInput} {out : TcpOut}
  {calls : List TcpUpcall}

theorem TcbStepped.upcallsOf (h : TcbStepped env i tcb input tcb' out) :
    out.upcallsOf i = out.upcalls :=
  List.filter_eq_self.mpr fun u hu => decide_eq_true (h.upcalls u hu)

/-- A segment whose SYN-ACK, if it is one, can be answered. -/
theorem SegmentOut.upcallsOk {hdr : TcpFields} (hout : SegmentOut env i tcb tcb' out)
    (hr : TcbReceived tcb hdr tcb') (I : UpcallsOk i tcb calls) (hv' : tcb'.valid = true)
    (hanswered : tcb.state = .synSent → hdr.IsSynAck tcb → tcb.connectHandler ≠ none →
      env.ipOk = true) : UpcallsOk i tcb' (calls ++ out.upcalls) := by
  have hquiet : tcb.state ≠ .established → tcb'.state ≠ .established → out.upcalls = [] := by
    intro hst hst'
    rw [hout.connect hst, if_neg fun h => hst' h.1]
  have hrecv : tcb.state = .established → ∀ u ∈ out.upcalls, u.IsRecv := by
    intro hst u hu
    obtain ⟨payload, handler, -, hu⟩ := hout.recv hst u hu
    exact ⟨i, payload, handler, hu⟩
  rcases hr.advanced with hfree | rfl | ⟨hst, hst', hhandler⟩ | ⟨hst, hst', hnew, hhandler⟩
  · exact absurd (hv'.symm.trans hfree) (by decide)
  · by_cases hopening : tcb'.state.Opening
    · have hne := hopening.ne_established
      rw [hquiet hne hne, List.append_nil]
      exact I
    · refine I.append hopening hopening rfl fun u hu => ?_
      by_cases hst : tcb'.state = .established
      · exact hrecv hst u hu
      · rw [hquiet hst hst] at hu
        cases hu
  · have hopening : tcb.state.Opening := by
      rcases hst with ⟨hst, -⟩ | hst
      · exact .inr (.inr (.inl hst))
      · exact .inr (.inr (.inr hst))
    rw [I.opening hopening, List.nil_append, hout.connect hopening.ne_established]
    split_ifs with h
    · exact upcallsOk_established hst'
    · -- the ACK was not sent, so there is no handler to call
      have hnone : tcb.connectHandler = none := by
        by_contra hsome
        refine h ⟨hst', fun hsent => ?_⟩
        rcases hst with ⟨-, hsynAck⟩ | hst
        · exact hanswered hsent hsynAck hsome
        · exact absurd (hsent.symm.trans hst) (by decide)
      have hno : tcpConnectUpcall i tcb' = [] := by
        unfold tcpConnectUpcall
        rw [hhandler, hnone]
        rfl
      rw [← hno]
      exact upcallsOk_established hst'
  · refine I.append hst hst' hhandler fun u hu => ?_
    by_cases hest : tcb.state = .established
    · exact hrecv hest u hu
    · rw [hquiet hest (hnew hest)] at hu
      cases hu

theorem TcbStepped.upcallsOk (h : TcbStepped env i tcb input tcb' out)
    (I : tcb.valid = true → UpcallsOk i tcb calls) (hv' : tcb'.valid = true)
    (hanswered : ∀ pkt, input = .call (.receive pkt) → tcb.valid = true → tcb.state = .synSent →
      (tcpFields pkt.data).IsSynAck tcb → tcb.connectHandler ≠ none → env.ipOk = true) :
    UpcallsOk i tcb' ((if tcb.valid then calls else []) ++ out.upcallsOf i) := by
  have hnew : tcb.valid = false → out.upcalls = [] → tcb'.state.Opening →
      UpcallsOk i tcb' ((if tcb.valid then calls else []) ++ out.upcalls) := by
    intro hfree hquiet hopening
    rw [if_neg (by rw [hfree]; decide), hquiet]
    exact upcallsOk_opening hopening
  have hkept : tcb.valid = true → ¬ tcb.state.Opening → ¬ tcb'.state.Opening →
      tcb'.connectHandler = tcb.connectHandler →
      UpcallsOk i tcb' ((if tcb.valid then calls else []) ++ []) := by
    intro hv hst hst' hhandler
    rw [if_pos hv]
    exact (I hv).append hst hst' hhandler fun u hu => by cases hu
  rw [h.upcallsOf]
  cases h with
  | listened hfree hst => exact hnew hfree rfl (.inr (.inl hst))
  | connected hfree hopen => exact hnew hfree rfl (.inr (.inr (.inl hopen.state)))
  | child hfree hopen => exact hnew hfree rfl (.inr (.inr (.inr hopen.state)))
  | sent hst hst' hsent =>
    obtain ⟨sendq, ts, state, hsame⟩ := hsent.same
    exact hkept hsent.valid (by rw [hst]; decide) (by rw [hst']; decide) (by rw [hsame])
  | closed hst hsent =>
    obtain ⟨sendq, ts, state, hsame⟩ := hsent.same
    have hhandler : tcb'.connectHandler = tcb.connectHandler := by rw [hsame]
    rcases hst with ⟨hst, hst'⟩ | ⟨hst, hst'⟩
    · exact hkept hsent.valid (by rw [hst]; decide) (by rw [hst']; decide) hhandler
    · exact hkept hsent.valid (by rw [hst]; decide) (by rw [hst']; decide) hhandler
  | received hv hst hr hout =>
    rw [if_pos hv]
    exact hout.upcallsOk hr (I hv) hv' (hanswered _ rfl hv)
  | resent hre =>
    rw [if_pos hre.valid, List.append_nil]
    exact ⟨(I hre.valid).opening, (I hre.valid).past⟩
  | released => exact absurd hv' (by decide)

end

/-! ## Runs -/

/-- What holds in every state of a run. -/
structure UpcallInv (x : UpcallState) : Prop where
  queue : TableQueueOk x.1
  upcalls : ∀ i, (x.1.tcbs i).valid = true → UpcallsOk i (x.1.tcbs i) (x.2 i)

theorem upcallInv_init : UpcallInv upcallInit where
  queue _ := queueOk_default
  upcalls _ h := absurd h Bool.false_ne_true

section
variable {x : UpcallState} {env : IpEnv} {input : TcpInput}

theorem upcallsOf_eq_nil {out : TcpOut} {i : TcbIndex} (h : ∀ u ∈ out.upcalls, u.tcb ≠ i) :
    out.upcallsOf i = [] :=
  List.filter_eq_nil_iff.mpr fun u hu => by simpa using h u hu

theorem UpcallStepOk.of_answered (I : UpcallInv x) (h : SynAckAnswered x (env, input)) :
    UpcallStepOk x (env, input) := by
  intro i y hv'
  show UpcallsOk i ((tcpStep x.1 (env, input)).tcbs i)
    ((if (x.1.tcbs i).valid then x.2 i else []) ++ (tcpStepOut x.1 (env, input)).upcallsOf i)
  have hv' : ((tcpStep x.1 (env, input)).tcbs i).valid = true := hv'
  rcases tcpStep_slot I.queue env input i with ⟨hsame | ⟨-, hzero⟩, hspares⟩ | ⟨hfinds, hstep⟩
  · rw [hsame] at hv' ⊢
    rw [if_pos hv', upcallsOf_eq_nil hspares.upcalls, List.append_nil]
    exact I.upcalls i hv'
  · rw [hzero] at hv'
    exact absurd hv' (by decide)
  · exact hstep.upcallsOk (I.upcalls i) hv' fun pkt hpkt hv hst hsynAck hsome =>
      h i pkt hpkt (hfinds pkt hpkt hv) hst hsynAck hsome

/-- A SYN-ACK that cannot be answered establishes the connection and calls nobody. -/
theorem tcpReceiveSynSent_unanswered {table : TcpTable} {i : TcbIndex} {hdr : TcpFields}
    (hok : env.ipOk = false) (hsynAck : hdr.IsSynAck (table.tcbs i)) :
    let r := tcpReceiveSynSent env table i hdr
    (r.1.tcbs i).valid = (table.tcbs i).valid ∧ (r.1.tcbs i).state = .established ∧
      (r.1.tcbs i).connectHandler = (table.tcbs i).connectHandler ∧ r.2.2.upcalls = [] := by
  have hack : ∀ tcb, tcpSendAck env tcb = none := by
    intro tcb
    unfold tcpSendAck tcpSendSegment
    rw [if_neg (by decide), hok, if_neg (by decide)]
  unfold tcpReceiveSynSent
  dsimp only
  rw [if_pos ⟨hsynAck.syn, hsynAck.ack, hsynAck.ackNum⟩, hack]
  dsimp only
  rw [TcpTable.set_self]
  exact ⟨rfl, rfl, rfl, rfl⟩

theorem UpcallStepOk.answered (I : UpcallInv x) (h : UpcallStepOk x (env, input)) :
    SynAckAnswered x (env, input) := by
  rintro i pkt rfl hfinds hst hsynAck hsome
  by_contra hok
  obtain ⟨hv, -⟩ := hfinds.valid
  have hswitch := tcpReceiveState.eq_def env x.1 i (tcpFields pkt.data)
  rw [hst] at hswitch
  have hreceive : tcpReceive env x.1 pkt = tcpReceiveSynSent env x.1 i (tcpFields pkt.data) :=
    (hfinds.receive env).trans hswitch
  obtain ⟨hvalid, hstate, hhandler, hquiet⟩ :=
    tcpReceiveSynSent_unanswered (by simpa using hok) hsynAck
  have hstep := h i
  have htable : (upcallStep x (env, .call (.receive pkt))).1 =
      (tcpReceiveSynSent env x.1 i (tcpFields pkt.data)).1 := by
    rw [← hreceive]
    rfl
  have hcalls : (upcallStep x (env, .call (.receive pkt))).2 i = [] := by
    show (if (x.1.tcbs i).valid then x.2 i else []) ++
      (tcpReceive env x.1 pkt).2.2.upcalls.filter (fun u => decide (u.tcb = i)) = []
    rw [if_pos hv, (I.upcalls i hv).opening (.inr (.inr (.inl hst))), hreceive, hquiet]
    rfl
  dsimp only at hstep
  rw [htable, hcalls] at hstep
  -- no call at all is not a call of `connect_handler`
  have hle := (hstep (hvalid.trans hv)).length_le (by rw [hstate]; decide)
  obtain ⟨handler, hsome⟩ := Option.ne_none_iff_exists'.mp hsome
  unfold tcpConnectUpcall at hle
  rw [hhandler, hsome] at hle
  exact absurd hle (Nat.not_succ_le_zero _)

theorem UpcallInv.step (I : UpcallInv x) (input : IpEnv × TcpInput) (h : SynAckAnswered x input) :
    UpcallInv (upcallStep x input) :=
  ⟨I.queue.step input, UpcallStepOk.of_answered I h⟩

end

/-- Every TCB of a run that is past its handshake has had its `connect_handler` called
    exactly once, in the step that established it and before all calls of its
    `recv_handler`, if and only if no SYN-ACK for a TCB with a `connect_handler` arrives
    while its ACK cannot be sent. -/
theorem tcpUpcalls_iff (inputs : List (IpEnv × TcpInput)) :
    Guarded upcallStep UpcallStepOk upcallInit inputs ↔
      Guarded upcallStep SynAckAnswered upcallInit inputs :=
  guarded_iff UpcallInv (fun _ _ I => ⟨fun h => h.answered I, fun h => .of_answered I h⟩)
    (fun _ input h I => I.step input h) inputs upcallInit upcallInv_init

/-- An active open with a `connect_handler`, and the SYN-ACK arrives while the IP layer
    takes no segment. -/
def exampleUnansweredRun : List (IpEnv × TcpInput) :=
  [({}, .call (.connect 0x0A000001 0x0A000002 40000 80 none (some 7) none)),
    ({ ipOk := false }, .call (.receive exampleSynAck))]

/-- The TCB is established, and nobody was told. -/
theorem not_tcpUpcalls :
    ¬ ∀ inputs : List (IpEnv × TcpInput), Guarded upcallStep UpcallStepOk upcallInit inputs := by
  intro h
  obtain ⟨-, hstep, -⟩ := h exampleUnansweredRun
  have hcalled := hstep exampleTcb (by decide +kernel)
  have hlen := hcalled.length_le (by decide +kernel)
  exact absurd hlen (by decide +kernel)

end FrameRunner
