import FrameRunner.Tcp.Failure
import FrameRunner.Tcp.Listener
import FrameRunner.Tcp.Steps

/-!
# Which ACKs are taken (`protocols/tcp.c`)

`tcp_receive` reads the ACK number in six states, with code of its own in each. The
handshake takes `snd_nxt` and nothing else, and `TCP_ESTABLISHED` an ACK past `snd_una`
and not past `snd_nxt`. The closing states take every ACK past `snd_una`, also one of
numbers that were never sent.

Main result:
* `tcpAck_window_iff`: `snd_una` stays within `snd_nxt`, and segments are removed and
  closes go on by ACKs of the window only, in exactly the runs in which no ACK past
  `snd_nxt` reaches a TCB that waits for the ACK of its FIN.
-/

namespace FrameRunner

open FrameRunner.Lib

/-! ## Sequence numbers in use -/

/-- The sequence numbers that the connection of a TCB has used, after a step. -/
def seqUsedBy (used : ℕ) (tcb tcb' : Tcb) : ℕ :=
  if tcb.valid && tcb'.valid then used + (tcb'.sndNxt - tcb.sndNxt).toNat else tcb'.sndNxt.toNat

/-- The table, and how many sequence numbers the connection in each slot has used. -/
abbrev SeqState := TcpTable × (TcbIndex → ℕ)

/-- A step of the table; the numbers of a slot are counted from its allocation and do
    not wrap. -/
def seqStep : SeqState → IpEnv × TcpInput → SeqState :=
  observe tcpStep fun used table input i =>
    seqUsedBy (used i) (table.tcbs i) ((tcpStep table input).tcbs i)

def seqInit : SeqState := (tcpInit, fun _ => 0)

/-! ## The window -/

/-- `snd_una` is not past `snd_nxt`, unless the TCB is free or a listener. -/
def Tcb.InWindow (tcb : Tcb) : Prop :=
  tcb.valid = true → tcb.state ≠ .listen → tcb.sndUna ≤ tcb.sndNxt

/-- The states in which the close waits for the ACK of the FIN. -/
def TcpState.AwaitsFinAck (state : TcpState) : Prop :=
  state = .finWait1 ∨ state = .closing ∨ state = .lastAck

/-- A tracked segment was removed, or the close went on that waited for an ACK. -/
def TcbAcked (tcb tcb' : Tcb) : Prop :=
  (∃ k b, (tcb.sendq.entries k).pkt = some b ∧ (tcb'.sendq.entries k).pkt ≠ some b) ∨
    tcb.state.AwaitsFinAck ∧ tcb'.state ≠ tcb.state

/-- The input is a segment for the TCB in slot `i`, with an ACK past `snd_una` and not
    past `snd_nxt`. -/
def AckInWindow (table : TcpTable) (input : TcpInput) (i : TcbIndex) : Prop :=
  ∃ pkt, input = .call (.receive pkt) ∧ TcpFinds table pkt i ∧
    (tcpFields pkt.data).AcksNew (table.tcbs i)

/-- The step leaves every TCB in its window, and removes a segment or lets a close go on
    only for an ACK of the window. -/
def WindowStep (x : SeqState) (input : IpEnv × TcpInput) : Prop :=
  ∀ i, ((seqStep x input).2 i < 2 ^ 32 → ((seqStep x input).1.tcbs i).InWindow) ∧
    ((x.1.tcbs i).valid = true → x.2 i < 2 ^ 32 →
      TcbAcked (x.1.tcbs i) ((seqStep x input).1.tcbs i) → AckInWindow x.1 input.2 i)

/-- The ACK in a segment for a TCB that waits for the ACK of its FIN is not past `snd_nxt`. -/
def FinAckInWindow (x : SeqState) (input : IpEnv × TcpInput) : Prop :=
  ∀ i pkt, input.2 = .call (.receive pkt) → TcpFinds x.1 pkt i → x.2 i < 2 ^ 32 →
    (x.1.tcbs i).state.AwaitsFinAck → (tcpFields pkt.data).flags &&& tcpFlagAck ≠ 0 →
      (tcpFields pkt.data).ackNum ≤ (x.1.tcbs i).sndNxt

/-! ## The invariant -/

/-- The numbers of a connection that has used `used` of them. -/
structure SeqOk (used : ℕ) (tcb : Tcb) : Prop where
  sndNxt : tcb.sndNxt.toNat = used
  sndUna : tcb.sndUna ≤ tcb.sndNxt
  opening : tcb.state = .synSent ∨ tcb.state = .synReceived → tcb.sndUna = 0 ∧ tcb.sndNxt = 1

/-- The invariant, as long as the numbers have not wrapped. -/
def SeqOkUnwrapped (used : ℕ) (tcb : Tcb) : Prop :=
  tcb.valid = true → tcb.state ≠ .listen → used < 2 ^ 32 → SeqOk used tcb

section
variable {used : ℕ} {tcb tcb' : Tcb} {hdr : TcpFields}

theorem seqUsedBy_new (h : tcb.valid = false) : seqUsedBy used tcb tcb' = tcb'.sndNxt.toNat := by
  unfold seqUsedBy
  rw [h, Bool.false_and, if_neg Bool.false_ne_true]

theorem seqUsedBy_add {span : UInt32} (hv : tcb.valid = true) (hv' : tcb'.valid = true)
    (hnxt : tcb'.sndNxt = tcb.sndNxt + span) : seqUsedBy used tcb tcb' = used + span.toNat := by
  have hspan : tcb.sndNxt + span - tcb.sndNxt = span := by grind
  unfold seqUsedBy
  rw [hv, hv', Bool.and_self, if_pos rfl, hnxt, hspan]

theorem seqUsedBy_kept (hv : tcb.valid = true) (hv' : tcb'.valid = true)
    (hnxt : tcb'.sndNxt = tcb.sndNxt) : seqUsedBy used tcb tcb' = used := by
  have hzero : tcb'.sndNxt = tcb.sndNxt + 0 := by rw [hnxt, UInt32.add_zero]
  exact seqUsedBy_add hv hv' hzero

theorem SeqOkUnwrapped.inWindow (h : SeqOkUnwrapped used tcb) (hused : used < 2 ^ 32) :
    tcb.InWindow := fun hv hst => (h hv hst hused).sndUna

theorem seqOkUnwrapped_free (h : tcb.valid = false) : SeqOkUnwrapped used tcb :=
  fun hv => absurd (hv.symm.trans h) (by decide)

theorem seqOkUnwrapped_listen (h : tcb.state = .listen) : SeqOkUnwrapped used tcb :=
  fun _ hst => absurd h hst

/-- A connection starts with its SYN. -/
theorem TcbOpened.seqOk {env : IpEnv} {state : TcpState} {flags : UInt8} {syn : IpDatagram}
    (h : TcbOpened env tcb' state flags syn) (hfree : tcb.valid = false) :
    SeqOkUnwrapped (seqUsedBy used tcb tcb') tcb' := by
  rw [seqUsedBy_new hfree]
  refine fun _ _ _ => ⟨rfl, ?_, fun _ => ⟨h.sndUna, h.sndNxt⟩⟩
  rw [h.sndUna, h.sndNxt]
  decide

/-- The numbers of a segment are added to those in use. -/
theorem TcbSent.seqOk {env : IpEnv} {flags : UInt8} {payload : List UInt8} {span : UInt32}
    {pkt : IpDatagram} (h : TcbSent env tcb flags payload span tcb' pkt)
    (I : SeqOkUnwrapped used tcb) (hst : tcb.state ≠ .listen)
    (hst' : tcb'.state ≠ .synSent ∧ tcb'.state ≠ .synReceived) :
    SeqOkUnwrapped (seqUsedBy used tcb tcb') tcb' := by
  obtain ⟨sendq, ts, state, hsame⟩ := h.same
  have hnxt : tcb'.sndNxt = tcb.sndNxt + span := by rw [hsame]
  have hund : tcb'.sndUna = tcb.sndUna := by rw [hsame]
  have hv' : tcb'.valid = true := by rw [hsame]; exact h.valid
  rw [seqUsedBy_add h.valid hv' hnxt]
  intro _ _ hused
  have hok := I h.valid hst (by omega)
  have hsum : tcb'.sndNxt.toNat = used + span.toNat := by
    rw [hnxt, UInt32.toNat_add, hok.sndNxt, Nat.mod_eq_of_lt hused]
  refine ⟨hsum, ?_, fun h => ?_⟩
  · have hle := UInt32.le_iff_toNat_le.mp hok.sndUna
    rw [hok.sndNxt] at hle
    rw [hund, UInt32.le_iff_toNat_le, hsum]
    omega
  · rcases h with h | h
    · exact absurd h hst'.1
    · exact absurd h hst'.2

theorem TcbResent.seqOk (h : TcbResent tcb tcb') (hv : tcb.valid = true)
    (I : SeqOkUnwrapped used tcb) : SeqOkUnwrapped (seqUsedBy used tcb tcb') tcb' := by
  obtain ⟨sendq, ts, hsame⟩ := h.same
  rw [seqUsedBy_kept hv (by rw [hsame]; exact hv) (by rw [hsame]), hsame]
  exact fun h1 h2 h3 => ⟨(I h1 h2 h3).sndNxt, (I h1 h2 h3).sndUna, (I h1 h2 h3).opening⟩

/-- A TCB whose `snd_una` is where it was or has moved to an ACK of the window. -/
theorem SeqOk.acked (I : SeqOk used tcb) (hnxt : tcb'.sndNxt = tcb.sndNxt)
    (hund : tcb'.sndUna ≤ tcb.sndNxt)
    (hst' : tcb'.state ≠ .synSent ∧ tcb'.state ≠ .synReceived) : SeqOk used tcb' where
  sndNxt := by rw [hnxt, I.sndNxt]
  sndUna := by rw [hnxt]; exact hund
  opening h := by
    rcases h with h | h
    · exact absurd h hst'.1
    · exact absurd h hst'.2

theorem tcpEstablishedAck_new (h : hdr.AcksNew tcb) :
    tcpEstablishedAck tcb hdr = { tcpSendqAck tcb hdr.ackNum with sndUna := hdr.ackNum } := if_pos h

theorem tcpEstablishedAck_not_new (h : ¬ hdr.AcksNew tcb) : tcpEstablishedAck tcb hdr = tcb :=
  if_neg h

/-- `TCP_ESTABLISHED` and what follows it keep the numbers that the ACK field leaves. -/
theorem SeqOk.establishedAck (I : SeqOk used tcb)
    (hnxt : tcb'.sndNxt = (tcpEstablishedAck tcb hdr).sndNxt)
    (hund : tcb'.sndUna = (tcpEstablishedAck tcb hdr).sndUna)
    (hst' : tcb'.state ≠ .synSent ∧ tcb'.state ≠ .synReceived) : SeqOk used tcb' := by
  rw [tcpEstablishedAck_sndNxt] at hnxt
  by_cases hnew : hdr.AcksNew tcb
  · refine I.acked hnxt ?_ hst'
    rw [hund, tcpEstablishedAck_new hnew]
    exact hnew.2.2
  · refine I.acked hnxt ?_ hst'
    rw [hund, tcpEstablishedAck_not_new hnew]
    exact I.sndUna

/-- A segment releases the TCB or leaves `snd_nxt` and, if the ACK of a FIN is not past it,
    the invariant. -/
theorem TcbReceived.seqOk (hr : TcbReceived tcb hdr tcb') (hv : tcb.valid = true)
    (I : SeqOk used tcb) (hfin : tcb.state.AwaitsFinAck → hdr.flags &&& tcpFlagAck ≠ 0 →
      hdr.ackNum ≤ tcb.sndNxt) (Q : QueueOk tcb) :
    tcb'.valid = false ∨ tcb'.valid = true ∧ tcb'.sndNxt = tcb.sndNxt ∧ SeqOk used tcb' := by
  have hshape := Q.shape hv
  cases hr with
  | ignored => exact .inr ⟨hv, rfl, I⟩
  | synSent hst hsyn hack hnum =>
    exact .inr ⟨hv, rfl, I.acked rfl (hnum ▸ UInt32.le_refl _) (by simp)⟩
  | synReceived hst hack hnum =>
    exact .inr ⟨hv, rfl, I.acked rfl (hnum ▸ UInt32.le_refl _) (by simp)⟩
  | acked hst =>
    refine .inr ⟨(tcpEstablishedAck_valid _ _).trans hv, tcpEstablishedAck_sndNxt _ _,
      I.establishedAck rfl rfl ?_⟩
    rw [tcpEstablishedAck_state, hst]
    decide
  | data hst =>
    refine .inr ⟨(tcpEstablishedAck_valid _ _).trans hv, tcpEstablishedAck_sndNxt _ _,
      I.establishedAck rfl rfl ?_⟩
    show (tcpEstablishedAck tcb hdr).state ≠ _ ∧ (tcpEstablishedAck tcb hdr).state ≠ _
    rw [tcpEstablishedAck_state, hst]
    decide
  | fin hst _ _ hnext =>
    refine .inr ⟨(tcpEstablishedAck_valid _ _).trans hv, tcpEstablishedAck_sndNxt _ _,
      I.establishedAck rfl rfl ?_⟩
    rcases hnext with rfl | rfl <;> simp
  | finWait1 hst hack hnum =>
    have hle := hfin (.inl hst) hack
    split
    · exact .inr ⟨hv, rfl, I.acked rfl hle (by simp)⟩
    · refine .inr ⟨hv, rfl, I.acked rfl hle ?_⟩
      show tcb.state ≠ _ ∧ tcb.state ≠ _
      rw [hst]
      decide
  | finWait2 hst _ _ hnext =>
    refine .inr ⟨hv, rfl, I.acked rfl I.sndUna ?_⟩
    rcases hnext with rfl | rfl <;> simp
  | closing hst =>
    rw [hst] at hshape
    exact hshape.elim
  | lastAck hst hack hnum =>
    refine .inr ⟨hv, rfl, I.acked rfl (hfin (.inr (.inr hst)) hack) ?_⟩
    show tcb.state ≠ _ ∧ tcb.state ≠ _
    rw [hst]
    decide
  | released => exact .inl rfl

/-- Nothing is acknowledged where the queue and the state stay. -/
theorem not_tcbAcked (hq : tcb'.sendq = tcb.sendq)
    (hst : tcb.state.AwaitsFinAck → tcb'.state = tcb.state) : ¬ TcbAcked tcb tcb' := by
  rintro (⟨k, b, hb, hb'⟩ | ⟨hawaits, hne⟩)
  · rw [hq] at hb'
    exact hb' hb
  · exact hne (hst hawaits)

/-- What a segment acknowledges, it acknowledges in the window; of the release in
    `TCP_LAST_ACK` this is to be shown. -/
theorem TcbReceived.acksNew (hr : TcbReceived tcb hdr tcb') (hv : tcb.valid = true)
    (I : SeqOk used tcb) (hfin : tcb.state.AwaitsFinAck → hdr.flags &&& tcpFlagAck ≠ 0 →
      hdr.ackNum ≤ tcb.sndNxt) (Q : QueueOk tcb)
    (hlast : tcb.state = .lastAck → tcb' = {} → hdr.AcksNew tcb) (h : TcbAcked tcb tcb') :
    hdr.AcksNew tcb := by
  have hshape := Q.shape hv
  have hopen : tcb.state = .synSent ∨ tcb.state = .synReceived → hdr.flags &&& tcpFlagAck ≠ 0 →
      hdr.ackNum = tcb.sndNxt → hdr.AcksNew tcb := by
    intro hst hack hnum
    obtain ⟨hund, hnxt⟩ := I.opening hst
    refine ⟨hack, ?_, by rw [hnum]; exact UInt32.le_refl _⟩
    rw [hnum, hund, hnxt]
    decide
  have hestablished : tcb.state = .established →
      tcb'.sendq = (tcpEstablishedAck tcb hdr).sendq → hdr.AcksNew tcb := by
    intro hst hq
    by_contra hnot
    rw [tcpEstablishedAck_not_new hnot] at hq
    refine not_tcbAcked hq (fun hawaits => ?_) h
    rcases hawaits with h' | h' | h' <;> exact absurd (hst.symm.trans h') (by decide)
  cases hr with
  | ignored => exact absurd h (not_tcbAcked rfl fun _ => rfl)
  | synSent hst hsyn hack hnum => exact hopen (.inl hst) hack hnum
  | synReceived hst hack hnum => exact hopen (.inr hst) hack hnum
  | acked hst => exact hestablished hst rfl
  | data hst => exact hestablished hst rfl
  | fin hst => exact hestablished hst rfl
  | finWait1 hst hack hnum => exact ⟨hack, hnum, hfin (.inl hst) hack⟩
  | finWait2 hst =>
    refine absurd h (not_tcbAcked rfl fun hawaits => ?_)
    rcases hawaits with h' | h' | h' <;> exact absurd (hst.symm.trans h') (by decide)
  | closing hst =>
    rw [hst] at hshape
    exact hshape.elim
  | lastAck hst hack hnum => exact ⟨hack, hnum, hfin (.inr (.inr hst)) hack⟩
  | released hst => exact hlast hst rfl

/-- Nothing is acknowledged where the queue is empty and the close waits for nothing. -/
theorem not_tcbAcked_idle (hempty : ∀ k, (tcb.sendq.entries k).held = false)
    (hst : ¬ tcb.state.AwaitsFinAck) : ¬ TcbAcked tcb tcb' := by
  rintro (⟨k, b, hb, -⟩ | ⟨hawaits, -⟩)
  · have hk := hempty k
    rw [TcpSegment.held, hb] at hk
    exact Bool.false_ne_true hk.symm
  · exact hst hawaits

theorem le_seqUsedBy (hv : tcb.valid = true) (hv' : tcb'.valid = true) :
    used ≤ seqUsedBy used tcb tcb' := by
  unfold seqUsedBy
  rw [hv, hv', Bool.and_self, if_pos rfl]
  exact Nat.le_add_right _ _

theorem seqOkUnwrapped_same (I : SeqOkUnwrapped used tcb) :
    SeqOkUnwrapped (seqUsedBy used tcb tcb) tcb := by
  intro hv hst hused
  rw [seqUsedBy_kept hv hv rfl] at hused ⊢
  exact I hv hst hused

end

section
variable {env : IpEnv} {i : TcbIndex} {used : ℕ} {tcb tcb' : Tcb} {input : TcpInput} {out : TcpOut}

/-- One step, with the ACK of a FIN not past `snd_nxt`. -/
theorem TcbStepped.seqOk (h : TcbStepped env i tcb input tcb' out) (Q : QueueOk tcb)
    (I : SeqOkUnwrapped used tcb) (hfin : ∀ pkt, input = .call (.receive pkt) →
      tcb.valid = true → used < 2 ^ 32 → tcb.state.AwaitsFinAck →
      (tcpFields pkt.data).flags &&& tcpFlagAck ≠ 0 → (tcpFields pkt.data).ackNum ≤ tcb.sndNxt) :
    SeqOkUnwrapped (seqUsedBy used tcb tcb') tcb' := by
  cases h with
  | listened _ hst => exact seqOkUnwrapped_listen hst
  | connected hfree hopen => exact hopen.seqOk hfree
  | child hfree hopen => exact hopen.seqOk hfree
  | sent hst hst' hsent => exact hsent.seqOk I (by simp [hst]) (by simp [hst'])
  | closed hst hsent =>
    rcases hst with ⟨hst, hst'⟩ | ⟨hst, hst'⟩
    · exact hsent.seqOk I (by simp [hst]) (by simp [hst'])
    · exact hsent.seqOk I (by simp [hst]) (by simp [hst'])
  | received hv hst hr =>
    intro hv' hst' hused
    have hlt : used < 2 ^ 32 := lt_of_le_of_lt (le_seqUsedBy hv hv') hused
    have hok := hr.seqOk hv (I hv hst hlt) (hfin _ rfl hv hlt) Q
    rcases hok with hfree | ⟨-, hnxt, hok⟩
    · exact absurd (hv'.symm.trans hfree) (by decide)
    · rw [seqUsedBy_kept hv hv' hnxt]
      exact hok
  | resent hre => exact (tcbResent_resentAt env tcb _).seqOk hre.valid I
  | released => exact seqOkUnwrapped_free rfl

/-- Only a segment acknowledges, and in the window; of the release in `TCP_LAST_ACK` this
    is to be shown. -/
theorem TcbStepped.acksNew (h : TcbStepped env i tcb input tcb' out) (Q : QueueOk tcb)
    (hv : tcb.valid = true) (I : SeqOkUnwrapped used tcb) (hused : used < 2 ^ 32)
    (hfin : ∀ pkt, input = .call (.receive pkt) → tcb.state.AwaitsFinAck →
      (tcpFields pkt.data).flags &&& tcpFlagAck ≠ 0 → (tcpFields pkt.data).ackNum ≤ tcb.sndNxt)
    (hlast : ∀ pkt, input = .call (.receive pkt) → tcb.state = .lastAck → tcb' = {} →
      (tcpFields pkt.data).AcksNew tcb) (hacked : TcbAcked tcb tcb') :
    ∃ pkt, input = .call (.receive pkt) ∧ (tcpFields pkt.data).AcksNew tcb := by
  have hawaits : ∀ {state}, tcb.state = state → ¬ state.AwaitsFinAck →
      ¬ tcb.state.AwaitsFinAck := by
    intro state hst h
    rwa [hst]
  have hidle : ∀ {state}, tcb.state = state → ¬ state.AwaitsFinAck →
      (∀ k, (tcb.sendq.entries k).held = false) → False := fun hst hnot hempty =>
    not_tcbAcked_idle hempty (hawaits hst hnot) hacked
  cases h with
  | listened hfree => exact absurd (hv.symm.trans hfree) (by decide)
  | connected hfree => exact absurd (hv.symm.trans hfree) (by decide)
  | child hfree => exact absurd (hv.symm.trans hfree) (by decide)
  | sent hst _ hsent =>
    exact (hidle hst (by simp [TcpState.AwaitsFinAck]) (Q.sendq.held_eq_false hsent.idle)).elim
  | closed hst hsent =>
    rcases hst with ⟨hst, -⟩ | ⟨hst, -⟩
    · exact (hidle hst (by simp [TcpState.AwaitsFinAck]) (Q.sendq.held_eq_false hsent.idle)).elim
    · exact (hidle hst (by simp [TcpState.AwaitsFinAck]) (Q.sendq.held_eq_false hsent.idle)).elim
  | received _ hst hr =>
    exact ⟨_, rfl, hr.acksNew hv (I hv hst hused) (hfin _ rfl) Q (hlast _ rfl) hacked⟩
  | resent hre =>
    rcases hacked with ⟨k, b, hb, hb'⟩ | ⟨-, hne⟩
    · exact absurd (((tcbResent_resentAt env tcb _).pkt k).trans hb) hb'
    · exact absurd rfl hne
  | released _ hst =>
    have hshape := Q.shape hv
    rw [hst] at hshape
    exact (hidle hst (by simp [TcpState.AwaitsFinAck]) (held_eq_zero.mp hshape)).elim

end

/-! ## Runs -/

/-- What holds in every state of a run. -/
structure WindowInv (x : SeqState) : Prop where
  queue : TableQueueOk x.1
  seq : ∀ i, SeqOkUnwrapped (x.2 i) (x.1.tcbs i)

theorem windowInv_init : WindowInv seqInit where
  queue _ := queueOk_default
  seq _ := seqOkUnwrapped_free rfl

section
variable {x : SeqState} {env : IpEnv} {input : TcpInput}

theorem WindowInv.step (I : WindowInv x) (hfin : FinAckInWindow x (env, input)) :
    WindowInv (seqStep x (env, input)) := by
  refine ⟨I.queue.step (env, input), fun j => ?_⟩
  show SeqOkUnwrapped (seqUsedBy (x.2 j) (x.1.tcbs j) ((tcpStep x.1 (env, input)).tcbs j)) _
  rcases tcpStep_slot I.queue env input j with ⟨hsame | ⟨-, hzero⟩, -⟩ | ⟨hfinds, hstep⟩
  · rw [seqStep, observe, hsame]
    exact seqOkUnwrapped_same (I.seq j)
  · exact seqOkUnwrapped_free (by rw [seqStep, observe, hzero])
  · exact hstep.seqOk (I.queue j) (I.seq j) fun pkt hpkt hv hused hawaits hack =>
      hfin j pkt hpkt (hfinds pkt hpkt hv) hused hawaits hack

/-- The release in `TCP_LAST_ACK` is for an ACK past `snd_una`. -/
theorem tcpReceive_released {table : TcpTable} {i : TcbIndex} {pkt : IpDatagram}
    (hfinds : TcpFinds table pkt i) (hst : (table.tcbs i).state = .lastAck)
    (h : (tcpReceive env table pkt).1.tcbs i = {}) :
    (tcpFields pkt.data).flags &&& tcpFlagAck ≠ 0 ∧
      (tcpFields pkt.data).ackNum > (table.tcbs i).sndUna := by
  rw [hfinds.receive env, tcpReceiveState.eq_def, hst] at h
  unfold tcpReceiveLastAck at h
  dsimp only at h
  split at h
  · assumption
  · rw [h] at hst
    cases hst

theorem WindowStep.of_finAck (I : WindowInv x) (hfin : FinAckInWindow x (env, input)) :
    WindowStep x (env, input) := by
  intro i
  refine ⟨((I.step hfin).seq i).inWindow, fun hv hused hacked => ?_⟩
  have hacked : TcbAcked (x.1.tcbs i) ((tcpStep x.1 (env, input)).tcbs i) := hacked
  rcases tcpStep_slot I.queue env input i with ⟨hsame | ⟨hfree, -⟩, -⟩ | ⟨hfinds, hstep⟩
  · rw [hsame] at hacked
    exact absurd hacked (not_tcbAcked rfl fun _ => rfl)
  · exact absurd (hv.symm.trans hfree) (by decide)
  · have hle : ∀ pkt, input = .call (.receive pkt) → (x.1.tcbs i).state.AwaitsFinAck →
        (tcpFields pkt.data).flags &&& tcpFlagAck ≠ 0 →
        (tcpFields pkt.data).ackNum ≤ (x.1.tcbs i).sndNxt := fun pkt hpkt =>
      hfin i pkt hpkt (hfinds pkt hpkt hv) hused
    obtain ⟨pkt, hpkt, hnew⟩ := hstep.acksNew (I.queue i) hv (I.seq i) hused hle
      (fun pkt hpkt hst hzero => by
        subst hpkt
        obtain ⟨hack, hgt⟩ := tcpReceive_released (hfinds pkt rfl hv) hst hzero
        exact ⟨hack, hgt, hle pkt rfl (.inr (.inr hst)) hack⟩) hacked
    exact ⟨pkt, hpkt, hfinds pkt hpkt hv, hnew⟩

/-- The TCB stays a connection, with `snd_una` at the ACK. -/
structure TcbMoved (tcb : Tcb) (ack : UInt32) (tcb' : Tcb) : Prop where
  valid : tcb'.valid = tcb.valid
  state : tcb'.state ≠ .listen
  sndUna : tcb'.sndUna = ack
  sndNxt : tcb'.sndNxt = tcb.sndNxt

theorem tcbMoved_ackedBy {tcb : Tcb} (hdr : TcpFields) (hst : tcb.state ≠ .listen) :
    TcbMoved tcb hdr.ackNum (tcb.ackedBy hdr) := ⟨rfl, hst, rfl, rfl⟩

/-- `TCP_FIN_WAIT_1` takes every ACK past `snd_una`. -/
theorem tcpReceiveFinWait1_moved {table : TcpTable} {i : TcbIndex} {hdr : TcpFields}
    (hst : (table.tcbs i).state = .finWait1) (hack : hdr.flags &&& tcpFlagAck ≠ 0)
    (hgt : hdr.ackNum > (table.tcbs i).sndUna) :
    TcbMoved (table.tcbs i) hdr.ackNum ((tcpReceiveFinWait1 table i hdr).1.tcbs i) := by
  have hmoved : TcbMoved (table.tcbs i) hdr.ackNum ((table.tcbs i).ackedBy hdr) :=
    tcbMoved_ackedBy hdr (by rw [hst]; decide)
  unfold tcpReceiveFinWait1
  rw [if_pos ⟨hack, hgt⟩]
  dsimp only
  rw [TcpTable.set_self]
  split
  · exact ⟨hmoved.valid, by simp, hmoved.sndUna, hmoved.sndNxt⟩
  · exact hmoved

/-- `TCP_LAST_ACK` does too, unless the ACK releases the slot. -/
theorem tcpReceiveLastAck_moved {table : TcpTable} {i : TcbIndex} {hdr : TcpFields}
    (hst : (table.tcbs i).state = .lastAck) (hack : hdr.flags &&& tcpFlagAck ≠ 0)
    (hgt : hdr.ackNum > (table.tcbs i).sndUna) :
    (tcpReceiveLastAck table i hdr).1.tcbs i = {} ∨
      TcbMoved (table.tcbs i) hdr.ackNum ((tcpReceiveLastAck table i hdr).1.tcbs i) := by
  have hmoved : TcbMoved (table.tcbs i) hdr.ackNum ((table.tcbs i).ackedBy hdr) :=
    tcbMoved_ackedBy hdr (by rw [hst]; decide)
  unfold tcpReceiveLastAck
  rw [if_pos ⟨hack, hgt⟩]
  dsimp only
  split
  · exact .inl (TcpTable.set_self ..)
  · rw [TcpTable.set_self]
    exact .inr hmoved

/-- Such an ACK past `snd_nxt` leaves the window or ends the connection. -/
theorem WindowStep.finAck (I : WindowInv x) (h : WindowStep x (env, input)) :
    FinAckInWindow x (env, input) := by
  rintro i pkt rfl hfinds hused hawaits hack
  obtain ⟨hv, hlisten⟩ := hfinds.valid
  have hok := I.seq i hv hlisten hused
  obtain ⟨hwindow, htaken⟩ := h i
  by_contra hgt
  have hgt : (tcpFields pkt.data).ackNum > (x.1.tcbs i).sndNxt := UInt32.not_le.mp hgt
  have hpast : (tcpFields pkt.data).ackNum > (x.1.tcbs i).sndUna :=
    UInt32.lt_of_le_of_lt hok.sndUna hgt
  have hst : (x.1.tcbs i).state = .finWait1 ∨ (x.1.tcbs i).state = .lastAck := by
    have hshape := (I.queue i).shape hv
    rcases hawaits with hst | hst | hst
    · exact .inl hst
    · rw [hst] at hshape
      exact hshape.elim
    · exact .inr hst
  have hswitch := tcpReceiveState.eq_def env x.1 i (tcpFields pkt.data)
  have htcb : (seqStep x (env, .call (.receive pkt))).1.tcbs i =
      (tcpReceiveState env x.1 i (tcpFields pkt.data)).1.tcbs i := by
    rw [← hfinds.receive env]
    rfl
  have hmoved : ¬ TcbMoved (x.1.tcbs i) (tcpFields pkt.data).ackNum
      ((tcpReceiveState env x.1 i (tcpFields pkt.data)).1.tcbs i) := by
    intro hmoved
    have hv' := hmoved.valid.trans hv
    rw [htcb] at hwindow
    have hused' : (seqStep x (env, .call (.receive pkt))).2 i = x.2 i := by
      show seqUsedBy (x.2 i) (x.1.tcbs i) ((seqStep x (env, .call (.receive pkt))).1.tcbs i) = _
      rw [htcb]
      exact seqUsedBy_kept hv hv' hmoved.sndNxt
    have hle := hwindow (by rwa [hused']) hv' hmoved.state
    rw [hmoved.sndUna, hmoved.sndNxt] at hle
    exact UInt32.not_le.mpr hgt hle
  rcases hst with hst | hst
  · rw [hst] at hswitch
    rw [hswitch] at hmoved
    exact hmoved (tcpReceiveFinWait1_moved hst hack hpast)
  · rw [hst] at hswitch
    rw [hswitch] at hmoved htcb
    have hzero := (tcpReceiveLastAck_moved hst hack hpast).resolve_right hmoved
    -- the slot is released, so the ACK counts as taken and must have been in the window
    have hacked : TcbAcked (x.1.tcbs i) ((seqStep x (env, .call (.receive pkt))).1.tcbs i) := by
      refine .inr ⟨hawaits, ?_⟩
      rw [htcb, hzero, hst]
      decide
    obtain ⟨pkt', hpkt, -, -, -, hle⟩ := htaken hv hused hacked
    cases hpkt
    exact UInt32.not_le.mpr hgt hle

theorem windowStep_iff (I : WindowInv x) (input : IpEnv × TcpInput) :
    WindowStep x input ↔ FinAckInWindow x input :=
  ⟨fun h => h.finAck I, fun h => .of_finAck I h⟩

end

/-- As long as the sequence numbers have not wrapped, every connection of a run has
    `snd_una ≤ snd_nxt`, and segments are removed and closes go on only by ACKs with
    `snd_una < ack_num ≤ snd_nxt`, exactly when no ACK past `snd_nxt` reaches a TCB that
    waits for the ACK of its FIN. -/
theorem tcpAck_window_iff (inputs : List (IpEnv × TcpInput)) :
    Guarded seqStep WindowStep seqInit inputs ↔ Guarded seqStep FinAckInWindow seqInit inputs :=
  guarded_iff WindowInv (fun _ input I => windowStep_iff I input)
    (fun _ _ hfin I => I.step hfin) inputs seqInit windowInv_init

/-- A connection is opened and closed, and before the FIN is acknowledged an ACK of a
    number arrives that was not sent. -/
def exampleForgedAckRun : List (IpEnv × TcpInput) :=
  exampleConnectRun ++ [(({} : IpEnv), .call (.receive exampleSynAck)),
    ({}, .call (.close exampleTcb)), ({}, .call (.receive (exampleSegment 1 3 tcpFlagAck)))]

/-- The ACK of 3 takes the TCB to `TCP_FIN_WAIT_2`, with `snd_nxt = 2`. -/
theorem not_tcpAck_window :
    ¬ ∀ inputs : List (IpEnv × TcpInput), Guarded seqStep WindowStep seqInit inputs := by
  intro h
  obtain ⟨-, -, -, hstep, -⟩ := h exampleForgedAckRun
  obtain ⟨hwindow, -⟩ := hstep exampleTcb
  have hle := hwindow (by decide +kernel) (by decide +kernel) (by decide +kernel)
  exact absurd hle (by decide +kernel)

end FrameRunner
