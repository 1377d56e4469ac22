import FrameRunner.Tcp.Failure
import FrameRunner.Tcp.Steps

/-!
# Listeners (`protocols/tcp.c`)

`tcp_listen` refuses an address for which `tcp_find_listener` finds a listener. That
search takes a listener for the wildcard 0 at any address, but not a listener for
any address at the wildcard: a wildcard listener may join one for a specific
address on its port, and not the other way round.

Main result: `tcpListen_order_iff`, the runs after which at most one listener
answers a SYN, and the pairs of calls whose order matters.
-/

namespace FrameRunner

open FrameRunner.Lib

/-! ## Where a TCB listens -/

/-- The address and port at which the TCB listens. -/
def Tcb.listensAt (tcb : Tcb) : Option (UInt32 × UInt16) :=
  if tcb.valid = true ∧ tcb.state = .listen then some (tcb.localIp, tcb.localPort) else none

/-- The test of `tcp_find_listener`. -/
def Tcb.Answers (tcb : Tcb) (localIp : UInt32) (localPort : UInt16) : Prop :=
  tcb.listensAt = some (localIp, localPort) ∨ tcb.listensAt = some (0, localPort)

instance (tcb : Tcb) (localIp : UInt32) (localPort : UInt16) :
    Decidable (tcb.Answers localIp localPort) := inferInstanceAs (Decidable (_ ∨ _))

/-- At most one listener answers a SYN. -/
def OneListener (table : TcpTable) : Prop :=
  ∀ localIp localPort i j, (table.tcbs i).Answers localIp localPort →
    (table.tcbs j).Answers localIp localPort → i = j

theorem listensAt_eq_none {tcb : Tcb} (h : tcb.valid = false ∨ tcb.state ≠ .listen) :
    tcb.listensAt = none := by
  unfold Tcb.listensAt
  rw [if_neg]
  rintro ⟨hv, hst⟩
  rcases h with h | h
  · rw [h] at hv
    exact Bool.false_ne_true hv
  · exact h hst

theorem listensAt_eq_some_iff {tcb : Tcb} {localIp : UInt32} {localPort : UInt16} :
    tcb.listensAt = some (localIp, localPort) ↔ tcb.valid = true ∧ tcb.state = .listen ∧
      tcb.localIp = localIp ∧ tcb.localPort = localPort := by
  unfold Tcb.listensAt
  split
  · rename_i h
    simp [h.1, h.2]
  · rename_i h
    exact iff_of_false (fun h' => by cases h') fun h' => h ⟨h'.1, h'.2.1⟩

theorem tcpFindListener_test {tcb : Tcb} {localIp : UInt32} {localPort : UInt16} :
    (tcb.valid && tcb.state == .listen && (tcb.localIp == localIp || tcb.localIp == 0) &&
      tcb.localPort == localPort) = true ↔ tcb.Answers localIp localPort := by
  unfold Tcb.Answers
  rw [listensAt_eq_some_iff, listensAt_eq_some_iff]
  simp only [Bool.and_eq_true, Bool.or_eq_true, beq_iff_eq]
  tauto

theorem tcpFindListener_eq_none_iff {table : TcpTable} {localIp : UInt32} {localPort : UInt16} :
    tcpFindListener table localIp localPort = none ↔
      ∀ i, ¬ (table.tcbs i).Answers localIp localPort := by
  unfold tcpFindListener
  rw [Fin.find?_eq_none_iff]
  simp only [← tcpFindListener_test, Bool.not_eq_true]

theorem tcpFindListener_eq_some_iff {table : TcpTable} {localIp : UInt32} {localPort : UInt16}
    {i : TcbIndex} : tcpFindListener table localIp localPort = some i ↔
      (table.tcbs i).Answers localIp localPort ∧
        ∀ j < i, ¬ (table.tcbs j).Answers localIp localPort := by
  unfold tcpFindListener
  rw [Fin.find?_eq_some_iff]
  simp only [← tcpFindListener_test, Bool.not_eq_true]

/-! ## What a call does to the listeners -/

/-- A new listener at this address is in slot `i`, and the others are as they were. -/
structure ListenerAdded (table table' : TcpTable) (i : TcbIndex) (localIp : UInt32)
    (localPort : UInt16) : Prop where
  free : (table.tcbs i).valid = false
  listens : (table'.tcbs i).listensAt = some (localIp, localPort)
  others : ∀ j, j ≠ i → table'.tcbs j = table.tcbs j

theorem tcpAllocTcb_eq_none_iff {table : TcpTable} :
    tcpAllocTcb table = none ↔ ∀ i, (table.tcbs i).valid = true := by
  unfold tcpAllocTcb
  cases hfind : Fin.find? fun i => !(table.tcbs i).valid with
  | none =>
    refine iff_of_true rfl fun i => ?_
    simpa using Fin.find?_eq_none_iff.mp hfind i
  | some i =>
    obtain ⟨hi, -⟩ := Fin.find?_eq_some_iff.mp hfind
    refine iff_of_false (fun h => by cases h) fun h => ?_
    rw [h i] at hi
    exact absurd hi (by decide)

/-- `tcp_listen` refuses, or adds its listener. -/
theorem tcpListen_result (table : TcpTable) (localIp : UInt32) (localPort : UInt16)
    (recvFn connectFn ctx : Option AppRef) :
    let r := tcpListen table localIp localPort recvFn connectFn ctx
    (r = (table, none) ∧ (localPort = 0 ∨ (tcpFindListener table localIp localPort).isSome ∨
      ∀ i, (table.tcbs i).valid = true)) ∨
    ∃ i, r.2 = some i ∧ localPort ≠ 0 ∧ tcpFindListener table localIp localPort = none ∧
      ListenerAdded table r.1 i localIp localPort := by
  unfold tcpListen
  by_cases hport : localPort = 0
  · exact .inl ⟨by rw [if_pos (by simp [hport])], .inl hport⟩
  rw [if_neg (by simpa using hport)]
  cases hfind : tcpFindListener table localIp localPort with
  | some j => exact .inl ⟨rfl, .inr (.inl rfl)⟩
  | none =>
    rw [if_neg (by simp)]
    cases halloc : tcpAllocTcb table with
    | none => exact .inl ⟨rfl, .inr (.inr (tcpAllocTcb_eq_none_iff.mp halloc))⟩
    | some r =>
      obtain ⟨table₁, i⟩ := r
      obtain ⟨hfree, htcbs, -⟩ := tcpAllocTcb_eq_some halloc
      refine .inr ⟨i, rfl, hport, rfl, hfree, ?_, fun j hj => ?_⟩
      · rw [TcpTable.set_self, listensAt_eq_some_iff, htcbs, Function.update_self]
        exact ⟨rfl, rfl, rfl, rfl⟩
      · simp only [TcpTable.set, Function.update_of_ne hj, htcbs]

/-- Every TCB listens where it did. -/
def ListenersKept (table table' : TcpTable) : Prop :=
  ∀ i, (table'.tcbs i).listensAt = (table.tcbs i).listensAt

/-- A segment makes no listener. -/
theorem TcbReceived.not_listen {tcb tcb' : Tcb} {hdr : TcpFields} (hr : TcbReceived tcb hdr tcb')
    (hst : tcb.state ≠ .listen) : tcb'.valid = false ∨ tcb'.state ≠ .listen := by
  cases hr with
  | ignored => exact .inr hst
  | synSent => exact .inr (by simp)
  | synReceived => exact .inr (by simp)
  | acked => exact .inr (by rw [tcpEstablishedAck_state]; exact hst)
  | data => exact .inr (by dsimp only; rw [tcpEstablishedAck_state]; exact hst)
  | fin _ _ _ hnext => exact .inr (by rcases hnext with rfl | rfl <;> simp)
  | finWait1 =>
    split
    · exact .inr (by simp)
    · exact .inr hst
  | finWait2 _ _ _ hnext => exact .inr (by rcases hnext with rfl | rfl <;> simp)
  | closing _ hnext => exact .inr (by rcases hnext with rfl | rfl <;> simp)
  | lastAck => exact .inr hst
  | released => exact .inl rfl

/-- A step makes no listener of a TCB and ends none, unless it is `tcp_listen`. -/
theorem TcbStepped.listensAt {env : IpEnv} {i : TcbIndex} {tcb tcb' : Tcb} {input : TcpInput}
    {out : TcpOut} (h : TcbStepped env i tcb input tcb' out)
    (hinput : ∀ localIp localPort recvFn connectFn ctx,
      input ≠ .call (.listen localIp localPort recvFn connectFn ctx)) :
    tcb'.listensAt = tcb.listensAt := by
  have hnone : (tcb.valid = false ∨ tcb.state ≠ .listen) →
      (tcb'.valid = false ∨ tcb'.state ≠ .listen) → tcb'.listensAt = tcb.listensAt :=
    fun hold hnew => (listensAt_eq_none hnew).trans (listensAt_eq_none hold).symm
  cases h with
  | listened => exact absurd rfl (hinput _ _ _ _ _)
  | connected hfree hopen | child hfree hopen =>
    exact hnone (.inl hfree) (.inr (by rw [hopen.state]; decide))
  | sent hst hst' => exact hnone (.inr (by rw [hst]; decide)) (.inr (by rw [hst']; decide))
  | closed hst =>
    rcases hst with ⟨hst, hst'⟩ | ⟨hst, hst'⟩
    all_goals exact hnone (.inr (by rw [hst]; decide)) (.inr (by rw [hst']; decide))
  | received _ hst hr => exact hnone (.inr hst) (hr.not_listen hst)
  | resent => rfl
  | released _ hst => exact hnone (.inr (by rw [hst]; decide)) (.inl rfl)

theorem tcpStep_listeners {table : TcpTable} (Q : TableQueueOk table)
    (input : IpEnv × TcpInput) :
    ListenersKept table (tcpStep table input) ∨
      ∃ env localIp localPort recvFn connectFn ctx i,
        input = (env, .call (.listen localIp localPort recvFn connectFn ctx)) ∧ localPort ≠ 0 ∧
        tcpFindListener table localIp localPort = none ∧
        ListenerAdded table (tcpStep table input) i localIp localPort := by
  obtain ⟨env, input⟩ := input
  by_cases hlisten : ∃ localIp localPort recvFn connectFn ctx,
      input = .call (.listen localIp localPort recvFn connectFn ctx)
  · obtain ⟨localIp, localPort, recvFn, connectFn, ctx, rfl⟩ := hlisten
    rcases tcpListen_result table localIp localPort recvFn connectFn ctx with
      ⟨hsame, -⟩ | ⟨i, -, hport, hfind, hadd⟩
    · refine .inl fun j => ?_
      simp only [tcpStep, tcpCall, hsame]
    · exact .inr ⟨env, _, _, _, _, _, i, rfl, hport, hfind, hadd⟩
  · refine .inl fun j => ?_
    rcases tcpStep_slot Q env input j with ⟨hkept | ⟨hfree, hcleared⟩, -⟩ | ⟨-, hstep⟩
    · rw [hkept]
    · rw [hcleared, listensAt_eq_none (.inl hfree)]
      rfl
    · exact hstep.listensAt fun localIp localPort recvFn connectFn ctx h =>
        hlisten ⟨localIp, localPort, recvFn, connectFn, ctx, h⟩

/-! ## Runs -/

/-- A wildcard listener is not put on the port of a listener for an address, unless the
    table is full. -/
def ListensApart (table : TcpTable) : IpEnv × TcpInput → Prop
  | (_, .call (.listen localIp localPort _ _ _)) => localIp = 0 → localPort ≠ 0 →
    (∀ i a, a ≠ 0 → (table.tcbs i).listensAt ≠ some (a, localPort)) ∨
      ∀ i, (table.tcbs i).valid = true
  | _ => True

theorem oneListener_init : OneListener tcpInit := by
  intro localIp localPort i j hi
  have hnone : (tcpInit.tcbs i).listensAt = none := rfl
  unfold Tcb.Answers at hi
  rw [hnone] at hi
  simp at hi

theorem ListenersKept.oneListener_iff {table table' : TcpTable} (h : ListenersKept table table') :
    OneListener table' ↔ OneListener table := by
  unfold OneListener Tcb.Answers
  simp only [h _]

section
variable {table table' : TcpTable} {i : TcbIndex} {localIp : UInt32} {localPort : UInt16}

/-- A TCB that answered before is another one than the new listener. -/
theorem ListenerAdded.ne (h : ListenerAdded table table' i localIp localPort) {j : TcbIndex}
    {ip : UInt32} {port : UInt16} (hj : (table.tcbs j).Answers ip port) : j ≠ i := by
  rintro rfl
  unfold Tcb.Answers at hj
  rw [listensAt_eq_none (.inl h.free)] at hj
  simp at hj

theorem ListenerAdded.oneListener (h : ListenerAdded table table' i localIp localPort)
    (hafter : OneListener table') : OneListener table := by
  intro ip port j k hj hk
  have hkept : ∀ l, (table.tcbs l).Answers ip port → (table'.tcbs l).Answers ip port := by
    intro l hl
    rwa [h.others l (h.ne hl)]
  exact hafter ip port j k (hkept j hj) (hkept k hk)

/-- What the new listener answers. -/
theorem ListenerAdded.answers_iff (h : ListenerAdded table table' i localIp localPort)
    {ip : UInt32} {port : UInt16} :
    (table'.tcbs i).Answers ip port ↔ (localIp = ip ∨ localIp = 0) ∧ localPort = port := by
  unfold Tcb.Answers
  rw [h.listens]
  simp only [Option.some.injEq, Prod.mk.injEq]
  tauto

/-- Who else answers what a new listener answers has an address of its own on its port. -/
theorem ListenerAdded.oneListener_iff (h : ListenerAdded table table' i localIp localPort)
    (hfind : tcpFindListener table localIp localPort = none) (I : OneListener table) :
    OneListener table' ↔
      (localIp = 0 → ∀ j a, a ≠ 0 → (table.tcbs j).listensAt ≠ some (a, localPort)) := by
  have hnone := tcpFindListener_eq_none_iff.mp hfind
  constructor
  · rintro hafter rfl j a - hj
    have hold : (table.tcbs j).Answers a localPort := .inl hj
    have hne : j ≠ i := h.ne hold
    have hnew : (table'.tcbs i).Answers a localPort := h.answers_iff.mpr ⟨.inr rfl, rfl⟩
    rw [← h.others j hne] at hold
    exact hne (hafter a localPort j i hold hnew)
  · intro hspecific
    -- nobody else answers where the new listener does
    have hapart : ∀ ip port j, j ≠ i → (table'.tcbs i).Answers ip port →
        ¬ (table'.tcbs j).Answers ip port := by
      intro ip port j hj hnew hother
      rw [h.others j hj] at hother
      obtain ⟨hip, rfl⟩ := h.answers_iff.mp hnew
      rcases hip with rfl | rfl
      · exact hnone j hother
      · rcases hother with hother | hother
        · by_cases hip : ip = 0
          · rw [hip] at hother
            exact hnone j (.inl hother)
          · exact hspecific rfl j ip hip hother
        · exact hnone j (.inl hother)
    intro ip port j k hj hk
    by_cases hji : j = i
    · by_cases hki : k = i
      · rw [hji, hki]
      · rw [hji] at hj
        exact absurd hk (hapart ip port k hki hj)
    · by_cases hki : k = i
      · rw [hki] at hk
        exact absurd hj (hapart ip port j hji hk)
      · rw [h.others j hji] at hj
        rw [h.others k hki] at hk
        exact I ip port j k hj hk

end

theorem oneListener_of_step {table : TcpTable} (Q : TableQueueOk table)
    {input : IpEnv × TcpInput} (h : OneListener (tcpStep table input)) : OneListener table := by
  rcases tcpStep_listeners Q input with hkept | ⟨_, _, _, _, _, _, i, -, -, -, hadd⟩
  · exact hkept.oneListener_iff.mp h
  · exact hadd.oneListener h

/-- One step keeps the listeners apart exactly when it adds no wildcard listener to one
    for an address. -/
theorem oneListener_step_iff {table : TcpTable} (Q : TableQueueOk table) (I : OneListener table)
    (input : IpEnv × TcpInput) : OneListener (tcpStep table input) ↔ ListensApart table input := by
  rcases tcpStep_listeners Q input with hkept |
    ⟨env, localIp, localPort, recvFn, connectFn, ctx, i, rfl, hport, hfind, hadd⟩
  · refine iff_of_true (hkept.oneListener_iff.mpr I) ?_
    obtain ⟨env, input⟩ := input
    unfold ListensApart
    split
    · rename_i localIp localPort recvFn connectFn ctx heq
      cases heq
      rintro rfl hport
      rcases tcpListen_result table 0 localPort recvFn connectFn ctx with
        ⟨-, hzero | hfind | hfull⟩ | ⟨i, -, -, -, hadd⟩
      · exact absurd hzero hport
      · -- a wildcard listener has the port already
        refine .inl fun j a ha hj => ?_
        obtain ⟨k, hk⟩ := Option.isSome_iff_exists.mp hfind
        obtain ⟨hk, -⟩ := tcpFindListener_eq_some_iff.mp hk
        have hwild : (table.tcbs k).listensAt = some (0, localPort) := hk.elim id id
        have hjk : j = k := I a localPort j k (.inl hj) (.inr hwild)
        rw [hjk, hwild] at hj
        simp only [Option.some.injEq, Prod.mk.injEq, and_true] at hj
        exact ha hj.symm
      · exact .inr hfull
      · -- the call has added its listener, so the others did not all stay
        have hi := hkept i
        rw [listensAt_eq_none (.inl hadd.free)] at hi
        exact absurd (hadd.listens.symm.trans hi) (by simp)
    · trivial
  · rw [hadd.oneListener_iff hfind I]
    show _ ↔ (localIp = 0 → localPort ≠ 0 → _ ∨ ∀ j, (table.tcbs j).valid = true)
    have hfree : ¬ ∀ j, (table.tcbs j).valid = true := by
      intro hfull
      exact absurd ((hfull i).symm.trans hadd.free) (by decide)
    simp only [hport, hfree, or_false, ne_eq, not_false_eq_true, forall_const]

/-- The listeners are apart after a run exactly when every step has kept them apart. -/
theorem oneListener_run_iff (inputs : List (IpEnv × TcpInput)) :
    OneListener (run tcpStep tcpInit inputs) ↔ Guarded tcpStep ListensApart tcpInit inputs := by
  have hQ : TableQueueOk tcpInit := fun _ => queueOk_default
  have hstep : ∀ table input, ListensApart table input → TableQueueOk table ∧ OneListener table →
      TableQueueOk (tcpStep table input) ∧ OneListener (tcpStep table input) :=
    fun _ input hg h => ⟨h.1.step input, (oneListener_step_iff h.1 h.2 input).mpr hg⟩
  constructor
  · intro h
    have hback : ∀ table input,
        (TableQueueOk (tcpStep table input) → OneListener (tcpStep table input)) →
        TableQueueOk table → OneListener table :=
      fun _ input hafter Q => oneListener_of_step Q (hafter (Q.step input))
    have hall := (guarded_of_final (Q := fun table => TableQueueOk table → OneListener table) hback
      inputs tcpInit fun _ => h).2
    refine (guarded_iff (fun table => TableQueueOk table ∧ OneListener table) (fun table input hP => ?_)
      hstep inputs tcpInit ⟨hQ, oneListener_init⟩).mp hall
    exact (imp_iff_right (hP.1.step input)).trans (oneListener_step_iff hP.1 hP.2 input)
  · intro hg
    exact (guarded_invariant (fun table => TableQueueOk table ∧ OneListener table) hstep inputs
      tcpInit hg ⟨hQ, oneListener_init⟩).2

/-! ## Slot placement -/

/-- The table with its TCBs in other slots: slot `i` holds what slot `σ i` held. -/
def TcpTable.moved (table : TcpTable) (σ : Equiv.Perm TcbIndex) : TcpTable :=
  { table with tcbs := table.tcbs ∘ σ }

/-- The listener that a SYN finds depends on the slots exactly when two answer it. -/
theorem oneListener_iff_moved {table : TcpTable} :
    OneListener table ↔ ∀ (σ : Equiv.Perm TcbIndex) localIp localPort,
      tcpFindListener (table.moved σ) localIp localPort =
        (tcpFindListener table localIp localPort).map σ.symm := by
  constructor
  · intro I σ localIp localPort
    cases hfind : tcpFindListener (table.moved σ) localIp localPort with
    | none =>
      have hnone : tcpFindListener table localIp localPort = none := by
        refine tcpFindListener_eq_none_iff.mpr fun i hi => ?_
        refine tcpFindListener_eq_none_iff.mp hfind (σ.symm i) ?_
        show (table.tcbs (σ (σ.symm i))).Answers localIp localPort
        rwa [σ.apply_symm_apply]
      rw [hnone]
      rfl
    | some m =>
      have hm : (table.tcbs (σ m)).Answers localIp localPort :=
        (tcpFindListener_eq_some_iff.mp hfind).1
      have hsome : tcpFindListener table localIp localPort = some (σ m) :=
        tcpFindListener_eq_some_iff.mpr
          ⟨hm, fun j hj h => absurd (I localIp localPort j (σ m) h hm) (ne_of_lt hj)⟩
      rw [hsome, Option.map_some, σ.symm_apply_apply]
  · intro hmoved localIp localPort
    -- the first that answers is the only one
    have hfirst : ∀ k l, tcpFindListener table localIp localPort = some k →
        (table.tcbs l).Answers localIp localPort → l = k := by
      intro k l hfind hl
      by_contra hne
      obtain ⟨-, hbefore⟩ := tcpFindListener_eq_some_iff.mp hfind
      have hlt : k < l := lt_of_le_of_ne (not_lt.mp fun h => hbefore l h hl) (Ne.symm hne)
      have hswap := hmoved (Equiv.swap k l) localIp localPort
      rw [hfind, Option.map_some, Equiv.symm_swap, Equiv.swap_apply_left] at hswap
      refine (tcpFindListener_eq_some_iff.mp hswap).2 k hlt ?_
      show (table.tcbs (Equiv.swap k l k)).Answers localIp localPort
      rwa [Equiv.swap_apply_left]
    intro i j hi hj
    cases hfind : tcpFindListener table localIp localPort with
    | none => exact absurd hi (tcpFindListener_eq_none_iff.mp hfind i)
    | some k => rw [hfirst k i hfind hi, hfirst k j hfind hj]

/-! ## The order of two calls -/

/-- What `tcp_listen` is given besides the address. -/
structure TcpHandlers where
  recvFn : Option AppRef
  connectFn : Option AppRef
  ctx : Option AppRef

/-- Both calls of `tcp_listen` succeed, in this order. -/
def BothListen (table : TcpTable) (localPort : UInt16) (first second : UInt32)
    (f g : TcpHandlers) : Prop :=
  let r := tcpListen table first localPort f.recvFn f.connectFn f.ctx
  r.2.isSome ∧ (tcpListen r.1 second localPort g.recvFn g.connectFn g.ctx).2.isSome

theorem tcpListen_isSome_iff {table : TcpTable} {localIp : UInt32} {localPort : UInt16}
    {recvFn connectFn ctx : Option AppRef} :
    (tcpListen table localIp localPort recvFn connectFn ctx).2.isSome ↔
      localPort ≠ 0 ∧ tcpFindListener table localIp localPort = none ∧
        ∃ i, (table.tcbs i).valid = false := by
  rcases tcpListen_result table localIp localPort recvFn connectFn ctx with
    ⟨hr, hrefused⟩ | ⟨i, hr, hport, hfind, hadd⟩
  · rw [hr]
    refine iff_of_false (by simp) ?_
    rintro ⟨hport, hfind, i, hfree⟩
    rcases hrefused with h | h | h
    · exact hport h
    · rw [hfind] at h
      exact absurd h (by simp)
    · exact absurd ((h i).symm.trans hfree) (by decide)
  · rw [hr]
    exact iff_of_true rfl ⟨hport, hfind, i, hadd.free⟩

/-- A listener for the wildcard keeps out every other on its port. -/
theorem not_bothListen_wildcard (table : TcpTable) (localIp : UInt32) (localPort : UInt16)
    (f g : TcpHandlers) : ¬ BothListen table localPort 0 localIp f g := by
  rintro ⟨hfirst, hsecond⟩
  obtain ⟨-, hfind, -⟩ := tcpListen_isSome_iff.mp hsecond
  rcases tcpListen_result table 0 localPort f.recvFn f.connectFn f.ctx with
    ⟨hr, -⟩ | ⟨i, -, -, -, hadd⟩
  · rw [hr] at hfirst
    exact absurd hfirst (by simp)
  · exact tcpFindListener_eq_none_iff.mp hfind i (.inr hadd.listens)

/-- A listener for an address does not keep out the wildcard. -/
theorem bothListen_specific_iff {table : TcpTable} {localIp : UInt32} {localPort : UInt16}
    (hip : localIp ≠ 0) (f g : TcpHandlers) :
    BothListen table localPort localIp 0 f g ↔
      localPort ≠ 0 ∧ tcpFindListener table localIp localPort = none ∧
        ∃ i j, i ≠ j ∧ (table.tcbs i).valid = false ∧ (table.tcbs j).valid = false := by
  unfold BothListen
  dsimp only
  rw [@tcpListen_isSome_iff (tcpListen table localIp localPort _ _ _).1]
  rcases tcpListen_result table localIp localPort f.recvFn f.connectFn f.ctx with
    ⟨hr, hrefused⟩ | ⟨i, hr, hport, hfind, hadd⟩
  · have hnone : ¬ (tcpListen table localIp localPort f.recvFn f.connectFn f.ctx).2.isSome := by
      rw [hr]
      simp
    refine iff_of_false (fun h => hnone h.1) fun h => hnone (tcpListen_isSome_iff.mpr ?_)
    obtain ⟨hport, hfind, i, -, -, hfree, -⟩ := h
    exact ⟨hport, hfind, i, hfree⟩
  · have hvalid := (listensAt_eq_some_iff.mp hadd.listens).1
    have hfind' : tcpFindListener (tcpListen table localIp localPort f.recvFn f.connectFn
        f.ctx).1 0 localPort = none := by
      refine tcpFindListener_eq_none_iff.mpr fun j hj => ?_
      by_cases hji : j = i
      · rw [hji] at hj
        exact (hadd.answers_iff.mp hj).1.elim hip hip
      · rw [hadd.others j hji] at hj
        exact tcpFindListener_eq_none_iff.mp hfind j (.inr (hj.elim id id))
    constructor
    · rintro ⟨-, -, -, j, hfree⟩
      have hji : j ≠ i := by
        rintro rfl
        exact absurd (hvalid.symm.trans hfree) (by decide)
      rw [hadd.others j hji] at hfree
      exact ⟨hport, hfind, i, j, hji.symm, hadd.free, hfree⟩
    · rintro ⟨-, -, j, k, hjk, hj, hk⟩
      refine ⟨by rw [hr]; rfl, hport, hfind', ?_⟩
      by_cases hji : j = i
      · have hki : k ≠ i := fun h => hjk (hji.trans h.symm)
        exact ⟨k, by rw [hadd.others k hki]; exact hk⟩
      · exact ⟨j, by rw [hadd.others j hji]; exact hj⟩

/-! ## Result -/

/-- At most one listener answers any SYN after a run exactly when the run never put a
    wildcard listener on the port of one for an address. Then, and only then, the
    listener does not depend on the slots. Whether both of two calls succeed, one for
    an address and one for the wildcard, depends on their order exactly when no
    listener answers at the address and two slots are free. -/
theorem tcpListen_order_iff (inputs : List (IpEnv × TcpInput)) :
    let table := run tcpStep tcpInit inputs
    (OneListener table ↔ Guarded tcpStep ListensApart tcpInit inputs) ∧
    ((∀ (σ : Equiv.Perm TcbIndex) localIp localPort,
        tcpFindListener (table.moved σ) localIp localPort =
          (tcpFindListener table localIp localPort).map σ.symm) ↔
      Guarded tcpStep ListensApart tcpInit inputs) ∧
    ∀ localIp localPort f g, localIp ≠ 0 →
      ((BothListen table localPort localIp 0 f g ↔ BothListen table localPort 0 localIp g f) ↔
        ¬ (localPort ≠ 0 ∧ tcpFindListener table localIp localPort = none ∧
          ∃ i j, i ≠ j ∧ (table.tcbs i).valid = false ∧ (table.tcbs j).valid = false)) := by
  intro table
  have hruns : OneListener table ↔ Guarded tcpStep ListensApart tcpInit inputs :=
    oneListener_run_iff inputs
  refine ⟨hruns, oneListener_iff_moved.symm.trans hruns, fun localIp localPort f g hip => ?_⟩
  rw [bothListen_specific_iff hip, iff_false_right (not_bothListen_wildcard _ _ _ _ _)]

/-- A listener at 10.0.0.1:80. -/
def exampleListenRun : List (IpEnv × TcpInput) :=
  [({}, .call (.listen 0x0A000001 80 none none none))]

/-- With the port 443 it depends on the order whether the wildcard can join. -/
theorem tcpListen_order_iff_exampleListenRun :
    let table := run tcpStep tcpInit exampleListenRun
    OneListener table ∧
      ¬ (BothListen table 443 0x0A000001 0 ⟨none, none, none⟩ ⟨none, none, none⟩ ↔
        BothListen table 443 0 0x0A000001 ⟨none, none, none⟩ ⟨none, none, none⟩) := by
  intro table
  have hapart : Guarded tcpStep ListensApart tcpInit exampleListenRun :=
    ⟨fun h => absurd h (by decide), trivial⟩
  obtain ⟨hone, -, horder⟩ := tcpListen_order_iff exampleListenRun
  refine ⟨hone.mpr hapart, fun h => ?_⟩
  refine (horder 0x0A000001 443 ⟨none, none, none⟩ ⟨none, none, none⟩ (by decide)).mp h ?_
  exact ⟨by decide, by decide +kernel, ⟨1, by decide⟩, ⟨2, by decide⟩, by decide,
    by decide +kernel, by decide +kernel⟩

/-- A wildcard listener that comes after one for an address answers its SYNs too. -/
theorem not_oneListener :
    ¬ ∀ (inputs : List (IpEnv × TcpInput)), OneListener (run tcpStep tcpInit inputs) := by
  intro h
  have hone := h (exampleListenRun ++ [(({} : IpEnv), .call (.listen 0 80 none none none))])
    0x0A000001 80 exampleTcb ⟨1, by decide⟩ (by decide +kernel) (by decide +kernel)
  exact absurd hone (by decide)

end FrameRunner
