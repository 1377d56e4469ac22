import FrameRunner.Ospf.Merge

/-!
# The tables of an OSPF instance

The neighbors, the LSDB and the interfaces after any calls of `ospf_enable_iface`,
`ospf_receive` and the dead scan. `ospfReceive_of_accepts` says what an accepted
Hello does, and `ospfReceive_of_not_accepts` what any other packet does.

Main result: `ospfState_invariant`.
-/

namespace FrameRunner

open FrameRunner.Lib

/-! ## Histories -/

/-- `ospf_receive` takes the packet, and it is a Hello. -/
def ospfAcceptsHello (env : OspfEnv) (state : OspfState) (iface : IfaceRef) (pkt : IpDatagram) :
    Bool :=
  getU8 pkt.data 1 == ospfTypeHello && (ospfReceive env state iface pkt).2.1 == 0

inductive OspfCall where
  | enableIface (iface : IfaceRef) (cost : UInt16)
  | receive (env : OspfEnv) (iface : IfaceRef) (pkt : IpDatagram)
  | deadTimer (env : OspfEnv)

/-- An instance, with the time of the last Hello accepted from each router. -/
structure OspfHeard where
  state : OspfState
  lastHello : UInt32 → Option UInt64

/-- The instance after a call. -/
def ospfStep (s : OspfHeard) : OspfCall → OspfHeard
  | .enableIface iface cost => { s with state := (ospfEnableIface s.state iface cost).1 }
  | .receive env iface pkt =>
    { state := (ospfReceive env s.state iface pkt).1
      lastHello := if ospfAcceptsHello env s.state iface pkt then
          Function.update s.lastHello (getU32 pkt.data 4) (some env.now)
        else s.lastHello }
  | .deadTimer env => { s with state := (ospfDeadTimer env s.state).1 }

def ospfStart (routerId : UInt32) : OspfHeard := ⟨ospfInit routerId, fun _ => none⟩

/-! ## What a packet does -/

/-- What an accepted Hello leaves. -/
theorem ospfReceive_of_accepts {env : OspfEnv} {state : OspfState} {iface : IfaceRef}
    {pkt : IpDatagram} (h : ospfAcceptsHello env state iface pkt = true) :
    ∃ i, nbrKeyed.slotFor state.neighbors (getU32 pkt.data 4) = some i ∧
      getU32 pkt.data 4 ≠ state.routerId ∧
      (ospfReceive env state iface pkt).1 = { state with
        neighbors := Function.update state.neighbors i
          (ospfHelloNeighbor env state iface pkt.srcIp pkt.data)
        neighborCount := if (state.neighbors i).valid then state.neighborCount
                         else state.neighborCount + 1 } := by
  simp only [ospfAcceptsHello, Bool.and_eq_true, beq_iff_eq] at h
  have hrefused : ¬ (-1 : ℤ) = 0 := by decide
  rcases ospfReceive_switch env state iface pkt with he | ⟨htype, -⟩ | ⟨-, hstate, hres⟩
  · rw [he] at h
    exact absurd h.2 hrefused
  · exact absurd h.1 htype
  · rcases ospfReceiveHello_eq env state iface pkt.srcIp pkt.data with he | ⟨i, hslot, hid, he⟩
    · rw [hres, he] at h
      exact absurd h.2 hrefused
    · exact ⟨i, hslot, hid, by rw [hstate, he]⟩

/-- What any other packet leaves: the LSAs that it carries are stored. -/
theorem ospfReceive_of_not_accepts {env : OspfEnv} {state : OspfState} {iface : IfaceRef}
    {pkt : IpDatagram} (h : ospfAcceptsHello env state iface pkt = false) :
    ∃ parsedLsas : List OspfLsaEntry, (ospfReceive env state iface pkt).1 =
      (parsedLsas.foldl ospfApplyLsa (state, [])).1 := by
  rcases ospfReceive_switch env state iface pkt with he | ⟨-, he | he⟩ | ⟨htype, hstate, hres⟩
  · exact ⟨[], by rw [he]; rfl⟩
  · exact ⟨[], he⟩
  · rw [he, ospfReceiveLsu_eq]
    cases ospfParseLsu pkt.data with
    | none => exact ⟨[], rfl⟩
    | some parsedLsas => exact ⟨parsedLsas, ospfUpdateLsdb_state env state iface parsedLsas⟩
  · refine ⟨[], ?_⟩
    rcases ospfReceiveHello_eq env state iface pkt.srcIp pkt.data with he | ⟨i, -, -, he⟩
    · rw [hstate, he]
      rfl
    · simp [ospfAcceptsHello, htype, hres, he] at h

/-- Stored LSAs change the LSDB alone. -/
theorem foldl_ospfApplyLsa_frame (parsedLsas : List OspfLsaEntry) :
    ∀ acc : OspfState × List (Fin ospfLsdbSize), ∃ lsdb n,
      (parsedLsas.foldl ospfApplyLsa acc).1 = { acc.1 with lsdb := lsdb, lsdbCount := n } := by
  induction parsedLsas with
  | nil => exact fun acc => ⟨_, _, rfl⟩
  | cons parsed parsedLsas ih =>
    intro acc
    obtain ⟨lsdb, n, he⟩ := ih (ospfApplyLsa acc parsed)
    rw [List.foldl_cons, he]
    cases hslot : ospfLsaSlot acc.1 parsed with
    | none => exact ⟨_, _, by rw [ospfApplyLsa_of_none hslot]⟩
    | some i => exact ⟨_, _, by rw [ospfApplyLsa_state hslot]⟩

/-! ## Freshness -/

/-- What is stored stays in its slot, under its key, and only becomes newer. -/
def LsdbNewer (lsdb lsdb' : Slots ospfLsdbSize OspfLsaEntry) : Prop :=
  ∀ i, (lsdb i).valid = true → (lsdb' i).valid = true ∧ (lsdb' i).lsaId = (lsdb i).lsaId ∧
    (lsdb' i).advRouter = (lsdb i).advRouter ∧ (lsdb i).seqNum.toNat ≤ (lsdb' i).seqNum.toNat

theorem LsdbNewer.refl (lsdb : Slots ospfLsdbSize OspfLsaEntry) : LsdbNewer lsdb lsdb :=
  fun _ hi => ⟨hi, rfl, rfl, le_rfl⟩

theorem LsdbNewer.trans {a b c : Slots ospfLsdbSize OspfLsaEntry} (hab : LsdbNewer a b)
    (hbc : LsdbNewer b c) : LsdbNewer a c := by
  intro i hi
  obtain ⟨hv, hid, hadv, hseq⟩ := hab i hi
  obtain ⟨hv', hid', hadv', hseq'⟩ := hbc i hv
  exact ⟨hv', hid'.trans hid, hadv'.trans hadv, hseq.trans hseq'⟩

theorem ospfApplyLsa_newer (acc : OspfState × List (Fin ospfLsdbSize)) (parsed : OspfLsaEntry) :
    LsdbNewer acc.1.lsdb (ospfApplyLsa acc parsed).1.lsdb := by
  cases hslot : ospfLsaSlot acc.1 parsed with
  | none =>
    rw [ospfApplyLsa_of_none hslot]
    exact .refl _
  | some i =>
    rw [ospfApplyLsa_state hslot]
    intro j hj
    dsimp only
    by_cases hji : j = i
    · subst hji
      rw [Function.update_self]
      rcases ospfLsaSlot_eq_some hslot with ⟨hfind, hold⟩ | ⟨-, hfree⟩
      · obtain ⟨hid, hadv⟩ := Prod.mk.inj (ospfLsdbFind_eq_some hfind).2
        exact ⟨rfl, hid.symm, hadv.symm, (UInt32.lt_iff_toNat_lt.mp hold).le⟩
      · rw [hfree] at hj
        cases hj
    · rw [Function.update_of_ne hji]
      exact ⟨hj, rfl, rfl, le_rfl⟩

theorem foldl_ospfApplyLsa_newer (parsedLsas : List OspfLsaEntry) :
    ∀ acc : OspfState × List (Fin ospfLsdbSize),
      LsdbNewer acc.1.lsdb (parsedLsas.foldl ospfApplyLsa acc).1.lsdb :=
  run_related
    (fun acc acc' : OspfState × List (Fin ospfLsdbSize) => LsdbNewer acc.1.lsdb acc'.1.lsdb)
    (fun _ => .refl _) LsdbNewer.trans ospfApplyLsa_newer parsedLsas

/-- No call loses an LSA or stores an older one in its place. -/
theorem ospfStep_newer (s : OspfHeard) (call : OspfCall) :
    LsdbNewer s.state.lsdb (ospfStep s call).state.lsdb := by
  cases call with
  | enableIface iface cost =>
    obtain ⟨ifaces, n, he⟩ := ospfEnableIface_frame s.state iface cost
    show LsdbNewer _ (ospfEnableIface s.state iface cost).1.lsdb
    rw [he]
    exact .refl _
  | deadTimer env => exact .refl _
  | receive env iface pkt =>
    show LsdbNewer _ (ospfReceive env s.state iface pkt).1.lsdb
    cases haccepts : ospfAcceptsHello env s.state iface pkt with
    | true =>
      obtain ⟨i, -, -, he⟩ := ospfReceive_of_accepts haccepts
      rw [he]
      exact .refl _
    | false =>
      obtain ⟨parsedLsas, he⟩ := ospfReceive_of_not_accepts haccepts
      rw [he]
      exact foldl_ospfApplyLsa_newer parsedLsas (s.state, [])

theorem run_ospfStep_newer (calls : List OspfCall) :
    ∀ s, LsdbNewer s.state.lsdb (run ospfStep s calls).state.lsdb :=
  run_related (fun s s' : OspfHeard => LsdbNewer s.state.lsdb s'.state.lsdb) (fun _ => .refl _)
    LsdbNewer.trans ospfStep_newer calls

/-! ## Counts, keys and times -/

/-- The tables of an instance, with the times of the last Hellos. -/
structure OspfTablesOk (s : OspfHeard) : Prop where
  neighborCount : s.state.neighborCount = Slots.count OspfNeighbor.valid s.state.neighbors
  neighborIds : nbrKeyed.Distinct s.state.neighbors
  lsdb : LsdbOk s.state
  ifaceCount : s.state.ifaceCount = Slots.count OspfIface.valid s.state.ifaces
  heard : ∀ i, (s.state.neighbors i).valid = true →
    s.lastHello (s.state.neighbors i).routerId = some (s.state.neighbors i).lastHelloTs

theorem ospfTablesOk_start (routerId : UInt32) : OspfTablesOk (ospfStart routerId) where
  neighborCount := (Slots.count_eq_zero.mpr fun _ => rfl).symm
  neighborIds i j hi := by cases hi
  lsdb := lsdbOk_ospfInit routerId
  ifaceCount := (Slots.count_eq_zero.mpr fun _ => rfl).symm
  heard i hi := by cases hi

section
variable {s : OspfHeard}

theorem OspfTablesOk.hello (h : OspfTablesOk s) {i : Fin ospfMaxNeighbors} {x : OspfNeighbor}
    (hslot : nbrKeyed.slotFor s.state.neighbors x.routerId = some i) (hx : x.valid = true) :
    OspfTablesOk ⟨{ s.state with
        neighbors := Function.update s.state.neighbors i x
        neighborCount := if (s.state.neighbors i).valid then s.state.neighborCount
                         else s.state.neighborCount + 1 },
      Function.update s.lastHello x.routerId (some x.lastHelloTs)⟩ := by
  obtain ⟨hfresh, -⟩ := Keyed.slotFor_eq_some h.neighborIds hslot
  refine ⟨?_, h.neighborIds.store fun _ => hfresh, h.lsdb.congr rfl rfl, h.ifaceCount,
    fun j hj => ?_⟩
  · have hfill := Slots.count_store OspfNeighbor.valid s.state.neighbors i hx
    rw [← h.neighborCount] at hfill
    exact hfill.symm
  · dsimp only at hj ⊢
    by_cases hji : j = i
    · subst hji
      rw [Function.update_self, Function.update_self]
    · rw [Function.update_of_ne hji] at hj ⊢
      have hne : (s.state.neighbors j).routerId ≠ x.routerId := hfresh j hji hj
      rw [Function.update_of_ne hne]
      exact h.heard j hj

theorem OspfTablesOk.lsas (h : OspfTablesOk s) (parsedLsas : List OspfLsaEntry) :
    OspfTablesOk { s with state := (parsedLsas.foldl ospfApplyLsa (s.state, [])).1 } := by
  have hlsdb : LsdbOk (parsedLsas.foldl ospfApplyLsa (s.state, [])).1 := LsdbOk.foldl _ h.lsdb
  obtain ⟨lsdb, n, he⟩ := foldl_ospfApplyLsa_frame parsedLsas (s.state, [])
  rw [he] at hlsdb ⊢
  exact ⟨h.neighborCount, h.neighborIds, hlsdb, h.ifaceCount, h.heard⟩

theorem OspfTablesOk.enableIface (h : OspfTablesOk s) (iface : IfaceRef) (cost : UInt16) :
    OspfTablesOk { s with state := (ospfEnableIface s.state iface cost).1 } := by
  unfold ospfEnableIface
  split
  · exact h
  split
  · rename_i i hi
    have hv : (s.state.ifaces i).valid = true := by
      have := (Fin.find?_eq_some_iff.mp hi).1
      simp only [Bool.and_eq_true] at this
      exact this.2
    refine ⟨h.neighborCount, h.neighborIds, h.lsdb.congr rfl rfl, ?_, h.heard⟩
    have hfill := Slots.count_store OspfIface.valid s.state.ifaces i
      (x := { s.state.ifaces i with cost := cost }) hv
    rw [hv, if_pos rfl, ← h.ifaceCount] at hfill
    exact hfill.symm
  split
  · exact h
  split
  · exact h
  · rename_i i hi
    have hv : (s.state.ifaces i).valid = false := by simpa using (Fin.find?_eq_some_iff.mp hi).1
    refine ⟨h.neighborCount, h.neighborIds, h.lsdb.congr rfl rfl, ?_, h.heard⟩
    have hfill := Slots.count_store OspfIface.valid s.state.ifaces i
      (x := { iface := some iface, cost := cost, valid := true }) rfl
    rw [hv, if_neg Bool.false_ne_true, ← h.ifaceCount] at hfill
    exact hfill.symm

/-- The dead scan leaves a neighbor as it is or takes it down. -/
theorem ospfDeadTimer_neighbor (env : OspfEnv) (state : OspfState) (i : Fin ospfMaxNeighbors) :
    (ospfDeadTimer env state).1.neighbors i = state.neighbors i ∨
      (ospfDeadTimer env state).1.neighbors i = { state.neighbors i with state := .down } := by
  show (if ospfNeighborDead env.now (state.neighbors i) then
      { state.neighbors i with state := .down } else state.neighbors i) = _ ∨ _
  by_cases hdead : ospfNeighborDead env.now (state.neighbors i) = true
  · exact .inr (if_pos hdead)
  · exact .inl (if_neg hdead)

/-- A neighbor that was silent for the dead interval is down after the scan. -/
theorem ospfDeadTimer_old {env : OspfEnv} (state : OspfState) (i : Fin ospfMaxNeighbors)
    (hi : (state.neighbors i).valid = true)
    (hold : (state.neighbors i).lastHelloTs.toNat + ospfDeadIntervalUs.toNat ≤ env.now.toNat) :
    ((ospfDeadTimer env state).1.neighbors i).state = .down := by
  show (if ospfNeighborDead env.now (state.neighbors i) then
      { state.neighbors i with state := .down } else state.neighbors i).state = _
  by_cases hdown : (state.neighbors i).state = .down
  · split
    · rfl
    · exact hdown
  · have hle : (state.neighbors i).lastHelloTs ≤ env.now := UInt64.le_iff_toNat_le.mpr (by omega)
    have hage : ospfDeadIntervalUs ≤ env.now - (state.neighbors i).lastHelloTs := by
      rw [UInt64.le_iff_toNat_le, UInt64.toNat_sub_of_le _ _ hle]
      omega
    have hdead : ospfNeighborDead env.now (state.neighbors i) = true := by
      simp [ospfNeighborDead, hi, hdown, hle, hage]
    rw [if_pos hdead]

/-- One that was heard since is left alone. -/
theorem ospfDeadTimer_young {env : OspfEnv} (state : OspfState) (i : Fin ospfMaxNeighbors)
    (hyoung : env.now.toNat < (state.neighbors i).lastHelloTs.toNat + ospfDeadIntervalUs.toNat) :
    (ospfDeadTimer env state).1.neighbors i = state.neighbors i := by
  show (if ospfNeighborDead env.now (state.neighbors i) then
      { state.neighbors i with state := .down } else state.neighbors i) = _
  refine if_neg fun hdead => ?_
  simp only [ospfNeighborDead, Bool.and_eq_true, decide_eq_true_eq] at hdead
  obtain ⟨⟨-, hle⟩, hage⟩ := hdead
  rw [UInt64.le_iff_toNat_le, UInt64.toNat_sub_of_le _ _ hle] at hage
  have hle := UInt64.le_iff_toNat_le.mp hle
  omega

theorem OspfTablesOk.deadTimer (h : OspfTablesOk s) (env : OspfEnv) :
    OspfTablesOk { s with state := (ospfDeadTimer env s.state).1 } := by
  have hfields : ∀ i,
      ((ospfDeadTimer env s.state).1.neighbors i).valid = (s.state.neighbors i).valid ∧
      ((ospfDeadTimer env s.state).1.neighbors i).routerId = (s.state.neighbors i).routerId ∧
      ((ospfDeadTimer env s.state).1.neighbors i).lastHelloTs =
        (s.state.neighbors i).lastHelloTs := by
    intro i
    rcases ospfDeadTimer_neighbor env s.state i with he | he
    · rw [he]
      exact ⟨rfl, rfl, rfl⟩
    · rw [he]
      exact ⟨rfl, rfl, rfl⟩
  refine ⟨?_, ?_, h.lsdb.congr rfl rfl, h.ifaceCount, fun i hi => ?_⟩
  · exact h.neighborCount.trans (Slots.count_congr fun i => (hfields i).1.symm)
  · exact h.neighborIds.sub fun i hi => ⟨(hfields i).1.symm.trans hi, (hfields i).2.1⟩
  · obtain ⟨hv, hid, hts⟩ := hfields i
    dsimp only at hi ⊢
    rw [hid, hts]
    exact h.heard i (hv.symm.trans hi)

theorem OspfTablesOk.step (h : OspfTablesOk s) (call : OspfCall) :
    OspfTablesOk (ospfStep s call) := by
  cases call with
  | enableIface iface cost => exact h.enableIface iface cost
  | deadTimer env => exact h.deadTimer env
  | receive env iface pkt =>
    unfold ospfStep
    dsimp only
    cases haccepts : ospfAcceptsHello env s.state iface pkt with
    | true =>
      obtain ⟨i, hslot, -, he⟩ := ospfReceive_of_accepts haccepts
      rw [he, if_pos rfl]
      exact h.hello (x := ospfHelloNeighbor env s.state iface pkt.srcIp pkt.data) hslot rfl
    | false =>
      obtain ⟨parsedLsas, he⟩ := ospfReceive_of_not_accepts haccepts
      rw [he, if_neg Bool.false_ne_true]
      exact h.lsas parsedLsas

end

theorem ospfTablesOk_run (routerId : UInt32) (calls : List OspfCall) :
    OspfTablesOk (run ospfStep (ospfStart routerId) calls) :=
  run_invariant OspfTablesOk (fun _ call h => h.step call) calls _ (ospfTablesOk_start routerId)

/-- In every reachable state the counters count the slots in use, neighbors and LSAs
    have distinct keys, and an LSA has at most four links. From then on an LSA is
    only replaced by a newer one of its key. And right after a dead scan a neighbor whose
    last accepted Hello is 40 s old is down, and one heard since is as it was. -/
theorem ospfState_invariant (routerId : UInt32) (calls : List OspfCall) :
    let s := run ospfStep (ospfStart routerId) calls
    (s.state.neighborCount = Slots.count OspfNeighbor.valid s.state.neighbors ∧
      s.state.lsdbCount = Slots.count OspfLsaEntry.valid s.state.lsdb ∧
      s.state.ifaceCount = Slots.count OspfIface.valid s.state.ifaces) ∧
    (∀ i j, (s.state.neighbors i).valid = true → (s.state.neighbors j).valid = true →
      (s.state.neighbors i).routerId = (s.state.neighbors j).routerId → i = j) ∧
    (∀ i j, (s.state.lsdb i).valid = true → (s.state.lsdb j).valid = true →
      (s.state.lsdb i).lsaId = (s.state.lsdb j).lsaId →
      (s.state.lsdb i).advRouter = (s.state.lsdb j).advRouter → i = j) ∧
    (∀ i, (s.state.lsdb i).linkCount.val ≤ 4) ∧
    (∀ more i, (s.state.lsdb i).valid = true →
      ∃ j, let lsa := (run ospfStep s more).state.lsdb j
        lsa.valid = true ∧ lsa.lsaId = (s.state.lsdb i).lsaId ∧
          lsa.advRouter = (s.state.lsdb i).advRouter ∧
          (s.state.lsdb i).seqNum.toNat ≤ lsa.seqNum.toNat) ∧
    ∀ env i, (s.state.neighbors i).valid = true →
      ∃ heard, s.lastHello (s.state.neighbors i).routerId = some heard ∧
        (heard.toNat + ospfDeadIntervalUs.toNat ≤ env.now.toNat →
          ((ospfStep s (.deadTimer env)).state.neighbors i).state = .down) ∧
        (env.now.toNat < heard.toNat + ospfDeadIntervalUs.toNat →
          (ospfStep s (.deadTimer env)).state.neighbors i = s.state.neighbors i) := by
  intro s
  have h : OspfTablesOk s := ospfTablesOk_run routerId calls
  refine ⟨⟨h.neighborCount, h.lsdb.count, h.ifaceCount⟩, h.neighborIds,
    fun i j hi hj hid hadv => h.lsdb.keys i j hi hj (Prod.ext hid hadv),
    fun i => Nat.lt_succ_iff.mp (s.state.lsdb i).linkCount.isLt,
    fun more i hi => ⟨i, run_ospfStep_newer more s i hi⟩, fun env i hi => ?_⟩
  exact ⟨_, h.heard i hi, ospfDeadTimer_old s.state i hi, ospfDeadTimer_young s.state i⟩

end FrameRunner
