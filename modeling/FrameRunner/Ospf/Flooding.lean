import FrameRunner.Lib.Flooding
import FrameRunner.Ospf.Exchange
import FrameRunner.Ospf.Merge
import Mathlib.Data.List.TakeWhile

/-!
# LSAs flood the area

Routers on the links of a graph, with OSPF on their interfaces. An LSU that comes in at a router
from outside is stored and flooded; the other routers get the LSUs in any order and perhaps more
than once, store what is new to them, and flood it on. `Lib.Flood` is the argument, with the
LSDBs as the stores.

Main results:
* `ospfFlood_agree`: when nothing is under way any more, all routers of a part of the graph have
  the newest of all LSAs that came in there, and so the same links.
* `ospfFlood_ends`: and it comes to that: the receptions do not go on forever, even on a graph
  with cycles.
-/

namespace FrameRunner

open FrameRunner.Lib

/-! ## One LSU at one router -/

/-- The LSAs of an LSU. -/
def lsuLsas (pkt : IpDatagram) : Set OspfLsa := {lsa | ∃ lsas, OspfLsuOf pkt.data lsas ∧ lsa ∈ lsas}

theorem lsuLsas_eq {pkt : IpDatagram} {lsas : List OspfLsa} (h : OspfLsuOf pkt.data lsas) :
    lsuLsas pkt = {lsa | lsa ∈ lsas} := by
  ext lsa
  constructor
  · rintro ⟨lsas', h', hlsa⟩
    rwa [h'.unique h] at hlsa
  · exact fun hlsa => ⟨lsas, h, hlsa⟩

/-- The LSDB and the changed slots after some LSAs of an LSU. -/
structure OspfStored (state : OspfState) (lsas : List OspfLsa)
    (acc : OspfState × List (Fin ospfLsdbSize)) : Prop where
  changed : ∀ i ∈ acc.2, (acc.1.lsdb i).valid = true ∧ (acc.1.lsdb i).toLsa ∈ lsas
  others : ∀ i, i ∉ acc.2 → acc.1.lsdb i = state.lsdb i
  stored : ∀ lsa ∈ lsas, Covered OspfLsa.key OspfLsa.rank (ospfLsas state) lsa ∨
    ∃ i ∈ acc.2, Covered OspfLsa.key OspfLsa.rank {(acc.1.lsdb i).toLsa} lsa
  news : acc.2 ≠ [] → ∃ lsa ∈ lsas, ¬ Covered OspfLsa.key OspfLsa.rank (ospfLsas state) lsa

section
variable {state : OspfState} {lsas : List OspfLsa} {acc : OspfState × List (Fin ospfLsdbSize)}
  {lsa : OspfLsa}

/-- An LSA that gets no slot is no news, if the keys fit. -/
theorem LsdbOk.covered (h : LsdbOk state)
    (hkeys : (OspfLsa.key '' insert lsa (ospfLsas state)).ncard ≤ ospfLsdbSize)
    (hslot : ospfLsaSlot state lsa.parsed = none) :
    Covered OspfLsa.key OspfLsa.rank (ospfLsas state) lsa := by
  cases hfind : ospfLsdbFind state lsa.lsaId lsa.advRouter with
  | some i =>
    obtain ⟨hv, hkey⟩ := ospfLsdbFind_eq_some hfind
    refine ⟨_, ⟨i, hv, rfl⟩, hkey, ?_⟩
    by_contra hold
    have holder : (state.lsdb i).seqNum < lsa.parsed.seqNum :=
      UInt32.lt_iff_toNat_lt.mpr (not_le.mp hold)
    have hsome : ospfLsaSlot state lsa.parsed = some i := ospfLsaSlot_of_older hfind holder
    rw [hslot] at hsome
    cases hsome
  | none =>
    have hsame : ospfLsaSlot state lsa.parsed = Fin.find? fun i => !(state.lsdb i).valid :=
      ospfLsaSlot_of_none hfind
    rw [hslot] at hsame
    have hfull : ∀ i, (state.lsdb i).valid = true := fun i => by
      simpa using Fin.find?_eq_none_iff.mp hsame.symm i
    have hnotMem : lsa.key ∉ OspfLsa.key '' ospfLsas state := by
      rintro ⟨_, ⟨i, hv, rfl⟩, hkey⟩
      exact ospfLsdbFind_eq_none hfind i hv hkey
    rw [Set.image_insert_eq, Set.ncard_insert_of_notMem hnotMem ((ospfLsas_finite state).image _),
      h.ncard_keys, h.count] at hkeys
    obtain ⟨i, hi⟩ := Slots.exists_of_count_lt (Nat.lt_of_succ_le hkeys)
    rw [hfull i] at hi
    cases hi

/-- An LSA that gets a slot is news. -/
theorem LsdbOk.not_covered (h : LsdbOk state) {i : Fin ospfLsdbSize}
    (hslot : ospfLsaSlot state lsa.parsed = some i) :
    ¬ Covered OspfLsa.key OspfLsa.rank (ospfLsas state) lsa := by
  rintro ⟨_, ⟨j, hj, rfl⟩, hkey, hle⟩
  rcases ospfLsaSlot_eq_some hslot with ⟨hfind, hold⟩ | ⟨hfind, -⟩
  · obtain ⟨hv, hkey'⟩ := ospfLsdbFind_eq_some hfind
    obtain rfl := h.keys j i hj hv (hkey.trans hkey'.symm)
    exact absurd (UInt32.lt_iff_toNat_lt.mp hold) (not_lt.mpr hle)
  · exact ospfLsdbFind_eq_none hfind j hj hkey

theorem ospfApplyLsa_changed {parsed : OspfLsaEntry} {i j : Fin ospfLsdbSize}
    (hslot : ospfLsaSlot acc.1 parsed = some i) :
    j ∈ (ospfApplyLsa acc parsed).2 ↔ j ∈ acc.2 ∨ j = i := by
  obtain ⟨state, changedSlots⟩ := acc
  unfold ospfApplyLsa
  dsimp only at hslot ⊢
  rw [hslot]
  dsimp only
  split
  · rename_i hmem
    exact ⟨.inl, fun h => h.elim id fun e => e ▸ hmem⟩
  · simp

theorem OspfStored.start : OspfStored state [] (state, []) where
  changed _ hi := absurd hi List.not_mem_nil
  others _ _ := rfl
  stored _ hlsa := absurd hlsa List.not_mem_nil
  news h := absurd rfl h

/-- One LSA more. -/
theorem OspfStored.applyLsa (h : OspfStored state lsas acc) (hok : LsdbOk acc.1)
    (hkeys : (OspfLsa.key '' insert lsa (ospfLsas acc.1)).ncard ≤ ospfLsdbSize) :
    OspfStored state (lsas ++ [lsa]) (ospfApplyLsa acc lsa.parsed) := by
  cases hslot : ospfLsaSlot acc.1 lsa.parsed with
  | none =>
    rw [ospfApplyLsa_of_none hslot]
    refine ⟨fun i hi => ?_, h.others, fun x hx => ?_, fun hne => ?_⟩
    · exact ⟨(h.changed i hi).1, List.mem_append_left _ (h.changed i hi).2⟩
    · rcases List.mem_append.mp hx with hx | hx
      · exact h.stored x hx
      · rw [List.mem_singleton.mp hx]
        obtain ⟨_, ⟨j, hj, rfl⟩, hkey, hle⟩ := hok.covered hkeys hslot
        by_cases hmem : j ∈ acc.2
        · exact .inr ⟨j, hmem, _, rfl, hkey, hle⟩
        · rw [h.others j hmem] at hj hkey hle
          exact .inl ⟨_, ⟨j, hj, rfl⟩, hkey, hle⟩
    · obtain ⟨x, hx, hnews⟩ := h.news hne
      exact ⟨x, List.mem_append_left _ hx, hnews⟩
  | some i =>
    have hchanged : ∀ j, j ∈ (ospfApplyLsa acc lsa.parsed).2 ↔ j ∈ acc.2 ∨ j = i :=
      fun j => ospfApplyLsa_changed hslot
    have hself : (ospfApplyLsa acc lsa.parsed).1.lsdb i = { lsa.parsed with valid := true } := by
      rw [ospfApplyLsa_lsdb hslot, Function.update_self]
    have hne : ∀ j, j ≠ i → (ospfApplyLsa acc lsa.parsed).1.lsdb j = acc.1.lsdb j := fun j hj => by
      rw [ospfApplyLsa_lsdb hslot, Function.update_of_ne hj]
    have hlsa : ((ospfApplyLsa acc lsa.parsed).1.lsdb i).toLsa = lsa := by
      rw [hself]
      exact lsa.toLsa_parsed
    refine ⟨fun j hj => ?_, fun j hj => ?_, fun x hx => ?_, fun _ => ?_⟩
    · by_cases hji : j = i
      · subst hji
        refine ⟨by rw [hself], ?_⟩
        rw [hlsa]
        exact List.mem_append_right _ (List.mem_singleton_self lsa)
      · rw [hne j hji]
        have hj := h.changed j (((hchanged j).mp hj).resolve_right hji)
        exact ⟨hj.1, List.mem_append_left _ hj.2⟩
    · rw [hchanged, not_or] at hj
      rw [hne j hj.2]
      exact h.others j hj.1
    · rcases List.mem_append.mp hx with hx | hx
      · refine (h.stored x hx).imp_right ?_
        rintro ⟨j, hj, y, rfl, hkey, hle⟩
        refine ⟨j, (hchanged j).mpr (.inl hj), ?_⟩
        by_cases hji : j = i
        · -- the slot was changed before, so it was in use, and gets a newer LSA of its key
          subst hji
          refine ⟨_, rfl, ?_⟩
          rw [hlsa]
          rcases ospfLsaSlot_eq_some hslot with ⟨hfind, hold⟩ | ⟨-, hfree⟩
          · obtain ⟨-, hkey'⟩ := ospfLsdbFind_eq_some hfind
            exact ⟨hkey'.symm.trans hkey, hle.trans (UInt32.lt_iff_toNat_lt.mp hold).le⟩
          · rw [(h.changed j hj).1] at hfree
            cases hfree
        · rw [hne j hji]
          exact ⟨_, rfl, hkey, hle⟩
      · rw [List.mem_singleton.mp hx]
        exact .inr ⟨i, (hchanged i).mpr (.inr rfl), _, rfl, by rw [hlsa], by rw [hlsa]⟩
    · by_cases hnone : acc.2 = []
      · refine ⟨lsa, List.mem_append_right _ (List.mem_singleton_self lsa), ?_⟩
        have hsame : ospfLsas acc.1 = ospfLsas state := by
          have hlsdb : acc.1.lsdb = state.lsdb :=
            funext fun j => h.others j (by rw [hnone]; exact List.not_mem_nil)
          unfold ospfLsas
          rw [hlsdb]
        rw [← hsame]
        exact hok.not_covered hslot
      · obtain ⟨x, hx, hnews⟩ := h.news hnone
        exact ⟨x, List.mem_append_left _ hx, hnews⟩

/-- The LSAs of an LSU, stored one after the other. `T` bounds the keys. -/
theorem OspfStored.foldl {T : Set OspfLsa} (hfin : T.Finite)
    (hkeys : (OspfLsa.key '' T).ncard ≤ ospfLsdbSize)
    (hcontents : Distinguished OspfLsa.key OspfLsa.rank T) (rest : List OspfLsa) :
    ∀ (A : Set OspfLsa) (lsas : List OspfLsa) (acc : OspfState × List (Fin ospfLsdbSize)), A ⊆ T →
      (∀ lsa ∈ rest, lsa ∈ T) → LsdbMerged A acc.1 → OspfStored state lsas acc →
      OspfStored state (lsas ++ rest) ((rest.map OspfLsa.parsed).foldl ospfApplyLsa acc) := by
  induction rest with
  | nil =>
    intro A lsas acc _ _ _ h
    rwa [List.append_nil]
  | cons lsa rest ih =>
    intro A lsas acc hA hrest hmerged h
    have hsub : insert lsa A ⊆ T := Set.insert_subset (hrest lsa List.mem_cons_self) hA
    have hle : ∀ B : Set OspfLsa, B ⊆ T → (OspfLsa.key '' B).ncard ≤ ospfLsdbSize := fun B hB =>
      (Set.ncard_le_ncard (Set.image_mono hB) (hfin.image _)).trans hkeys
    have hheld : insert lsa (ospfLsas acc.1) ⊆ T := by
      rw [hmerged.lsas]
      exact (Set.insert_subset_insert newest_subset).trans hsub
    have hone := hmerged.applyLsa (hfin.subset hA) (hle _ hsub) (hcontents.mono hsub)
    have h' := ih _ (lsas ++ [lsa]) _ hsub (fun x hx => hrest x (List.mem_cons_of_mem _ hx)) hone
      (h.applyLsa hmerged.ok (hle _ hheld))
    rw [List.append_assoc, List.singleton_append] at h'
    rw [List.map_cons, List.foldl_cons]
    exact h'

end

/-! ## What a router floods -/

theorem ospfFloodSlots_sent (env : OspfEnv) (state : OspfState) (iface : IfaceRef)
    (changedSlots : List (Fin ospfLsdbSize)) :
    (ospfFloodSlots env state iface changedSlots).1 =
      changedSlots.flatMap fun i => (ospfFloodLsa env state (state.lsdb i) iface).1 := by
  have h : ∀ (rest : List (Fin ospfLsdbSize)) (acc : List IpDatagram × Bool),
      (rest.foldl (fun acc i =>
        (acc.1 ++ (ospfFloodLsa env state (state.lsdb i) iface).1,
          acc.2 || (ospfFloodLsa env state (state.lsdb i) iface).2)) acc).1 =
        acc.1 ++ rest.flatMap fun i => (ospfFloodLsa env state (state.lsdb i) iface).1 := by
    intro rest
    induction rest with
    | nil => exact fun acc => (List.append_nil _).symm
    | cons i rest ih =>
      intro acc
      rw [List.foldl_cons, ih, List.flatMap_cons, List.append_assoc]
  exact h changedSlots ([], false)

/-- Where sending is possible, the LSA of each changed slot goes out on each enabled interface
    but the one that the LSU came in on. -/
theorem mem_ospfFloodSlots {t : Topology} {net : Net} {state : OspfState} {iface : IfaceRef}
    (hsends : ∀ x ∈ ospfFloodIfaces state iface, GroupSends t x)
    {changedSlots : List (Fin ospfLsdbSize)} {pkt : IpDatagram} :
    pkt ∈ (ospfFloodSlots (ospfEnv t net) state iface changedSlots).1 ↔
      ∃ i ∈ changedSlots, ∃ x ∈ ospfFloodIfaces state iface,
        ospfDatagram (ospfEnv t net) x (ospfLsuBytes state (state.lsdb i)) = pkt := by
  rw [ospfFloodSlots_sent, List.mem_flatMap]
  refine exists_congr fun i => and_congr_right fun _ => ?_
  have hall : ((ospfFloodIfaces state iface).takeWhile fun x => (ospfEnv t net).ipOk
      (ospfDatagram (ospfEnv t net) x (ospfLsuBytes state (state.lsdb i)))) =
        ospfFloodIfaces state iface :=
    List.takeWhile_eq_self_iff.mpr fun x hx => (ospfEnv_ipOk_iff t net x _).mpr (hsends x hx)
  rw [ospfFloodLsa_eq]
  dsimp only
  rw [hall, List.mem_map]

/-! ## The area -/

/-- An LSU on its way. -/
structure FloodMsg (R : Type*) where
  src : R
  dst : R
  pkt : IpDatagram

/-- The instances, the LSUs under way, and the LSAs that came in at each router from outside. -/
structure FloodNet (R : Type*) where
  node : R → OspfState
  flight : List (FloodMsg R)
  origin : R → Set OspfLsa

variable {t : Topology} {R : Type*}

/-- Each link of a router has an interface of its own. -/
structure OspfLinks.PointToPoint (L : OspfLinks t R) : Prop where
  prefixLen : ∀ {r q}, L.graph.Adj r q → (t.iface (L.iface r q)).prefixLen ≤ 32
  own : ∀ {r q q'}, L.graph.Adj r q → L.graph.Adj r q' → L.iface r q = L.iface r q' → q = q'

section
variable [Fintype R]

open Classical in
/-- The LSUs that `r` sends to its neighbors: `ip_output` sends a packet on the interface with
    its source address. -/
noncomputable def OspfLinks.sent (L : OspfLinks t R) (r : R) (out : List IpDatagram) :
    List (FloodMsg R) :=
  out.flatMap fun pkt => (Finset.univ.toList.filter fun q => L.graph.Adj r q ∧
    pkt.srcIp = (t.iface (L.iface r q)).ipAddr).map fun q => ⟨r, q, pkt⟩

theorem OspfLinks.mem_sent {L : OspfLinks t R} {r : R} {out : List IpDatagram} {m : FloodMsg R} :
    m ∈ L.sent r out ↔ m.src = r ∧ L.graph.Adj r m.dst ∧ m.pkt ∈ out ∧
      m.pkt.srcIp = (t.iface (L.iface r m.dst)).ipAddr := by
  classical
  unfold OspfLinks.sent
  simp only [List.mem_flatMap, List.mem_map, List.mem_filter, Finset.mem_toList, Finset.mem_univ,
    true_and, decide_eq_true_eq]
  constructor
  · rintro ⟨pkt, hpkt, q, ⟨hadj, hip⟩, rfl⟩
    exact ⟨rfl, hadj, hpkt, hip⟩
  · rintro ⟨rfl, hadj, hpkt, hip⟩
    exact ⟨m.pkt, hpkt, m.dst, ⟨hadj, hip⟩, rfl⟩

variable [DecidableEq R]

/-- `r` gets a packet on its interface `x`. `rest` is what is under way besides. -/
noncomputable def FloodNet.receive (s : FloodNet R) (L : OspfLinks t R) (r : R) (x : IfaceRef)
    (net : Net) (pkt : IpDatagram) (rest : List (FloodMsg R)) : FloodNet R :=
  let (state, _, out) := ospfReceive (ospfEnv t net) (s.node r) x pkt
  { s with node := Function.update s.node r state, flight := rest ++ L.sent r out.sent }

/-- One of the LSUs under way arrives. -/
inductive OspfLinks.Receives (L : OspfLinks t R) : FloodNet R → FloodNet R → Prop
  | receive (s : FloodNet R) (net : Net) {pre post : List (FloodMsg R)} {m : FloodMsg R}
      (hm : s.flight = pre ++ m :: post) : L.Receives s
        (s.receive L m.dst (L.iface m.dst m.src) net m.pkt (pre ++ post))

/-- The call hands a Hello to the instance or is a dead scan. -/
def OspfCall.NoLsu : OspfCall → Prop
  | .receive _ _ pkt => getU8 pkt.data 1 = ospfTypeHello
  | .deadTimer _ => True
  | .enableIface _ _ => False

/-- One step: an LSU arrives, or is under way once more; an LSU comes in from outside, on an
    interface that leads to none of the routers; or an instance is called for something else. -/
inductive OspfLinks.FloodStep (L : OspfLinks t R) : FloodNet R → FloodNet R → Prop
  | receives {s s' : FloodNet R} (h : L.Receives s s') : L.FloodStep s s'
  | again (s : FloodNet R) {m : FloodMsg R} (hm : m ∈ s.flight) :
      L.FloodStep s { s with flight := m :: s.flight }
  | comes (s : FloodNet R) (r : R) (x : IfaceRef) (net : Net) (pkt : IpDatagram)
      (hlsu : OspfDelivery.IsLsu (s.node r) ⟨ospfEnv t net, x, pkt⟩)
      (hx : ∀ q, L.graph.Adj r q → L.iface r q ≠ x) : L.FloodStep s
        { s.receive L r x net pkt s.flight with
            origin := Function.update s.origin r (s.origin r ∪ lsuLsas pkt) }
  | call (s : FloodNet R) (r : R) {c : OspfCall} (hc : c.NoLsu) :
      L.FloodStep s { s with node := Function.update s.node r ((s.node r).call c) }

end

/-! ## What a reception does -/

/-- An instance of the area: OSPF is enabled on all links, and it can send wherever it is
    enabled. -/
structure OspfLinks.FloodNode (L : OspfLinks t R) (r : R) (state : OspfState) : Prop where
  areaId : state.areaId = L.areaId
  enabled : ∀ q, L.graph.Adj r q →
    ∃ i, (state.ifaces i).valid = true ∧ (state.ifaces i).iface = some (L.iface r q)
  sends : ∀ i x, (state.ifaces i).valid = true → (state.ifaces i).iface = some x → GroupSends t x
  lsdb : LsdbOk state

/-- The packet is an LSU of the area with one LSA, as `ospf_flood_lsa` builds it. -/
def OspfLinks.IsFlooded (L : OspfLinks t R) (pkt : IpDatagram) : Prop :=
  ∃ env x state lsa, state.areaId = L.areaId ∧ pkt = ospfDatagram env x (ospfLsuBytes state lsa)

section
variable {L : OspfLinks t R} {r : R} {state state' : OspfState}

theorem OspfLinks.FloodNode.congr (h : L.FloodNode r state) (harea : state'.areaId = state.areaId)
    (hifaces : state'.ifaces = state.ifaces) (hlsdb : LsdbOk state') : L.FloodNode r state' where
  areaId := harea.trans h.areaId
  enabled := by
    rw [hifaces]
    exact h.enabled
  sends := by
    rw [hifaces]
    exact h.sends
  lsdb := hlsdb

/-- The call leaves the LSDB alone. -/
theorem OspfState.call_lsdb (state : OspfState) {c : OspfCall} (hc : c.NoLsu) :
    (state.call c).areaId = state.areaId ∧ (state.call c).ifaces = state.ifaces ∧
      (state.call c).lsdb = state.lsdb ∧ (state.call c).lsdbCount = state.lsdbCount := by
  cases c with
  | enableIface iface cost => exact hc.elim
  | deadTimer env => exact ⟨rfl, rfl, rfl, rfl⟩
  | receive env iface pkt =>
    have htype : getU8 pkt.data 1 = ospfTypeHello := hc
    have hcall : state.call (.receive env iface pkt) = (ospfReceive env state iface pkt).1 := rfl
    rw [hcall]
    rcases ospfReceive_switch env state iface pkt with he | ⟨hno, -⟩ | ⟨-, he, -⟩
    · rw [he]
      exact ⟨rfl, rfl, rfl, rfl⟩
    · exact absurd htype hno
    · rw [he]
      rcases ospfReceiveHello_eq env state iface pkt.srcIp pkt.data with he | ⟨i, -, -, he⟩
      · rw [he]
        exact ⟨rfl, rfl, rfl, rfl⟩
      · rw [he]
        exact ⟨rfl, rfl, rfl, rfl⟩

variable [Fintype R]

/-- What the LSAs `as` of an LSU do at `r`, where it came in on `x`: the LSDB has the newest, and
    what was news goes to every neighbor but the one at `x`. -/
structure OspfLinks.Learns (L : OspfLinks t R) (r : R) (x : IfaceRef) (state state' : OspfState)
    (as : Set OspfLsa) (msgs : List (FloodMsg R)) : Prop where
  node : L.FloodNode r state'
  lsas : ospfLsas state' = Newest OspfLsa.key OspfLsa.rank (ospfLsas state ∪ as)
  sent : ∀ m ∈ msgs, m.src = r ∧ L.graph.Adj r m.dst ∧ lsuLsas m.pkt ⊆ as ∧ L.IsFlooded m.pkt
  passed : ∀ a ∈ as, Covered OspfLsa.key OspfLsa.rank (ospfLsas state) a ∨
    ∀ q, L.graph.Adj r q → L.iface r q ≠ x →
      ∃ m ∈ msgs, m.dst = q ∧ Covered OspfLsa.key OspfLsa.rank (lsuLsas m.pkt) a
  news : msgs ≠ [] → ∃ a ∈ as, ¬ Covered OspfLsa.key OspfLsa.rank (ospfLsas state) a

theorem OspfLinks.FloodNode.learns (h : L.FloodNode r state) {T : Set OspfLsa} (hfin : T.Finite)
    (hkeys : (OspfLsa.key '' T).ncard ≤ ospfLsdbSize)
    (hcontents : Distinguished OspfLsa.key OspfLsa.rank T) (hheld : ospfLsas state ⊆ T)
    {net : Net} {x : IfaceRef} {pkt : IpDatagram}
    (hlsu : OspfDelivery.IsLsu state ⟨ospfEnv t net, x, pkt⟩) (hT : lsuLsas pkt ⊆ T) :
    L.Learns r x state (ospfReceive (ospfEnv t net) state x pkt).1 (lsuLsas pkt)
      (L.sent r (ospfReceive (ospfEnv t net) state x pkt).2.2.sent) := by
  obtain ⟨lsas, hlsas⟩ := hlsu.lsas
  have has : lsuLsas pkt = {lsa | lsa ∈ lsas} := lsuLsas_eq hlsas
  have hmem : ∀ lsa ∈ lsas, lsa ∈ T := fun lsa hlsa => hT (by rw [has]; exact hlsa)
  rw [hlsu.header.receive_lsuOf hlsu.type hlsas, ospfUpdateLsdb_state, has]
  have hmerged := LsdbMerged.foldl hfin hkeys hcontents lsas _ (state, []) hheld hmem h.lsdb.merged
  have hstored := OspfStored.foldl hfin hkeys hcontents lsas _ [] (state, []) hheld hmem
    h.lsdb.merged .start
  rw [List.nil_append] at hstored
  obtain ⟨lsdb, n, hframe⟩ := foldl_ospfApplyLsa_frame (lsas.map OspfLsa.parsed) (state, [])
  have hsent : (ospfUpdateLsdb (ospfEnv t net) state x (lsas.map OspfLsa.parsed)).2.2.sent =
      (ospfFloodSlots (ospfEnv t net) ((lsas.map OspfLsa.parsed).foldl ospfApplyLsa (state, [])).1 x
        ((lsas.map OspfLsa.parsed).foldl ospfApplyLsa (state, [])).2).1 := rfl
  rw [hsent]
  obtain ⟨acc, hacc⟩ : ∃ acc, (lsas.map OspfLsa.parsed).foldl ospfApplyLsa (state, []) = acc :=
    ⟨_, rfl⟩
  rw [hacc] at hmerged hstored hframe ⊢
  have hnode : L.FloodNode r acc.1 :=
    h.congr ((congrArg OspfState.areaId hframe).trans rfl)
      ((congrArg OspfState.ifaces hframe).trans rfl) hmerged.ok
  have hsends : ∀ y ∈ ospfFloodIfaces acc.1 x, GroupSends t y := by
    intro y hy
    obtain ⟨-, i, hv, hi⟩ := mem_ospfFloodIfaces.mp hy
    exact hnode.sends i y hv hi
  have hlsa : ∀ (y : IfaceRef) (i : Fin ospfLsdbSize),
      lsuLsas (ospfDatagram (ospfEnv t net) y (ospfLsuBytes acc.1 (acc.1.lsdb i))) =
        {(acc.1.lsdb i).toLsa} := by
    intro y i
    rw [lsuLsas_eq (ospfLsuOf_ospfLsuBytes acc.1 (acc.1.lsdb i))]
    ext a
    exact List.mem_singleton
  refine ⟨hnode, hmerged.lsas, fun m hm => ?_, fun a ha => ?_, fun hne => ?_⟩
  · obtain ⟨hsrc, hadj, hpkt, -⟩ := OspfLinks.mem_sent.mp hm
    obtain ⟨i, hi, y, -, he⟩ := (mem_ospfFloodSlots hsends).mp hpkt
    refine ⟨hsrc, hadj, ?_, _, y, acc.1, acc.1.lsdb i, hnode.areaId, he.symm⟩
    rw [← he, hlsa]
    rintro a rfl
    exact (hstored.changed i hi).2
  · refine (hstored.stored a ha).imp_right ?_
    rintro ⟨i, hi, hcov⟩ q hadj hx
    have hiface : L.iface r q ∈ ospfFloodIfaces acc.1 x :=
      mem_ospfFloodIfaces.mpr ⟨hx, hnode.enabled q hadj⟩
    refine ⟨⟨r, q, ospfDatagram (ospfEnv t net) (L.iface r q)
      (ospfLsuBytes acc.1 (acc.1.lsdb i))⟩, OspfLinks.mem_sent.mpr ⟨rfl, hadj, ?_, rfl⟩, rfl, ?_⟩
    · exact (mem_ospfFloodSlots hsends).mpr ⟨i, hi, _, hiface, rfl⟩
    · rw [hlsa]
      exact hcov
  · obtain ⟨m, hm⟩ := List.exists_mem_of_ne_nil _ hne
    obtain ⟨-, -, hpkt, -⟩ := OspfLinks.mem_sent.mp hm
    obtain ⟨i, hi, -⟩ := (mem_ospfFloodSlots hsends).mp hpkt
    exact hstored.news (List.ne_nil_of_mem hi)

end

/-! ## The invariant of the area -/

/-- The area as a flood. -/
def FloodNet.flood (s : FloodNet R) : Flood R (FloodMsg R) OspfLsa where
  known r := ospfLsas (s.node r)
  flight := s.flight
  origin := s.origin

/-- All LSAs that there are. -/
def FloodNet.all (base : Set OspfLsa) (s : FloodNet R) : Set OspfLsa := base ∪ ⋃ r, s.origin r

/-- The invariant. -/
structure OspfLinks.FloodOk (L : OspfLinks t R) (base : Set OspfLsa) (s : FloodNet R) : Prop where
  node : ∀ r, L.FloodNode r (s.node r)
  flight : ∀ m ∈ s.flight, L.IsFlooded m.pkt
  finite : ∀ r, (s.origin r).Finite
  flood : Flood.Ok OspfLsa.key OspfLsa.rank L.graph FloodMsg.src FloodMsg.dst
    (fun m => lsuLsas m.pkt) base s.flood

/-- The routers hold the same LSAs, and nothing has happened yet. -/
structure OspfLinks.FloodStart (L : OspfLinks t R) (base : Set OspfLsa) (s : FloodNet R) : Prop where
  node : ∀ r, L.FloodNode r (s.node r)
  base : ∀ r, ospfLsas (s.node r) = base
  flight : s.flight = []
  origin : ∀ r, s.origin r = ∅

section
variable {L : OspfLinks t R} {base : Set OspfLsa} {s s' : FloodNet R}

theorem OspfLinks.FloodStart.ok (h : L.FloodStart base s) : L.FloodOk base s := by
  refine ⟨h.node, fun m hm => ?_, fun r => ?_, ?_⟩
  · rw [h.flight] at hm
    cases hm
  · rw [h.origin r]
    exact Set.finite_empty
  · have hflood : s.flood = ⟨fun _ => base, [], fun _ => ∅⟩ := by
      unfold FloodNet.flood
      rw [h.flight, funext h.base, funext h.origin]
    rw [hflood]
    exact Flood.ok_start

/-- An LSU that was flooded is one for every router of the area. -/
theorem OspfLinks.IsFlooded.isLsu {pkt : IpDatagram} (h : L.IsFlooded pkt) {r : R}
    {state : OspfState} (hstate : L.FloodNode r state) {net : Net} {x : IfaceRef}
    (hplen : (t.iface x).prefixLen ≤ 32) :
    OspfDelivery.IsLsu state ⟨ospfEnv t net, x, pkt⟩ := by
  obtain ⟨env, y, sender, lsa, harea, rfl⟩ := h
  obtain ⟨hok, htype⟩ := ospfHeaderOk_ospfLsuBytes env lsa y
    (hstate.areaId.trans harea.symm) (show (ospfEnv t net).prefixLen x ≤ 32 from hplen)
  exact ⟨hok, htype, _, ospfLsuOf_ospfLsuBytes sender lsa⟩

theorem FloodNet.within_subset_all (graph : SimpleGraph R) (r : R) :
    Flood.within graph base s.origin r ⊆ s.all base := by
  rintro a (ha | ⟨q, -, ha⟩)
  · exact .inl ha
  · exact .inr (Set.mem_iUnion.mpr ⟨q, ha⟩)

theorem FloodNet.all_mono (h : ∀ r, s.origin r ⊆ s'.origin r) : s.all base ⊆ s'.all base :=
  Set.union_subset_union_right _ (Set.iUnion_mono h)

variable [Fintype R]

theorem OspfLinks.FloodOk.all_finite (h : L.FloodOk base s) (hbase : base.Finite) :
    (s.all base).Finite :=
  hbase.union (Set.finite_iUnion h.finite)

variable [DecidableEq R]

/-- An LSU at `d`, from one of the routers or from outside. -/
theorem OspfLinks.FloodOk.receive (h : L.FloodOk base s) (hbase : base.Finite)
    {origin : R → Set OspfLsa}
    (hkeys : (OspfLsa.key '' (base ∪ ⋃ r, origin r)).ncard ≤ ospfLsdbSize)
    (hcontents : Distinguished OspfLsa.key OspfLsa.rank (base ∪ ⋃ r, origin r)) {d : R}
    {x : IfaceRef} {net : Net} {pkt : IpDatagram} {rest : List (FloodMsg R)}
    (hlsu : OspfDelivery.IsLsu (s.node d) ⟨ospfEnv t net, x, pkt⟩)
    (hkept : ∀ m ∈ s.flight, m ∈ rest ∨ m.dst = d ∧ m.pkt = pkt) (hrest : ∀ m ∈ rest, m ∈ s.flight)
    (hback : ∀ q, L.graph.Adj d q → L.iface d q = x →
      Covers OspfLsa.key OspfLsa.rank (ospfLsas (s.node q)) (lsuLsas pkt))
    (horigin : ∀ r, s.origin r ⊆ origin r) (hothers : ∀ r, r ≠ d → origin r = s.origin r)
    (hhere : origin d ⊆ s.origin d ∪ lsuLsas pkt)
    (has : lsuLsas pkt ⊆ Flood.within L.graph base origin d) :
    L.FloodOk base { s.receive L d x net pkt rest with origin := origin } := by
  have hin : ∀ r, Flood.within L.graph base origin r ⊆ base ∪ ⋃ r, origin r := by
    rintro r a (ha | ⟨q, -, ha⟩)
    · exact .inl ha
    · exact .inr (Set.mem_iUnion.mpr ⟨q, ha⟩)
  have hfinite : ∀ r, (origin r).Finite := by
    intro r
    by_cases hr : r = d
    · obtain ⟨lsas, hlsas⟩ := hlsu.lsas
      rw [lsuLsas_eq hlsas] at hhere
      exact hr ▸ ((h.finite d).union (List.finite_toSet lsas)).subset hhere
    · rw [hothers r hr]
      exact h.finite r
  have hfin : (base ∪ ⋃ r, origin r).Finite := hbase.union (Set.finite_iUnion hfinite)
  have hheld : ospfLsas (s.node d) ⊆ base ∪ ⋃ r, origin r :=
    ((h.flood.sound d).trans (Flood.within_mono horigin d)).trans (hin d)
  have hlearns := (h.node d).learns hfin hkeys hcontents hheld hlsu (has.trans (hin d))
  have hunion : (ospfLsas (s.node d) ∪ lsuLsas pkt).Finite :=
    hfin.subset (Set.union_subset hheld (has.trans (hin d)))
  refine ⟨fun r => ?_, fun m hm => ?_, hfinite, ?_⟩
  · show L.FloodNode r (Function.update s.node d _ r)
    by_cases hr : r = d
    · subst hr
      rw [Function.update_self]
      exact hlearns.node
    · rw [Function.update_of_ne hr]
      exact h.node r
  · rcases List.mem_append.mp hm with hm | hm
    · exact h.flight m (hrest m hm)
    · exact (hlearns.sent m hm).2.2.2
  · have hgone : ∀ m ∈ s.flight, m ∈ rest ++ L.sent d (ospfReceive (ospfEnv t net)
        (s.node d) x pkt).2.2.sent ∨ m.dst = d ∧ lsuLsas m.pkt ⊆ lsuLsas pkt := by
      intro m hm
      rcases hkept m hm with hm | ⟨hd, hpkt⟩
      · exact .inl (List.mem_append_left _ hm)
      · exact .inr ⟨hd, by rw [hpkt]⟩
    have hnew : ∀ m ∈ rest ++ L.sent d (ospfReceive (ospfEnv t net) (s.node d) x pkt).2.2.sent,
        m ∈ s.flight ∨ m.src = d ∧ L.graph.Adj d m.dst ∧ lsuLsas m.pkt ⊆ lsuLsas pkt := by
      intro m hm
      rcases List.mem_append.mp hm with hm | hm
      · exact .inl (hrest m hm)
      · obtain ⟨hsrc, hadj, hsub, -⟩ := hlearns.sent m hm
        exact .inr ⟨hsrc, hadj, hsub⟩
    have hpass : ∀ a ∈ lsuLsas pkt, Covered OspfLsa.key OspfLsa.rank (ospfLsas (s.node d)) a ∨
        ∀ q, L.graph.Adj d q → Covered OspfLsa.key OspfLsa.rank (ospfLsas (s.node q)) a ∨
          ∃ m ∈ rest ++ L.sent d (ospfReceive (ospfEnv t net) (s.node d) x pkt).2.2.sent,
            m.dst = q ∧ Covered OspfLsa.key OspfLsa.rank (lsuLsas m.pkt) a := by
      intro a ha
      refine (hlearns.passed a ha).imp_right fun hpassed q hadj => ?_
      by_cases hx : L.iface d q = x
      · exact .inl (hback q hadj hx a ha)
      · obtain ⟨m, hm, hq, hcov⟩ := hpassed q hadj hx
        exact .inr ⟨m, List.mem_append_right _ hm, hq, hcov⟩
    have hlearn := h.flood.learn (hlearns.lsas ▸ covers_newest hunion)
      (hlearns.lsas ▸ newest_subset) hgone hnew hpass horigin hothers hhere has
    have hknown : Function.update s.flood.known d
        (ospfLsas (ospfReceive (ospfEnv t net) (s.node d) x pkt).1) = fun r => ospfLsas
          (Function.update s.node d (ospfReceive (ospfEnv t net) (s.node d) x pkt).1 r) := by
      funext r
      by_cases hr : r = d
      · subst hr
        rw [Function.update_self, Function.update_self]
      · rw [Function.update_of_ne hr, Function.update_of_ne hr]
        rfl
    rw [hknown] at hlearn
    exact hlearn

omit [Fintype R] [DecidableEq R] in
/-- A message of the flood has nothing that its sender does not have, and comes in where the
    sender is. -/
theorem OspfLinks.FloodOk.back (h : L.FloodOk base s) (hptp : L.PointToPoint) {m : FloodMsg R}
    (hm : m ∈ s.flight) {q : R} (hadj : L.graph.Adj m.dst q)
    (hx : L.iface m.dst q = L.iface m.dst m.src) :
    Covers OspfLsa.key OspfLsa.rank (ospfLsas (s.node q)) (lsuLsas m.pkt) := by
  obtain ⟨hsent, hcov, -⟩ := h.flood.sent m hm
  obtain rfl := hptp.own hadj hsent.symm hx
  exact hcov

theorem OspfLinks.FloodOk.receives (h : L.FloodOk base s) (hptp : L.PointToPoint)
    (hbase : base.Finite) (hkeys : (OspfLsa.key '' s.all base).ncard ≤ ospfLsdbSize)
    (hcontents : Distinguished OspfLsa.key OspfLsa.rank (s.all base)) (hstep : L.Receives s s') :
    L.FloodOk base s' ∧ s'.origin = s.origin := by
  cases hstep with
  | receive net hm =>
    rename_i pre post m
    have hmem : m ∈ s.flight := by
      rw [hm]
      exact List.mem_append_right _ List.mem_cons_self
    obtain ⟨hadj, -, hwithin⟩ := h.flood.sent m hmem
    have hlsu : OspfDelivery.IsLsu (s.node m.dst)
        ⟨ospfEnv t net, L.iface m.dst m.src, m.pkt⟩ :=
      (h.flight m hmem).isLsu (h.node m.dst) (hptp.prefixLen hadj.symm)
    refine ⟨h.receive hbase hkeys hcontents hlsu (fun m' hm' => ?_) (fun m' hm' => ?_)
      (fun q hq hx => h.back hptp hmem hq hx) (fun _ => subset_refl _) (fun _ _ => rfl)
      Set.subset_union_left hwithin, rfl⟩
    · rw [hm, List.mem_append, List.mem_cons] at hm'
      rcases hm' with hm' | rfl | hm'
      · exact .inl (List.mem_append_left _ hm')
      · exact .inr ⟨rfl, rfl⟩
      · exact .inl (List.mem_append_right _ hm')
    · rw [hm]
      rcases List.mem_append.mp hm' with hm' | hm'
      · exact List.mem_append_left _ hm'
      · exact List.mem_append_right _ (List.mem_cons_of_mem _ hm')

theorem OspfLinks.FloodStep.origin (h : L.FloodStep s s') (r : R) : s.origin r ⊆ s'.origin r := by
  cases h with
  | receives h =>
    cases h with
    | receive net hm => exact subset_refl _
  | again hm => exact subset_refl _
  | call r hc => exact subset_refl _
  | comes d x net pkt hlsu hx =>
    show s.origin r ⊆ Function.update s.origin d _ r
    by_cases hr : r = d
    · subst hr
      rw [Function.update_self]
      exact Set.subset_union_left
    · rw [Function.update_of_ne hr]

/-- An LSU has finitely many LSAs. -/
theorem OspfLinks.FloodStep.finite (h : L.FloodStep s s') (hfin : ∀ r, (s.origin r).Finite) (r : R) :
    (s'.origin r).Finite := by
  cases h with
  | receives h =>
    cases h with
    | receive net hm => exact hfin r
  | again hm => exact hfin r
  | call r hc => exact hfin _
  | comes d x net pkt hlsu hx =>
    show (Function.update s.origin d _ r).Finite
    obtain ⟨lsas, hlsas⟩ := hlsu.lsas
    by_cases hr : r = d
    · subst hr
      rw [Function.update_self, lsuLsas_eq hlsas]
      exact (hfin r).union (List.finite_toSet lsas)
    · rw [Function.update_of_ne hr]
      exact hfin r

theorem OspfLinks.FloodOk.step (h : L.FloodOk base s) (hptp : L.PointToPoint) (hbase : base.Finite)
    (hkeys : (OspfLsa.key '' s'.all base).ncard ≤ ospfLsdbSize)
    (hcontents : Distinguished OspfLsa.key OspfLsa.rank (s'.all base)) (hstep : L.FloodStep s s') :
    L.FloodOk base s' := by
  have horigin := hstep.origin
  cases hstep with
  | receives hstep =>
    have hsame : s.all base = s'.all base := by
      cases hstep with
      | receive net hm => rfl
    rw [← hsame] at hkeys hcontents
    exact (h.receives hptp hbase hkeys hcontents hstep).1
  | again hm =>
    refine ⟨h.node, fun m' hm' => ?_, h.finite, ?_⟩
    · rcases List.mem_cons.mp hm' with rfl | hm'
      · exact h.flight _ hm
      · exact h.flight m' hm'
    · refine ⟨fun p q hpq a ha => ?_, fun m' hm' => ?_, h.flood.sound, h.flood.complete⟩
      · refine (h.flood.edge p q hpq a ha).imp_right ?_
        rintro ⟨m', hm', hq, hcov⟩
        exact ⟨m', List.mem_cons_of_mem _ hm', hq, hcov⟩
      · rcases List.mem_cons.mp hm' with rfl | hm'
        · exact h.flood.sent _ hm
        · exact h.flood.sent m' hm'
  | comes d x net pkt hlsu hx =>
    refine h.receive hbase hkeys hcontents hlsu (fun m hm => .inl hm) (fun m hm => hm)
      (fun q hq hqx => absurd hqx (hx q hq)) horigin (fun r hr => Function.update_of_ne hr _ _) ?_ ?_
    · show Function.update s.origin d _ d ⊆ _
      rw [Function.update_self]
    · intro a ha
      refine .inr ⟨d, SimpleGraph.Reachable.refl d, ?_⟩
      show a ∈ Function.update s.origin d _ d
      rw [Function.update_self]
      exact .inr ha
  | call r hc =>
    rename_i c
    obtain ⟨harea, hifaces, hlsdb, hcount⟩ := OspfState.call_lsdb (s.node r) hc
    have hlsas : (fun q => ospfLsas (Function.update s.node r ((s.node r).call c) q)) =
        fun q => ospfLsas (s.node q) := by
      funext q
      by_cases hq : q = r
      · subst hq
        rw [Function.update_self]
        unfold ospfLsas
        rw [hlsdb]
      · rw [Function.update_of_ne hq]
    refine ⟨fun q => ?_, h.flight, h.finite, ?_⟩
    · show L.FloodNode q (Function.update s.node r _ q)
      by_cases hq : q = r
      · subst hq
        rw [Function.update_self]
        exact (h.node q).congr harea hifaces ((h.node q).lsdb.congr hlsdb hcount)
      · rw [Function.update_of_ne hq]
        exact h.node q
    · have hflood := h.flood
      unfold FloodNet.flood at hflood ⊢
      dsimp only
      rw [hlsas]
      exact hflood

theorem OspfLinks.FloodOk.reach_finite {s₀ : FloodNet R} (h : L.FloodOk base s₀)
    (hreach : Relation.ReflTransGen L.FloodStep s₀ s) (r : R) : (s.origin r).Finite := by
  induction hreach generalizing r with
  | refl => exact h.finite r
  | tail _ hstep ih => exact hstep.finite ih r

/-- Every run, as long as the keys fit into the LSDBs and key and sequence number tell the LSAs
    apart. -/
theorem OspfLinks.FloodOk.reach {s₀ : FloodNet R} (h : L.FloodOk base s₀) (hptp : L.PointToPoint)
    (hbase : base.Finite) (hreach : Relation.ReflTransGen L.FloodStep s₀ s)
    (hkeys : (OspfLsa.key '' s.all base).ncard ≤ ospfLsdbSize)
    (hcontents : Distinguished OspfLsa.key OspfLsa.rank (s.all base)) : L.FloodOk base s := by
  have hfin : (s.all base).Finite := hbase.union (Set.finite_iUnion (h.reach_finite hreach))
  induction hreach with
  | refl => exact h
  | @tail s₁ s₂ _ hstep ih =>
    have hsub : s₁.all base ⊆ s₂.all base := FloodNet.all_mono hstep.origin
    refine (ih ((Set.ncard_le_ncard (Set.image_mono hsub) (hfin.image _)).trans hkeys)
      (hcontents.mono hsub) (hfin.subset hsub)).step hptp hbase hkeys hcontents hstep

/-! ## Results -/

omit [Fintype R] [DecidableEq R] in
/-- The links that SPF works on are in the LSAs. -/
theorem p2pLink_iff_mem {state : OspfState} {a b : UInt32} {w : ℕ} : P2pLink state a b w ↔
    ∃ lsa ∈ ospfLsas state, lsa.lsaType = ospfLsaTypeRouter ∧ lsa.advRouter = a ∧
      ∃ link ∈ lsa.links, link.type = ospfLinkP2p ∧ link.linkId = b ∧ link.metric.toNat = w := by
  constructor
  · rintro ⟨i, j, hlsa, hadv, hj, htype, hid, hw⟩
    have hrouter : (state.lsdb i).valid = true ∧ (state.lsdb i).lsaType = ospfLsaTypeRouter := by
      simpa [OspfLsaEntry.isRouterLsa] using hlsa
    exact ⟨_, ⟨i, hrouter.1, rfl⟩, hrouter.2, hadv, _,
      List.mem_ofFn.mpr ⟨⟨j, hj⟩, rfl⟩, htype, hid, hw⟩
  · rintro ⟨_, ⟨i, hv, rfl⟩, hrouter, hadv, link, hlink, htype, hid, hw⟩
    obtain ⟨j, rfl⟩ := List.mem_ofFn.mp hlink
    have hlsa : (state.lsdb i).isRouterLsa = true := by
      have hr : (state.lsdb i).lsaType = ospfLsaTypeRouter := hrouter
      simp [OspfLsaEntry.isRouterLsa, hv, hr]
    exact ⟨i, j, hlsa, hadv, j.isLt, htype, hid, hw⟩

/-- A reception is news to the router, or there is one LSU less under way. -/
theorem OspfLinks.FloodOk.fewer (h : L.FloodOk base s) (hptp : L.PointToPoint)
    (hbase : base.Finite) (hkeys : (OspfLsa.key '' s.all base).ncard ≤ ospfLsdbSize)
    (hcontents : Distinguished OspfLsa.key OspfLsa.rank (s.all base)) (hstep : L.Receives s s') :
    Prod.Lex (· < ·) (· < ·)
      (Flood.lag OspfLsa.key OspfLsa.rank (s.all base) s'.flood.known, s'.flight.length)
      (Flood.lag OspfLsa.key OspfLsa.rank (s.all base) s.flood.known, s.flight.length) := by
  have hfin := h.all_finite hbase
  cases hstep with
  | receive net hm =>
    rename_i pre post m
    have hmem : m ∈ s.flight := by
      rw [hm]
      exact List.mem_append_right _ List.mem_cons_self
    obtain ⟨hadj, -, hwithin⟩ := h.flood.sent m hmem
    have hT := hwithin.trans (FloodNet.within_subset_all L.graph m.dst)
    have hheld := (h.flood.sound m.dst).trans (FloodNet.within_subset_all L.graph m.dst)
    have hlsu : OspfDelivery.IsLsu (s.node m.dst)
        ⟨ospfEnv t net, L.iface m.dst m.src, m.pkt⟩ :=
      (h.flight m hmem).isLsu (h.node m.dst) (hptp.prefixLen hadj.symm)
    have hlearns := (h.node m.dst).learns hfin hkeys hcontents hheld hlsu hT
    have hgot : Covers OspfLsa.key OspfLsa.rank
        (ospfLsas (ospfReceive (ospfEnv t net) (s.node m.dst) (L.iface m.dst m.src) m.pkt).1)
        (ospfLsas (s.node m.dst) ∪ lsuLsas m.pkt) := by
      rw [hlearns.lsas]
      exact covers_newest (hfin.subset (Set.union_subset hheld hT))
    have hself : (s.receive L m.dst (L.iface m.dst m.src) net m.pkt (pre ++ post)).flood.known
        m.dst = ospfLsas (ospfReceive (ospfEnv t net) (s.node m.dst) (L.iface m.dst m.src)
          m.pkt).1 := congrArg ospfLsas (Function.update_self _ _ _)
    have hnewer : ∀ r, Covers OspfLsa.key OspfLsa.rank
        ((s.receive L m.dst (L.iface m.dst m.src) net m.pkt (pre ++ post)).flood.known r)
        (s.flood.known r) := by
      intro r
      by_cases hr : r = m.dst
      · subst hr
        rw [hself]
        exact hgot.trans (covers_of_subset Set.subset_union_left)
      · have hother : (s.receive L m.dst (L.iface m.dst m.src) net m.pkt (pre ++ post)).flood.known
            r = s.flood.known r := congrArg ospfLsas (Function.update_of_ne hr _ _)
        rw [hother]
        exact covers_of_subset (subset_refl _)
    obtain ⟨hle, hlt⟩ := Flood.lag_learn hfin hnewer
    by_cases hsent : L.sent m.dst (ospfReceive (ospfEnv t net) (s.node m.dst)
        (L.iface m.dst m.src) m.pkt).2.2.sent = []
    · have hlen : (s.receive L m.dst (L.iface m.dst m.src) net m.pkt (pre ++ post)).flight.length <
          s.flight.length := by
        show (pre ++ post ++ L.sent m.dst (ospfReceive (ospfEnv t net) (s.node m.dst)
          (L.iface m.dst m.src) m.pkt).2.2.sent).length < s.flight.length
        rw [hsent, hm]
        simp
      rcases Nat.lt_or_eq_of_le hle with hlt | heq
      · exact .left _ _ hlt
      · rw [heq]
        exact .right _ hlen
    · obtain ⟨a, ha, hnews⟩ := hlearns.news hsent
      refine .left _ _ (hlt ⟨m.dst, a, hT ha, hnews, ?_⟩)
      rw [hself]
      exact hgot a (.inr ha)

omit [Fintype R] [DecidableEq R] in
theorem prodLex_wellFounded : WellFounded (Prod.Lex (· < ·) (· < ·) : ℕ × ℕ → ℕ × ℕ → Prop) :=
  wellFounded_lt.prod_lex wellFounded_lt

/-- The receptions that are left lead to a state with nothing under way. -/
theorem OspfLinks.FloodOk.exists_quiet (h : L.FloodOk base s) (hptp : L.PointToPoint)
    (hbase : base.Finite) (hkeys : (OspfLsa.key '' s.all base).ncard ≤ ospfLsdbSize)
    (hcontents : Distinguished OspfLsa.key OspfLsa.rank (s.all base)) :
    ∃ s', Relation.ReflTransGen L.Receives s s' ∧ s'.flight = [] ∧ s'.origin = s.origin := by
  obtain ⟨T, hT⟩ : ∃ T, s.all base = T := ⟨_, rfl⟩
  obtain ⟨left, hleft⟩ : ∃ left, (Flood.lag OspfLsa.key OspfLsa.rank T s.flood.known,
      s.flight.length) = left := ⟨_, rfl⟩
  induction left using prodLex_wellFounded.induction generalizing s with
  | h left ih =>
    cases hflight : s.flight with
    | nil => exact ⟨s, .refl, hflight, rfl⟩
    | cons m post =>
      have hfirst : s.flight = [] ++ m :: post := hflight
      have hstep : L.Receives s _ := .receive s netInit hfirst
      obtain ⟨hok, horigin⟩ := h.receives hptp hbase hkeys hcontents hstep
      have hfewer := h.fewer hptp hbase hkeys hcontents hstep
      rw [hT] at hkeys hcontents hfewer
      rw [hleft] at hfewer
      obtain ⟨s', hreach, hquiet, horigin'⟩ := ih _ hfewer hok (hT ▸ hkeys) (hT ▸ hcontents) hT rfl
      exact ⟨s', .head hstep hreach, hquiet, horigin'.trans horigin⟩

/-- When nothing is under way, every router has the newest of all LSAs that came in anywhere in
    its part of the graph, and two routers of one part compute their routes from the same links.
    The routers had the same LSAs at first; there are at most 256 keys, and no two LSAs with the
    same key and sequence number. -/
theorem ospfFlood_agree {s₀ : FloodNet R} (hptp : L.PointToPoint) (hstart : L.FloodStart base s₀)
    (hreach : Relation.ReflTransGen L.FloodStep s₀ s)
    (hkeys : (OspfLsa.key '' s.all base).ncard ≤ ospfLsdbSize)
    (hcontents : Distinguished OspfLsa.key OspfLsa.rank (s.all base)) (hquiet : s.flight = []) :
    (∀ r, ospfLsas (s.node r) = Newest OspfLsa.key OspfLsa.rank
        (base ∪ {lsa | ∃ q, L.graph.Reachable r q ∧ lsa ∈ s.origin q})) ∧
      ∀ p q, L.graph.Reachable p q → P2pLink (s.node p) = P2pLink (s.node q) := by
  have hnewest : ∀ r, ospfLsas (s.node r) = Newest OspfLsa.key OspfLsa.rank
      (base ∪ {lsa | ∃ q, L.graph.Reachable r q ∧ lsa ∈ s.origin q}) := by
    intro r
    have hbase : base.Finite := by
      rw [← hstart.base r]
      exact ospfLsas_finite _
    have hok := hstart.ok.reach hptp hbase hreach hkeys hcontents
    refine hok.flood.quiet hquiet r (hcontents.mono (FloodNet.within_subset_all L.graph r)) ?_
    rintro _ ⟨i, hi, rfl⟩ _ ⟨j, hj, rfl⟩ hkey
    rw [(hok.node r).lsdb.keys i j hi hj hkey]
  refine ⟨hnewest, fun p q hpq => ?_⟩
  have hsame : {lsa | ∃ x, L.graph.Reachable p x ∧ lsa ∈ s.origin x} =
      {lsa | ∃ x, L.graph.Reachable q x ∧ lsa ∈ s.origin x} := by
    ext lsa
    refine exists_congr fun x => and_congr_left fun _ => ?_
    exact ⟨hpq.symm.trans, hpq.trans⟩
  funext a b w
  rw [eq_iff_iff, p2pLink_iff_mem, p2pLink_iff_mem, hnewest p, hnewest q, hsame]

/-- The receptions come to an end: whatever is under way, and however the graph looks, there is no
    endless run of them, and the state that they lead to has nothing under way. -/
theorem ospfFlood_ends {s₀ : FloodNet R} (hptp : L.PointToPoint) (hstart : L.FloodStart base s₀)
    (hbase : base.Finite) (hreach : Relation.ReflTransGen L.FloodStep s₀ s)
    (hkeys : (OspfLsa.key '' s.all base).ncard ≤ ospfLsdbSize)
    (hcontents : Distinguished OspfLsa.key OspfLsa.rank (s.all base)) :
    (¬ ∃ f : ℕ → FloodNet R, f 0 = s ∧ ∀ n, L.Receives (f n) (f (n + 1))) ∧
      ∃ s', Relation.ReflTransGen L.Receives s s' ∧ s'.flight = [] ∧ s'.origin = s.origin := by
  have hstart' := hstart.ok.reach hptp hbase hreach hkeys hcontents
  refine ⟨?_, hstart'.exists_quiet hptp hbase hkeys hcontents⟩
  rintro ⟨f, rfl, hf⟩
  have hok : ∀ n, L.FloodOk base (f n) ∧ (f n).origin = (f 0).origin := by
    intro n
    induction n with
    | zero => exact ⟨hstart', rfl⟩
    | succ n ih =>
      have hall : (f n).all base = (f 0).all base := by
        unfold FloodNet.all
        rw [ih.2]
      rw [← hall] at hkeys hcontents
      obtain ⟨hok, horigin⟩ := ih.1.receives hptp hbase hkeys hcontents (hf n)
      exact ⟨hok, horigin.trans ih.2⟩
  have hdown : ∀ n, Prod.Lex (· < ·) (· < ·)
      (Flood.lag OspfLsa.key OspfLsa.rank ((f 0).all base) (f (n + 1)).flood.known,
        (f (n + 1)).flight.length)
      (Flood.lag OspfLsa.key OspfLsa.rank ((f 0).all base) (f n).flood.known,
        (f n).flight.length) := by
    intro n
    have hall : (f n).all base = (f 0).all base := by
      unfold FloodNet.all
      rw [(hok n).2]
    rw [← hall] at hkeys hcontents ⊢
    exact (hok n).1.fewer hptp hbase hkeys hcontents (hf n)
  exact (wellFounded_iff_isEmpty_descending_chain.mp prodLex_wellFounded).false
    ⟨fun n => (Flood.lag OspfLsa.key OspfLsa.rank ((f 0).all base) (f n).flood.known,
      (f n).flight.length), hdown⟩

end

/-! ## An area of two routers -/

/-- OSPF is enabled on the link. -/
def exampleFloodStart : FloodNet Bool where
  node r := (ospfEnableIface (exampleOspfLinks.start r) (exampleOspfLinks.iface r (!r)) 10).1
  flight := []
  origin _ := ∅

theorem pointToPoint_exampleOspfLinks : exampleOspfLinks.PointToPoint where
  prefixLen {r _} _ := (by decide : (24 : UInt8) ≤ 32)
  own {r q q'} hq hq' _ := by
    have hq : r ≠ q := hq
    have hq' : r ≠ q' := hq'
    rw [(Bool.eq_not_of_ne hq.symm), (Bool.eq_not_of_ne hq'.symm)]

theorem floodStart_exampleFlood : exampleOspfLinks.FloodStart ∅ exampleFloodStart where
  node r := by
    have hslot : ∀ (r : Bool) (i : Fin ospfMaxIfaces), ((exampleFloodStart.node r).ifaces i).valid →
        ((exampleFloodStart.node r).ifaces i).iface = some (exampleOspfLinks.iface r (!r)) := by
      decide +kernel
    refine ⟨?_, fun q hq => ?_, fun i x hv hi => ?_, ?_⟩
    · cases r with
      | false => rfl
      | true => rfl
    · have hfirst : ∀ r : Bool, ((exampleFloodStart.node r).ifaces 0).valid = true := by
        decide +kernel
      exact ⟨0, hfirst r, hslot r 0 (hfirst r)⟩
    · rw [hslot r i hv] at hi
      exact Option.some.inj hi ▸ groupSends_exampleOspfLinks r
    · obtain ⟨ifaces, n, he⟩ := ospfEnableIface_frame (exampleOspfLinks.start r)
        (exampleOspfLinks.iface r (!r)) 10
      show LsdbOk (ospfEnableIface _ _ _).1
      rw [he]
      exact (lsdbOk_ospfInit (exampleOspfLinks.id r)).congr rfl rfl
  base r := by
    obtain ⟨ifaces, n, he⟩ := ospfEnableIface_frame (exampleOspfLinks.start r)
      (exampleOspfLinks.iface r (!r)) 10
    show ospfLsas (ospfEnableIface _ _ _).1 = ∅
    rw [he]
    refine Set.eq_empty_of_forall_notMem ?_
    rintro _ ⟨i, hi, -⟩
    cases hi
  flight := rfl
  origin _ := rfl

/-- An LSU has come in at the first router from outside. -/
noncomputable def exampleFloodCome : FloodNet Bool :=
  { exampleFloodStart.receive exampleOspfLinks false 9 netInit lsuExample [] with
      origin := Function.update (fun _ => ∅) false (∅ ∪ lsuLsas lsuExample) }

theorem lsuLsas_lsuExample : lsuLsas lsuExample = {lsaExample} := by
  rw [lsuLsas_eq lsuExample_lsuOf]
  ext lsa
  exact List.mem_singleton

theorem exampleFloodCome_reach :
    Relation.ReflTransGen exampleOspfLinks.FloodStep exampleFloodStart exampleFloodCome := by
  refine .single (.comes exampleFloodStart false 9 netInit lsuExample ?_ fun q _ => ?_)
  · obtain ⟨hok, htype⟩ := ospfHeaderOk_ospfLsuBytes {} lsaExample.parsed 0
      (((floodStart_exampleFlood.node false).areaId.trans rfl : _ = (ospfInit 1).areaId))
      (by decide : (ospfEnv exampleOspfRouters netInit).prefixLen 9 ≤ 32)
    exact ⟨hok, htype, _, lsuExample_lsuOf⟩
  · show (0 : ℕ) ≠ 9
    decide

theorem exampleFloodCome_all : exampleFloodCome.all ∅ = {lsaExample} := by
  unfold FloodNet.all exampleFloodCome
  ext lsa
  simp [Function.update_apply, lsuLsas_lsuExample]

theorem exampleFloodCome_keys :
    (OspfLsa.key '' exampleFloodCome.all ∅).ncard ≤ ospfLsdbSize := by
  rw [exampleFloodCome_all, Set.image_singleton, Set.ncard_singleton]
  decide

theorem exampleFloodCome_contents :
    Distinguished OspfLsa.key OspfLsa.rank (exampleFloodCome.all ∅) := by
  rw [exampleFloodCome_all]
  rintro a rfl b rfl - -
  rfl

theorem ospfFlood_ends_exampleFlood :
    (¬ ∃ f : ℕ → FloodNet Bool, f 0 = exampleFloodCome ∧
      ∀ n, exampleOspfLinks.Receives (f n) (f (n + 1))) ∧
      ∃ s', Relation.ReflTransGen exampleOspfLinks.Receives exampleFloodCome s' ∧ s'.flight = [] ∧
        s'.origin = exampleFloodCome.origin :=
  ospfFlood_ends pointToPoint_exampleOspfLinks floodStart_exampleFlood Set.finite_empty
    exampleFloodCome_reach exampleFloodCome_keys exampleFloodCome_contents

/-- The LSA gets to the other router. -/
theorem ospfFlood_agree_exampleFlood :
    ∃ s, Relation.ReflTransGen exampleOspfLinks.FloodStep exampleFloodStart s ∧
      ospfLsas (s.node true) = {lsaExample} ∧
      P2pLink (s.node false) = P2pLink (s.node true) := by
  have hcome := floodStart_exampleFlood.ok.reach pointToPoint_exampleOspfLinks Set.finite_empty
    exampleFloodCome_reach exampleFloodCome_keys exampleFloodCome_contents
  obtain ⟨s, hrest, hquiet, horigin⟩ := hcome.exists_quiet pointToPoint_exampleOspfLinks
    Set.finite_empty exampleFloodCome_keys exampleFloodCome_contents
  have hreach : Relation.ReflTransGen exampleOspfLinks.FloodStep exampleFloodStart s :=
    exampleFloodCome_reach.trans (hrest.lift id fun _ _ h => .receives h)
  have hall : s.all ∅ = exampleFloodCome.all ∅ := by
    unfold FloodNet.all
    rw [horigin]
  have hadj : exampleOspfLinks.graph.Adj true false := (Bool.not_ne_self true).symm
  have hkeys : (OspfLsa.key '' s.all ∅).ncard ≤ ospfLsdbSize := by
    rw [hall]
    exact exampleFloodCome_keys
  have hcontents : Distinguished OspfLsa.key OspfLsa.rank (s.all ∅) := by
    rw [hall]
    exact exampleFloodCome_contents
  obtain ⟨hnewest, hsame⟩ := ospfFlood_agree pointToPoint_exampleOspfLinks floodStart_exampleFlood
    hreach hkeys hcontents hquiet
  refine ⟨s, hreach, ?_, hsame false true hadj.symm.reachable⟩
  have hcomes : (∅ ∪ {lsa | ∃ q, exampleOspfLinks.graph.Reachable true q ∧ lsa ∈ s.origin q}) =
      {lsaExample} := by
    rw [horigin]
    ext lsa
    simp [exampleFloodCome, lsuLsas_lsuExample, hadj.reachable]
  rw [hnewest true, hcomes]
  ext lsa
  constructor
  · exact fun h => h.1
  · rintro rfl
    exact ⟨rfl, fun b hb _ => by rw [Set.mem_singleton_iff.mp hb]⟩

end FrameRunner
