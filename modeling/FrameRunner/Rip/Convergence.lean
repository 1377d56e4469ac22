import FrameRunner.Ospf.Flood
import FrameRunner.Rip.Walks

/-!
# RIP reaches everybody

Where the links form no cycle and updates keep being sent and do arrive, sooner or later each
router within 15 hops has an entry for a network that one of them is told of, and from then on it
has it for good, with the distance as its metric.

* `ripSendUpdate_carries`: an update carries every entry that is sent on the interface.
* `RipState.Alive.receiveEntry`: in a forest no update makes the network unreachable.
* `ripForest_learns`: the result.
-/

namespace FrameRunner

open FrameRunner.Lib

/-! ## What an update carries -/

/-- An event that was scheduled carries the entry. -/
def RipCarried (t : Topology) (outIface : IfaceRef) (net net' : Net) (entry : RipRouteInfo) : Prop :=
  ∃ e entries src dst, Made net net' (.schedule e) ∧ entry ∈ entries ∧
    entries.length ≤ ripMaxRoutes ∧ ipFindSourceIface t (t.iface outIface).ipAddr = some src ∧
    LinksTo t src dst ∧
    OnWire src dst (ripFrame t src (t.iface outIface).ipAddr (ripUpdate entries)) e

/-- The loop of `rip_send_update` after `k` rounds: the entries so far are in the buffer or sent. -/
structure RipCarries (t : Topology) (net : Net) (state : RipState) (outIface : IfaceRef) (k : ℕ)
    (acc : Net × List UInt8 × Bool) : Prop where
  sends : Sends NetCall.IsOutput net acc.1
  ok : acc.2.2 = false
  buffer : ∃ entries : List RipRouteInfo, acc.2.1 = entries.flatMap ripEntry ∧
    entries.length < ripMaxRoutes ∧
    ∀ i : Fin ripDbSize, i.val < k → (state.db i).sentOn outIface = true →
      state.db i ∈ entries ∨ RipCarried t outIface net acc.1 (state.db i)

section
variable {t : Topology} {net : Net} {state : RipState} {outIface : IfaceRef}

theorem ripSendPayload_carries (hsends : GroupSends t outIface) (net : Net)
    {entries : List RipRouteInfo} (hmax : entries.length ≤ ripMaxRoutes) :
    (ripSendPayload t net outIface (entries.flatMap ripEntry)).2 = 0 ∧
      ∀ entry ∈ entries, RipCarried t outIface net
        (ripSendPayload t net outIface (entries.flatMap ripEntry)).1 entry := by
  have hmac : ipMulticastToMac ripMulticast = some ripMulticastMac := by decide
  have hlen := length_ripUpdate entries
  have hshort : ¬ (ripUpdate entries).length > 65535 - udpHdrLen := by
    unfold ripMaxRoutes at hmax
    rw [hlen]
    unfold ripHdrLen ripEntryLen udpHdrLen
    omega
  have hok : (ripSendPayload t net outIface (entries.flatMap ripEntry)).2 ≠ -1 := by
    have hgroup : 0 ≤ (ipOutput t net.alloc (t.iface outIface).ipAddr ripMulticast ipprotoUdp
        (packetFill (t.memory net.allocs)
          (udpDatagram ripPort ripPort (ripUpdate entries)))).2.1 :=
      (ipOutput_group_iff t net.alloc (show ipIsMulticast ripMulticast = true by decide)
        (data_packetFill _ _)).mpr hsends
    show (udpSend t net (t.iface outIface).ipAddr ripMulticast ripPort ripPort
      (ripUpdate entries)).2 ≠ -1
    unfold udpSend
    rw [if_neg (by decide), if_neg hshort]
    dsimp only
    generalize ipOutput t net.alloc (t.iface outIface).ipAddr ripMulticast ipprotoUdp
      (packetFill (t.memory net.allocs) (udpDatagram ripPort ripPort (ripUpdate entries))) = r
      at hgroup
    obtain ⟨net', res, freed⟩ := r
    dsimp only at hgroup ⊢
    intro h
    split at h
    · omega
    · cases h
  rcases udpSend_multicast_cases t net (t.iface outIface).ipAddr ripPort ripPort
      (ripUpdate entries) hmac with ⟨h, -⟩ | ⟨h, src, dst, e, hfind, hlinks, hwire, hmade⟩
  · exact absurd h hok
  · exact ⟨h, fun entry hentry => ⟨e, entries, src, dst, (hmade e).mpr rfl, hentry, hmax, hfind,
      hlinks, hwire⟩⟩

theorem RipCarried.later {net' net'' : Net} {entry : RipRouteInfo}
    (h : RipCarried t outIface net net' entry) (hsends : Sends NetCall.IsOutput net net')
    (hmore : Sends NetCall.IsOutput net' net'') : RipCarried t outIface net net'' entry := by
  obtain ⟨e, entries, src, dst, hmade, hrest⟩ := h
  exact ⟨e, entries, src, dst, (hsends.made_trans hmore _).mpr (.inl hmade), hrest⟩

theorem RipCarries.step (hsends : GroupSends t outIface) {i : Fin ripDbSize}
    {acc : Net × List UInt8 × Bool} (I : RipCarries t net state outIface i acc) :
    RipCarries t net state outIface (i + 1) (ripSendEntry t state outIface acc i) := by
  obtain ⟨entries, hbuffer, hlt, hfound⟩ := I.buffer
  rcases ripSendEntry_cases t state outIface acc i with ⟨hskip, he⟩ | ⟨-, -, hentry⟩
  · -- the entry stays here
    rw [he]
    refine ⟨I.sends, I.ok, entries, hbuffer, hlt, fun j hj hsent => ?_⟩
    by_cases hji : j = i
    · subst hji
      rcases hskip with hfailed | hstays
      · rw [I.ok] at hfailed
        cases hfailed
      · rw [hsent] at hstays
        cases hstays
    · exact hfound j (Slots.lt_of_lt_succ_of_ne hj hji) hsent
  have hnew : acc.2.1 ++ ripEntry (state.db i) = (entries ++ [state.db i]).flatMap ripEntry := by
    rw [List.flatMap_append, hbuffer, List.flatMap_singleton]
  have hmax : (entries ++ [state.db i]).length ≤ ripMaxRoutes := by
    rw [List.length_append]
    exact hlt
  have hall : ∀ j : Fin ripDbSize, j.val < i + 1 → (state.db j).sentOn outIface = true →
      state.db j ∈ entries ++ [state.db i] ∨ RipCarried t outIface net acc.1 (state.db j) := by
    intro j hj hsent
    by_cases hji : j = i
    · subst hji
      exact .inl (List.mem_append_right _ (List.mem_singleton_self _))
    · exact (hfound j (Slots.lt_of_lt_succ_of_ne hj hji) hsent).imp (List.mem_append_left _) id
  rw [hnew] at hentry
  rcases hentry with ⟨-, he⟩ | ⟨hfull, he⟩
  · -- the buffer is full and goes out
    obtain ⟨hres, hcarried⟩ := ripSendPayload_carries hsends acc.1 hmax
    have hpayload := ripSendPayload_sends t acc.1 outIface
      ((entries ++ [state.db i]).flatMap ripEntry)
    rw [he]
    refine ⟨I.sends.trans hpayload, ?_, [], rfl, by decide, fun j hj hsent => .inr ?_⟩
    · rw [hres]
      rfl
    · rcases hall j hj hsent with hmem | hcarried'
      · obtain ⟨e, es, src, dst, hmade, hrest⟩ := hcarried _ hmem
        exact ⟨e, es, src, dst, (I.sends.made_trans hpayload _).mpr (.inr hmade), hrest⟩
      · exact hcarried'.later I.sends hpayload
  · rw [he]
    refine ⟨I.sends, rfl, entries ++ [state.db i], rfl, lt_of_le_of_ne hmax fun hlen => ?_, hall⟩
    rw [Records.length_flatMap length_ripEntry, hlen] at hfull
    exact hfull rfl

end

/-- An update carries every entry that is sent on the interface. -/
theorem ripSendUpdate_carries {t : Topology} {outIface : IfaceRef} (hsends : GroupSends t outIface)
    (net : Net) (state : RipState) {i : Fin ripDbSize}
    (hi : (state.db i).sentOn outIface = true) :
    RipCarried t outIface net (ripSendUpdate t net state outIface).1 (state.db i) := by
  have I : RipCarries t net state outIface ripDbSize
      (Slots.forEach ripDbSize (ripSendEntry t state outIface) (net, [], false)) :=
    Slots.forEach_induction (RipCarries t net state outIface)
      ⟨Sends.refl _ net, rfl, [], rfl, by decide, fun j hj => absurd hj (Nat.not_lt_zero _)⟩
      fun _ _ I => I.step hsends
  unfold ripSendUpdate
  generalize Slots.forEach ripDbSize (ripSendEntry t state outIface) (net, [], false) = acc at I
  obtain ⟨net', buffer, failed⟩ := acc
  obtain rfl : failed = false := I.ok
  obtain ⟨entries, hloop, hlt, hfound⟩ := I.buffer
  have hbuffer : buffer = entries.flatMap ripEntry := hloop
  have hsent := hfound i i.isLt hi
  dsimp only
  rw [if_neg Bool.false_ne_true]
  split
  · obtain ⟨-, hcarried⟩ := ripSendPayload_carries hsends net' hlt.le
    have hpayload := ripSendPayload_sends t net' outIface buffer
    rw [hbuffer] at hpayload ⊢
    rcases hsent with hmem | hcarried'
    · obtain ⟨e, es, src, dst, hmade, hrest⟩ := hcarried _ hmem
      exact ⟨e, es, src, dst, (I.sends.made_trans hpayload _).mpr (.inr hmade), hrest⟩
    · exact hcarried'.later I.sends hpayload
  · rename_i hempty
    refine hsent.resolve_left fun hmem => hempty fun hnil => ?_
    rw [hbuffer] at hnil
    have hlen := Records.length_flatMap length_ripEntry entries
    have hpos := List.length_pos_of_mem hmem
    rw [hnil] at hlen
    unfold ripEntryLen at hlen
    rw [List.length_nil] at hlen
    omega

/-! ## An entry for a network -/

/-- The database has an entry for the network. -/
def RipState.Has (state : RipState) (k : UInt32 × UInt8) : Prop :=
  ∃ i, (state.db i).valid = true ∧ ripKeyed.key (state.db i) = k

/-- No entry for the network says that it is out of reach. -/
def RipState.Alive (state : RipState) (k : UInt32 × UInt8) : Prop :=
  ∀ i, (state.db i).valid = true → ripKeyed.key (state.db i) = k →
    (state.db i).metric < ripInfinity

section
variable {s : RipRouter} {state : RipState} {k : UInt32 × UInt8} {e : RipEntry} {iface : IfaceRef}
  {srcIp : UInt32} {now : UInt64}

theorem RipState.Has.receiveEntry (h : s.rip.Has k) (hok : RipOk uint64Max s.rip) :
    (ripReceiveEntry iface srcIp now s e).rip.Has k := by
  obtain ⟨j, hj, hkey⟩ := h
  refine ⟨j, ripReceiveEntry_valid hj, ?_⟩
  rcases ripReceiveEntry_cases iface srcIp now s e with he | ⟨i, -, he⟩ | ⟨k', i, hi, he⟩
  · rw [he]
    exact hkey
  · rw [he]
    by_cases hji : j = i
    · subst hji
      simpa [RipRouter.retire, ripKeyed] using hkey
    · simpa [RipRouter.retire, Function.update_of_ne hji] using hkey
  · rw [he]
    by_cases hji : j = i
    · subst hji
      have hsame := (Keyed.slotFor_eq_some hok.distinct hi.slot).2 hj
      simpa [RipRouter.install, RipEntry.route, ripKeyed] using hsame.symm.trans hkey
    · simpa [RipRouter.install, Function.update_of_ne hji] using hkey

/-- An entry of an update is taken if there is a slot for it. -/
theorem RipState.has_of_names (hn : e.Names k) (hmetric : ripCandidateMetric e.metric < ripInfinity)
    (hslot : ∃ i, ripKeyed.slotFor s.rip.db k = some i) :
    (ripReceiveEntry iface srcIp now s e).rip.Has k := by
  obtain ⟨i, hslot⟩ := hslot
  have hne : ripCandidateMetric e.metric ≠ ripInfinity := fun h => by
    rw [h] at hmetric
    exact absurd hmetric (by decide)
  rw [ripReceiveEntry_of_installs ⟨hn, hne, hslot⟩]
  refine ⟨i, ?_, ?_⟩ <;> simp [RipRouter.install, RipEntry.route, ripKeyed]

/-- An update that does not say of an entry's network that it is out of reach. -/
theorem RipState.Alive.receiveEntry (h : s.rip.Alive k)
    (he : e.Names k → s.rip.Has k → ripCandidateMetric e.metric < ripInfinity) :
    (ripReceiveEntry iface srcIp now s e).rip.Alive k := by
  intro j hj hkey
  rcases ripReceiveEntry_told iface srcIp now s e j with hsame | ⟨hn, -, hmetric⟩
  · rw [hsame] at hj hkey ⊢
    exact h j hj hkey
  · rw [hkey] at hn
    rw [hmetric]
    by_contra hinf
    -- nothing is installed with such a metric, so the slot had its key before
    have hhad : s.rip.Has k := by
      rcases ripReceiveEntry_cases iface srcIp now s e with hr | ⟨i, hi, hr⟩ | ⟨k', i, hi, hr⟩
      · rw [hr] at hj hkey
        exact ⟨j, hj, hkey⟩
      · rw [hr] at hj hkey
        by_cases hji : j = i
        · subst hji
          exact ⟨j, hi, by simpa [RipRouter.retire, ripKeyed] using hkey⟩
        · simp only [RipRouter.retire, Function.update_of_ne hji] at hj hkey
          exact ⟨j, hj, hkey⟩
      · have hrange := (ripCandidateMetric_range hi.metric).2
        have hlt : (ripCandidateMetric e.metric).toNat < 16 := by omega
        exact absurd hlt hinf
    exact hinf (he hn hhad)

theorem ripTimeoutEntry_has {i : Fin ripDbSize} (h : s.rip.Has k) :
    (ripTimeoutEntry now s i).rip.Has k := by
  obtain ⟨j, hj, hkey⟩ := h
  refine ⟨j, ripTimeoutEntry_valid hj, ?_⟩
  rcases ripTimeoutEntry_cases now s i with ⟨he, -⟩ | ⟨-, -, he⟩
  · rw [he]
    exact hkey
  · rw [he]
    by_cases hji : j = i
    · subst hji
      simpa [RipRouter.retire, ripKeyed] using hkey
    · simpa [RipRouter.retire, Function.update_of_ne hji] using hkey

theorem ripTimeoutHandler_has (h : s.rip.Has k) : (ripTimeoutHandler s now).1.rip.Has k :=
  Slots.forEach_invariant (fun s' : RipRouter => s'.rip.Has k) h fun _ _ hs => ripTimeoutEntry_has hs

/-- A scan that finds no entry for the network too old leaves them as they are. -/
theorem RipState.Alive.timeout (h : s.rip.Alive k)
    (hfresh : ∀ j, (s.rip.db j).valid = true → ripKeyed.key (s.rip.db j) = k →
      now - (s.rip.db j).lastUpdate ≤ ripTimeoutUs) :
    (ripTimeoutHandler s now).1.rip.Alive k := by
  have hkept : ∀ j, ((ripTimeoutHandler s now).1.rip.db j).valid = true →
      ripKeyed.key ((ripTimeoutHandler s now).1.rip.db j) = k →
      (ripTimeoutHandler s now).1.rip.db j = s.rip.db j := by
    refine Slots.forEach_invariant (f := ripTimeoutEntry now) (x := s)
      (fun s' : RipRouter => ∀ j, (s'.rip.db j).valid = true → ripKeyed.key (s'.rip.db j) = k →
        s'.rip.db j = s.rip.db j) (fun _ _ _ => rfl) fun i s' hs' j hj hkey => ?_
    rcases ripTimeoutEntry_cases now s' i with ⟨he, -⟩ | ⟨hv, hactive, he⟩
    · rw [he] at hj hkey ⊢
      exact hs' j hj hkey
    · by_cases hji : j = i
      · subst hji
        have hold : ripKeyed.key (s'.rip.db j) = k := by
          rw [he] at hkey
          simpa [RipRouter.retire, ripKeyed] using hkey
        have hsame := hs' j hv hold
        have hage := hfresh j (hsame ▸ hv) (hsame ▸ hold)
        rw [← hsame] at hage
        have hidle : ripTimeoutEntry now s' j = s' := by
          unfold ripTimeoutEntry
          simp [hv, hactive, hage]
        rw [hidle]
        exact hsame
      · rw [he] at hj hkey ⊢
        simp only [RipRouter.retire, Function.update_of_ne hji] at hj hkey ⊢
        exact hs' j hj hkey
  intro j hj hkey
  have hsame := hkept j hj hkey
  rw [hsame] at hj hkey ⊢
  exact h j hj hkey

/-- The garbage collection takes only what is out of reach. -/
theorem RipState.Has.gc (h : s.rip.Has k) (hok : RipOk uint64Max s.rip) (halive : s.rip.Alive k) :
    (ripGcHandler s now).1.rip.Has k := by
  obtain ⟨j, hj, hkey⟩ := h
  have hlt : (s.rip.db j).metric < ripInfinity := halive j hj hkey
  have hsame : (ripGcHandler s now).1.rip.db j = s.rip.db j := by
    refine Slots.forEach_invariant (f := ripGcEntry now) (x := s.rip)
      (fun state' : RipState => state'.db j = s.rip.db j) rfl fun i state' hs' => ?_
    rcases ripGcEntry_cases now state' i with he | ⟨-, hgc, -, he⟩
    · rw [he]
      exact hs'
    · rw [he]
      by_cases hji : j = i
      · subst hji
        rw [hs'] at hgc
        rcases (hok.entries j hj).phase with ⟨hactive, -⟩ | ⟨-, hinf⟩
        · rw [hactive] at hgc
          exact absurd hgc (by decide)
        · rw [hinf] at hlt
          exact absurd hlt (by decide)
      · exact (Function.update_of_ne hji _ _).trans hs'
  refine ⟨j, ?_, ?_⟩
  · rw [hsame]
    exact hj
  · rw [hsame]
    exact hkey

theorem RipState.Alive.gc (h : s.rip.Alive k) : (ripGcHandler s now).1.rip.Alive k := by
  intro j hj hkey
  have hkept : ((ripGcHandler s now).1.rip.db j).valid = true →
      (ripGcHandler s now).1.rip.db j = s.rip.db j := by
    refine Slots.forEach_invariant (f := ripGcEntry now) (x := s.rip)
      (fun state' : RipState => (state'.db j).valid = true → state'.db j = s.rip.db j)
      (fun _ => rfl) fun i state' hs' => ?_
    rcases ripGcEntry_cases now state' i with he | ⟨-, -, -, he⟩
    · rw [he]
      exact hs'
    · rw [he]
      by_cases hji : j = i
      · subst hji
        intro hv
        simp at hv
      · intro hv
        have hother := Function.update_of_ne hji
          { state'.db i with valid := false, learnedOn := none } state'.db
        exact hother.trans (hs' (hother ▸ hv))
  have hsame := hkept hj
  rw [hsame] at hj hkey ⊢
  exact h j hj hkey

end

/-! ## A network that lasts -/

theorem ripCandidateMetric_lt {metric : UInt32} (h : metric.toNat + 1 < 16) :
    ripCandidateMetric metric < ripInfinity := by
  have hle : ¬ metric > ripInfinity := fun hgt => by
    have hlt : 16 < metric.toNat := hgt
    omega
  have hadd : (metric + 1).toNat = metric.toNat + 1 := by
    rw [UInt32.toNat_add]
    exact Nat.mod_eq_of_lt (by show metric.toNat + 1 < 4294967296; omega)
  have hsucc : ¬ metric + 1 > ripInfinity := fun hgt => by
    have hlt : 16 < (metric + 1).toNat := hgt
    omega
  unfold ripCandidateMetric
  dsimp only
  rw [if_neg hle, if_neg hsucc]
  show (metric + 1).toNat < 16
  omega

/-- What is said of the network, in the routers and on the way, is never that it is out of reach. -/
structure RipLinks.Lasts (L : RipLinks) (t : Topology) (k : UInt32 × UInt8) (s : RipArea) : Prop where
  routers : ∀ r, (s.routers r).rip.Alive k
  updates : ∀ {e r q dst srcIp message}, .schedule e ∈ s.net.calls → L.graph.Adj r q →
    OnWire (L.iface r q) dst (ripFrame t (L.iface r q) srcIp message) e →
    ∀ entry ∈ ripEntries message, entry.Names k → entry.metric < ripInfinity

/-- One router alone is told of the network, always with the same metric. -/
def RipArea.OnlyTold (s : RipArea) (k : UInt32 × UInt8) (o : RipRef) (metric : ℕ) : Prop :=
  ∀ f ∈ s.told, f.network = k → f.router = o ∧ f.metric.toNat = metric

/-- No timeout scan finds an entry for the network that is too old. -/
def RipInput.Timely (s : RipArea) (k : UInt32 × UInt8) : RipInput → Prop
  | .call r (now, .timeout) => ∀ j, ((s.routers r).rip.db j).valid = true →
      ripKeyed.key ((s.routers r).rip.db j) = k →
      now - ((s.routers r).rip.db j).lastUpdate ≤ ripTimeoutUs
  | _ => True

section
variable {L : RipLinks} {t : Topology} {s : RipArea} {k : UInt32 × UInt8} {o r q : RipRef}
  {metric : ℕ}

/-- The entry for the network has the distance as its metric. -/
theorem RipLinks.NodeOk.metric_eq {router : RipRouter} (h : L.NodeOk s.told r router)
    (hG : L.graph.IsAcyclic) (honly : s.OnlyTold k o metric) (halive : router.rip.Alive k)
    {i : Fin ripDbSize} (hi : (router.rip.db i).valid = true)
    (hkey : ripKeyed.key (router.rip.db i) = k) :
    (router.rip.db i).metric.toNat = metric + L.graph.dist o r ∧ L.graph.Reachable o r := by
  have hlt := halive i hi hkey
  obtain ⟨f, hf, n, hnet, hwalk, hcount⟩ := h.db i hi
  obtain ⟨rfl, hm⟩ := honly f hf (hnet.trans hkey)
  rw [← hcount hlt, hm, hwalk.eq_dist hG]
  exact ⟨rfl, hwalk.reachable⟩

/-- A router that has the network is told nothing worse of it than it has. -/
theorem RipLinks.TellsOk.nearer {e : RipEntry} (h : L.TellsOk s.told r q e) (hG : L.graph.IsAcyclic)
    (honly : s.OnlyTold k o metric) (hadj : L.graph.Adj r q) (hn : e.Names k)
    (hmetric : e.metric < ripInfinity) :
    e.metric.toNat + 1 = metric + L.graph.dist o q := by
  obtain ⟨learnedOn, honward, f, hf, n, hnet, hwalk, hcount⟩ := h k hn
  obtain ⟨rfl, hm⟩ := honly f hf hnet
  rw [← (hwalk.pass hadj honward).eq_dist hG, ← hcount hmetric, hm, Nat.add_assoc]

theorem RipLinks.Lasts.put (h : L.Lasts t k s) {router : RipRouter} (hr : router.rip.Alive k) :
    L.Lasts t k (s.put r router) := by
  refine ⟨fun r' => ?_, h.updates⟩
  show (Function.update s.routers r router r').rip.Alive k
  by_cases hr' : r' = r
  · subst hr'
    rw [Function.update_self]
    exact hr
  · rw [Function.update_of_ne hr']
    exact h.routers r'

theorem RipLinks.Lasts.send (h : L.Lasts t k s) (hok : L.Ok t s) {outIface : IfaceRef}
    (hfind : ipFindSourceIface t (t.iface outIface).ipAddr = some outIface) :
    L.Lasts t k (L.step t s (.send r outIface)) := by
  obtain ⟨more, hcalls, -⟩ := (ripSendUpdate_sent t s.net (s.routers r).rip outIface).1.calls
  refine ⟨h.routers, fun {e r' q dst srcIp message} he hadj hw entry hentry hn => ?_⟩
  have he : .schedule e ∈ (ripSendUpdate t s.net (s.routers r).rip outIface).1.calls := he
  rw [hcalls] at he
  rcases List.mem_append.mp he with he | he
  · exact h.updates he hadj hw entry hentry hn
  · obtain ⟨-, entries, hmax, rfl, hdb⟩ := ripSendUpdate_over hfind ⟨more, hcalls, he⟩ hw
    rw [ripEntries_update hmax] at hentry
    obtain ⟨_, hmem, rfl⟩ := List.mem_map.mp hentry
    obtain ⟨i, rfl, hi⟩ := hdb _ hmem
    have hv := (sentOn_iff.mp hi).1
    have hlt := h.routers r i hv (((hok.routers r).ok.entries i hv).names hn).symm
    show (if ((s.routers r).rip.db i).metric > ripInfinity then ripInfinity
      else ((s.routers r).rip.db i).metric) < ripInfinity
    rw [if_neg (UInt32.lt_asymm hlt)]
    exact hlt

/-- An update over a link. -/
theorem RipLinks.Lasts.receive (h : L.Lasts t k s) (hok : L.Ok t s) (hG : L.graph.IsAcyclic)
    (honly : s.OnlyTold k o metric) {e : NetEvent} {srcIp : UInt32} {message : List UInt8}
    {now : UInt64} (hgood : L.Good t s (.receive e r q srcIp message now)) :
    (ripReceive (s.routers q) (L.iface q r) srcIp message now).rip.Alive k := by
  obtain ⟨he, hadj, hw⟩ := hgood
  have hrun : L.NodeOk s.told q (ripReceive (s.routers q) (L.iface q r) srcIp message now) ∧
      (ripReceive (s.routers q) (L.iface q r) srcIp message now).rip.Alive k := by
    refine run_invariant_mem (fun router : RipRouter => L.NodeOk s.told q router ∧ router.rip.Alive k)
      (fun router entry hmem hr => ?_) ⟨hok.routers q, h.routers q⟩
    have htells := hok.updates he hadj hw entry hmem
    refine ⟨hr.1.receiveEntry (htells.brings hadj) srcIp now,
      hr.2.receiveEntry fun hn ⟨i, hi, hkey⟩ => ripCandidateMetric_lt ?_⟩
    rw [htells.nearer hG honly hadj hn (h.updates he hadj hw entry hmem hn),
      ← (hr.1.metric_eq hG honly hr.2 hi hkey).1]
    exact hr.2 i hi hkey
  exact hrun.2

theorem RipLinks.Lasts.step (h : L.Lasts t k s) (hok : L.Ok t s) (hG : L.graph.IsAcyclic)
    {input : RipInput} (hgood : L.Good t s input) (htimely : input.Timely s k)
    (honly : (L.step t s input).OnlyTold k o metric) (hmetric : metric < 16) :
    L.Lasts t k (L.step t s input) := by
  cases input with
  | send r outIface => exact h.send hok hgood.1
  | receive e r q srcIp message now => exact h.put (h.receive hok hG honly hgood)
  | outside r iface srcIp payload now =>
    have hrun : (ripReceive (s.routers r) iface srcIp payload now).rip.Alive k := by
      refine run_invariant_mem (fun router : RipRouter => router.rip.Alive k)
        (fun router entry hmem hr => hr.receiveEntry fun hn _ => ?_) (h.routers r)
      have htold := honly ⟨r, iface, k, ripCandidateMetric entry.metric⟩
        (.inr ⟨rfl, rfl, entry, hmem, hn, rfl⟩) rfl
      show (ripCandidateMetric entry.metric).toNat < 16
      rw [htold.2]
      exact hmetric
    exact ⟨(h.put hrun).routers, h.updates⟩
  | call r c =>
    obtain ⟨now, call⟩ := c
    cases call with
    | receive iface srcIp payload => exact absurd rfl (hgood iface srcIp payload)
    | timeout => exact h.put ((h.routers r).timeout htimely)
    | gc => exact h.put (h.routers r).gc
    | other op hop => exact h.put (h.routers r)
  | enable r iface =>
    have hdb := (ripEnableIface_frame (s.routers r).rip iface).1
    refine h.put fun i hi hkey => ?_
    dsimp only at hi hkey ⊢
    rw [hdb] at hi hkey ⊢
    exact h.routers r i hi hkey

/-- A router that has the network keeps it. -/
theorem RipLinks.Lasts.keeps (h : L.Lasts t k s) (hok : L.Ok t s) {input : RipInput}
    (hgood : L.Good t s input) (hhas : (s.routers r).rip.Has k) :
    ((L.step t s input).routers r).rip.Has k := by
  have hput : ∀ {q : RipRef} {router : RipRouter}, ((s.routers q).rip.Has k → router.rip.Has k) →
      (Function.update s.routers q router r).rip.Has k := by
    intro q router hkept
    by_cases hq : r = q
    · subst hq
      rw [Function.update_self]
      exact hkept hhas
    · rw [Function.update_of_ne hq]
      exact hhas
  have hreceive : ∀ (q : RipRef) (iface : IfaceRef) (srcIp : UInt32) (payload : List UInt8)
      (now : UInt64), (s.routers q).rip.Has k →
      (ripReceive (s.routers q) iface srcIp payload now).rip.Has k := by
    intro q iface srcIp payload now hq
    have hrun := run_invariant (fun router : RipRouter => RipOk uint64Max router.rip ∧
      router.rip.Has k) (fun router e hr => ⟨hr.1.receiveEntry (le_uint64Max now) iface srcIp e,
        hr.2.receiveEntry hr.1⟩) (ripEntries payload) (s.routers q) ⟨(hok.routers q).ok, hq⟩
    exact hrun.2
  cases input with
  | send q outIface => exact hhas
  | receive e q' q srcIp message now => exact hput (hreceive q _ _ _ _)
  | outside q iface srcIp payload now => exact hput (hreceive q _ _ _ _)
  | call q c =>
    obtain ⟨now, call⟩ := c
    cases call with
    | receive iface srcIp payload => exact absurd rfl (hgood iface srcIp payload)
    | timeout => exact hput ripTimeoutHandler_has
    | gc => exact hput fun hq => hq.gc (hok.routers q).ok (h.routers q)
    | other op hop => exact hput id
  | enable q iface =>
    refine hput fun ⟨i, hi, hkey⟩ => ⟨i, ?_⟩
    rw [(ripEnableIface_frame (s.routers q).rip iface).1]
    exact ⟨hi, hkey⟩

/-- A payload that names the network brings it in, if the database is large enough. -/
theorem RipLinks.NodeOk.learns {told : Set RipFact} {router : RipRouter}
    (h : L.NodeOk told q router) {ks : Finset (UInt32 × UInt8)} (hcard : ks.card ≤ ripDbSize)
    (hks : ∀ f ∈ told, f.network ∈ ks) (hk : k ∈ ks) {iface : IfaceRef} {payload : List UInt8}
    (hbrings : ∀ e ∈ ripEntries payload, L.Brings told q iface e) {e : RipEntry}
    (he : e ∈ ripEntries payload) (hn : e.Names k)
    (hmetric : ripCandidateMetric e.metric < ripInfinity) (srcIp : UInt32) (now : UInt64) :
    (ripReceive router iface srcIp payload now).rip.Has k := by
  obtain ⟨pre, post, hsplit⟩ := List.append_of_mem he
  have hpre : L.NodeOk told q (run (ripReceiveEntry iface srcIp now) router pre) :=
    run_invariant_mem (L.NodeOk told q) (fun _ e hmem hs => hs.receiveEntry (hbrings e (by
      rw [hsplit]
      exact List.mem_append_left _ hmem)) srcIp now) h
  have hslot := hpre.ok.distinct.exists_slotFor hcard (fun i hi => by
    obtain ⟨f, hf, -, hnet, -⟩ := hpre.db i hi
    rw [← hnet]
    exact hks f hf) hk
  have hhas : (ripReceiveEntry iface srcIp now
      (run (ripReceiveEntry iface srcIp now) router pre) e).rip.Has k :=
    RipState.has_of_names hn hmetric hslot
  have hok := hpre.ok.receiveEntry (le_uint64Max now) iface srcIp e
  unfold ripReceive
  rw [hsplit, run_append, run_cons]
  exact (run_invariant (fun router : RipRouter => RipOk uint64Max router.rip ∧ router.rip.Has k)
    (fun router e hr => ⟨hr.1.receiveEntry (le_uint64Max now) iface srcIp e,
      hr.2.receiveEntry hr.1⟩) post _ ⟨hok, hhas⟩).2

end

/-! ## Endless runs -/

/-- The states of an endless run, and what happens in each. -/
structure RipLinks.Behavior (L : RipLinks) (t : Topology) (f : ℕ → RipArea) (i : ℕ → RipInput) :
    Prop where
  start : f 0 = RipArea.start
  good : ∀ n, L.Good t (f n) (i n)
  next : ∀ n, f (n + 1) = L.step t (f n) (i n)

/-- Updates are sent on each link again and again, and arrive. -/
structure RipLinks.Fair (L : RipLinks) (f : ℕ → RipArea) (i : ℕ → RipInput) : Prop where
  sends : ∀ r q, L.graph.Adj r q → ∀ n, ∃ m, n ≤ m ∧ i m = .send r (L.iface r q)
  arrives : ∀ n r q e, L.graph.Adj r q → i n = .send r (L.iface r q) →
    Made (f n).net (f (n + 1)).net (.schedule e) →
    ∃ m, n < m ∧ ∃ srcIp message now, i m = .receive e r q srcIp message now

/-- The links join pairs of interfaces on which sending is possible, and each router has an
    interface for each of its links. -/
structure RipLinks.Up (L : RipLinks) (t : Topology) : Prop where
  own : ∀ {r q q'}, L.graph.Adj r q → L.graph.Adj r q' → L.iface r q = L.iface r q' → q = q'
  sends : ∀ {r q}, L.graph.Adj r q → GroupSends t (L.iface r q)
  linked : ∀ {r q x}, L.graph.Adj r q → LinksTo t (L.iface r q) x → x = L.iface q r

/-- A network that one router alone is told of, always with the same metric, and of which no
    timeout scan finds an entry that is too old. -/
structure RipLinks.Steady (L : RipLinks) (f : ℕ → RipArea) (i : ℕ → RipInput) (k : UInt32 × UInt8)
    (o : RipRef) (metric : ℕ) : Prop where
  told : ∃ n, ∃ x ∈ (f n).told, x.network = k
  only : ∀ n, (f n).OnlyTold k o metric
  timely : ∀ n, (i n).Timely (f n) k

section
variable {L : RipLinks} {t : Topology} {f : ℕ → RipArea} {i : ℕ → RipInput} {k : UInt32 × UInt8}
  {o r q : RipRef} {metric : ℕ}

theorem RipLinks.Behavior.ok (h : L.Behavior t f i) (n : ℕ) : L.Ok t (f n) := by
  induction n with
  | zero =>
    rw [h.start]
    exact RipLinks.ok_start
  | succ n ih =>
    rw [h.next]
    exact ih.step (h.good n)

theorem RipLinks.Behavior.lasts (h : L.Behavior t f i) (hG : L.graph.IsAcyclic)
    (hsteady : L.Steady f i k o metric) (hmetric : metric < 16) (n : ℕ) : L.Lasts t k (f n) := by
  induction n with
  | zero =>
    rw [h.start]
    refine ⟨fun r j hj => ?_, fun {e r q dst srcIp message} he => ?_⟩
    · cases hj
    · cases he
  | succ n ih =>
    have honly := hsteady.only (n + 1)
    rw [h.next] at honly ⊢
    exact ih.step (h.ok n) hG (h.good n) (hsteady.timely n) honly hmetric

theorem RipLinks.Behavior.keeps (h : L.Behavior t f i) (hG : L.graph.IsAcyclic)
    (hsteady : L.Steady f i k o metric) (hmetric : metric < 16) {n m : ℕ} (hnm : n ≤ m)
    (hhas : ((f n).routers r).rip.Has k) : ((f m).routers r).rip.Has k := by
  induction hnm with
  | refl => exact hhas
  | step _ ih =>
    rw [h.next]
    exact (h.lasts hG hsteady hmetric _).keeps (h.ok _) (h.good _) ih

/-- What is told was told in some step. -/
theorem RipLinks.Behavior.told (h : L.Behavior t f i) {n : ℕ} {x : RipFact} (hx : x ∈ (f n).told) :
    ∃ m srcIp payload now, i m = .outside x.router x.iface srcIp payload now ∧
      ∃ e ∈ ripEntries payload, e.Names x.network ∧ x.metric = ripCandidateMetric e.metric := by
  induction n with
  | zero =>
    rw [h.start] at hx
    cases hx
  | succ n ih =>
    rw [h.next] at hx
    cases hi : i n with
    | outside r iface srcIp payload now =>
      rw [hi] at hx
      rcases hx with hx | ⟨rfl, rfl, hfact⟩
      · exact ih hx
      · exact ⟨n, srcIp, payload, now, hi, hfact⟩
    | send | receive | call | enable =>
      rw [hi] at hx
      exact ih hx

/-- The router that is told has an entry. -/
theorem RipLinks.Behavior.first (h : L.Behavior t f i) (hsteady : L.Steady f i k o metric)
    (hmetric : metric < 16) {ks : Finset (UInt32 × UInt8)} (hcard : ks.card ≤ ripDbSize)
    (hks : ∀ n, ∀ x ∈ (f n).told, x.network ∈ ks) : ∃ n, ((f n).routers o).rip.Has k := by
  obtain ⟨n, x, hx, rfl⟩ := hsteady.told
  obtain ⟨rfl, hm⟩ := hsteady.only n x hx rfl
  obtain ⟨m, srcIp, payload, now, hi, e, he, hn, hcandidate⟩ := h.told hx
  have hafter : f (m + 1) = L.step t (f m) (.outside x.router x.iface srcIp payload now) := by
    rw [h.next, hi]
  have hks' := hks (m + 1)
  refine ⟨m + 1, ?_⟩
  rw [hafter] at hks' ⊢
  show (Function.update (f m).routers x.router _ x.router).rip.Has x.network
  rw [Function.update_self]
  refine (((h.ok m).routers x.router).mono Set.subset_union_left).learns hcard hks'
    (hks n x hx) (fun e' he' k hn' => (ripFacts_brings he' k hn').mono Set.subset_union_right) he hn
    ?_ srcIp now
  rw [← hcandidate]
  show x.metric.toNat < 16
  rw [hm]
  exact hmetric

theorem RipEntryOk.names_key {now : UInt64} {entry : RipRouteInfo} (h : RipEntryOk now entry) :
    entry.advert.Names (ripKeyed.key entry) where
  afi := rfl
  mask := ipMaskToPrefixLen_mask h.prefixLen
  pfx := h.normalized.symm

/-- The neighbor that is further away gets an entry. -/
theorem RipLinks.Behavior.onward (h : L.Behavior t f i) (hG : L.graph.IsAcyclic) (hup : L.Up t)
    (hfair : L.Fair f i) (hsteady : L.Steady f i k o metric) {ks : Finset (UInt32 × UInt8)}
    (hcard : ks.card ≤ ripDbSize) (hks : ∀ n, ∀ x ∈ (f n).told, x.network ∈ ks)
    (hadj : L.graph.Adj r q) (hdist : L.graph.dist o q = L.graph.dist o r + 1)
    (hnear : metric + L.graph.dist o q < 16) {n : ℕ} (hhas : ((f n).routers r).rip.Has k) :
    ∃ m, ((f m).routers q).rip.Has k := by
  have hmetric : metric < 16 := by omega
  obtain ⟨m, hnm, hsend⟩ := hfair.sends r q hadj n
  obtain ⟨j, hj, hkey⟩ := h.keeps hG hsteady hmetric hnm hhas
  have hnode := (h.ok m).routers r
  have halive := (h.lasts hG hsteady hmetric m).routers r
  obtain ⟨hcount, -⟩ := hnode.metric_eq hG (hsteady.only m) halive hj hkey
  -- the entry was learned elsewhere
  have hsent : (((f m).routers r).rip.db j).sentOn (L.iface r q) = true := by
    refine sentOn_iff.mpr ⟨hj, fun hlearned => ?_⟩
    obtain ⟨x, hx, d, hnet, hwalk, -⟩ := hnode.db j hj
    obtain ⟨rfl, -⟩ := hsteady.only m x hx (hnet.trans hkey)
    rcases hwalk.port_closer hG with ⟨-, hport, -⟩ | ⟨u, hu, hport, hcloser⟩
    · exact (h.ok m).outside x hx r q hadj (Option.some.inj (hlearned.symm.trans hport))
    · obtain rfl := hup.own hadj hu (Option.some.inj (hlearned.symm.trans hport))
      omega
  have hgood := h.good m
  rw [hsend] at hgood
  obtain ⟨e, entries, src, dst, hmade, hmem, hmax, hfind, hlinks, hwire⟩ :=
    ripSendUpdate_carries (hup.sends hadj) (f m).net ((f m).routers r).rip hsent
  obtain rfl := Option.some.inj (hgood.1.symm.trans hfind)
  have hmade' : Made (f m).net (f (m + 1)).net (.schedule e) := by
    rw [h.next, hsend]
    exact hmade
  obtain ⟨m', -, srcIp, message, now, hreceive⟩ := hfair.arrives m r q e hadj hsend hmade'
  have hgood' := h.good m'
  rw [hreceive] at hgood'
  obtain ⟨he, -, hw⟩ := hgood'
  obtain ⟨pkt, hpkt, hbytes, -⟩ := hw.packet
  obtain ⟨pkt', hpkt', hbytes', -⟩ := hwire.packet
  obtain rfl := Option.some.inj (hpkt.symm.trans hpkt')
  obtain ⟨rfl, rfl⟩ := ripFrame_injective (hbytes.symm.trans hbytes')
  refine ⟨m' + 1, ?_⟩
  rw [h.next, hreceive]
  show (Function.update (f m').routers q _ q).rip.Has k
  rw [Function.update_self]
  have hentry : (((f m).routers r).rip.db j).advert ∈ ripEntries (ripUpdate entries) := by
    rw [ripEntries_update hmax]
    exact List.mem_map_of_mem hmem
  have hk : k ∈ ks := by
    obtain ⟨x, hx, -, hnet, -⟩ := hnode.db j hj
    rw [← hkey, ← hnet]
    exact hks m x hx
  refine ((h.ok m').routers q).learns hcard (hks m') hk
    (fun e' he' => ((h.ok m').updates he hadj hw e' he').brings hadj) hentry ?_ ?_ _ now
  · rw [← hkey]
    exact (hnode.ok.entries j hj).names_key
  · have hclamp : ripCandidateMetric (((f m).routers r).rip.db j).advert.metric =
        ripCandidateMetric (((f m).routers r).rip.db j).metric := ripCandidateMetric_clamp _
    rw [hclamp]
    refine ripCandidateMetric_lt ?_
    omega

/-- Where the links form no cycle, updates are sent and arrive again and again, and no entry for
    the network gets too old, every router that is less than 16 away has from some time on an
    active entry for the network, with the distance as its metric, learned from the neighbor that
    is closer. The networks all fit into the database. -/
theorem ripForest_learns (hG : L.graph.IsAcyclic) (hup : L.Up t) (h : L.Behavior t f i)
    (hfair : L.Fair f i) (hsteady : L.Steady f i k o metric) {ks : Finset (UInt32 × UInt8)}
    (hcard : ks.card ≤ ripDbSize) (hks : ∀ n, ∀ x ∈ (f n).told, x.network ∈ ks)
    (hreach : L.graph.Reachable o r) (hnear : metric + L.graph.dist o r < 16) :
    ∃ n, ∀ m, n ≤ m → ∃ j, (((f m).routers r).rip.db j).valid = true ∧
      ripKeyed.key (((f m).routers r).rip.db j) = k ∧
      (((f m).routers r).rip.db j).state = ripRouteActive ∧
      (((f m).routers r).rip.db j).metric.toNat = metric + L.graph.dist o r ∧
      (r = o ∨ ∃ q, L.graph.Adj r q ∧
        (((f m).routers r).rip.db j).learnedOn = some (L.iface r q) ∧
        L.graph.dist o r = L.graph.dist o q + 1) := by
  have hmetric : metric < 16 := by omega
  have hhas : ∃ n, ((f n).routers r).rip.Has k := by
    obtain ⟨d, hd⟩ : ∃ d, L.graph.dist o r = d := ⟨_, rfl⟩
    induction d generalizing r with
    | zero =>
      obtain rfl := hreach.dist_eq_zero_iff.mp hd
      exact h.first hsteady hmetric hcard hks
    | succ d ih =>
      obtain ⟨w, hw⟩ := hreach.symm.exists_walk_length_eq_dist
      rw [SimpleGraph.dist_comm, hd] at hw
      cases w with
      | nil => cases hw
      | @cons _ u _ hadj w =>
        have hlen : w.length = d := Nat.succ.inj hw
        have hle : L.graph.dist o u ≤ d := by
          rw [SimpleGraph.dist_comm, ← hlen]
          exact SimpleGraph.dist_le w
        have hu : L.graph.dist o u = d := by
          rcases hG.dist_eq_dist_add_one_of_adj_of_reachable o hadj hreach with hdist | hdist
          · omega
          · omega
        obtain ⟨n, hn⟩ := ih w.reachable.symm (by omega) hu
        exact h.onward hG hup hfair hsteady hcard hks hadj.symm (by omega) hnear hn
  obtain ⟨n, hn⟩ := hhas
  refine ⟨n, fun m hnm => ?_⟩
  obtain ⟨j, hj, hkey⟩ := h.keeps hG hsteady hmetric hnm hn
  have hnode := (h.ok m).routers r
  have halive := (h.lasts hG hsteady hmetric m).routers r
  have hlt := halive j hj hkey
  refine ⟨j, hj, hkey, ?_, (hnode.metric_eq hG (hsteady.only m) halive hj hkey).1, ?_⟩
  · rcases (hnode.ok.entries j hj).phase with ⟨hactive, -⟩ | ⟨-, hinf⟩
    · exact hactive
    · rw [hinf] at hlt
      exact absurd hlt (by decide)
  · obtain ⟨x, hx, d, hnet, hwalk, -⟩ := hnode.db j hj
    obtain ⟨rfl, -⟩ := hsteady.only m x hx (hnet.trans hkey)
    rcases hwalk.port_closer hG with ⟨hr, -⟩ | ⟨q, hadj, hport, hcloser⟩
    · exact .inl hr
    · exact .inr ⟨q, hadj, hport, hcloser⟩

end

/-! ## An endless run of two routers -/

theorem exampleRipLinks_up : exampleRipLinks.Up exampleRipChain where
  own {r q q'} hq hq' _ := by
    rcases exampleRipLinks_adj hq with ⟨rfl, rfl⟩ | ⟨rfl, rfl⟩
    · rcases exampleRipLinks_adj hq' with ⟨-, rfl⟩ | ⟨h, -⟩
      · rfl
      · cases h
    · rcases exampleRipLinks_adj hq' with ⟨h, -⟩ | ⟨-, rfl⟩
      · cases h
      · rfl
  sends {r q} h := by
    rcases exampleRipLinks_adj h with ⟨rfl, rfl⟩ | ⟨rfl, rfl⟩
    · exact ⟨0, by decide +kernel, rfl, rfl, 1, ⟨0, rfl, rfl, rfl⟩, rfl⟩
    · exact ⟨1, by decide +kernel, rfl, rfl, 0, ⟨0, rfl, rfl, rfl⟩, rfl⟩
  linked {r q x} h hx := by
    rcases exampleRipLinks_adj h with ⟨rfl, rfl⟩ | ⟨rfl, rfl⟩
    · exact hx.unique ⟨⟨0, rfl, rfl, rfl⟩, rfl⟩
    · exact hx.unique ⟨⟨0, rfl, rfl, rfl⟩, rfl⟩

theorem exampleRipLinks_sends {s : RipArea} {r q : RipRef} (h : exampleRipLinks.graph.Adj r q) :
    exampleRipLinks.Good exampleRipChain s (.send r r) := by
  have hfind : ∀ x : ℕ, x = 0 ∨ x = 1 →
      ipFindSourceIface exampleRipChain (exampleRipChain.iface x).ipAddr = some x := by
    rintro x (rfl | rfl)
    · decide +kernel
    · decide +kernel
  exact ⟨hfind r ((exampleRipLinks_adj h).imp And.left And.left), fun r q hadj hr => hr⟩

/-- What happens in step `n`: at first router 0 is told of a network. Then the two send in turn,
    and after that a frame of those that were sent comes in, each again and again. -/
structure ExampleRipNext (s : RipArea) (n : ℕ) (input : RipInput) : Prop where
  good : exampleRipLinks.Good exampleRipChain s input
  first : n = 0 → input = .outside 0 3 0xC0A80002
    (ripUpdate [{ pfx := 0xAC100000, prefixLen := 16, metric := 1 }]) 0
  closed : n ≠ 0 → (exampleRipLinks.step exampleRipChain s input).told = s.told ∧
    ∀ r c, input ≠ .call r c
  sends : ∀ r q : ℕ, exampleRipLinks.graph.Adj r q → n % 3 = r + 1 → input = .send r r
  arrives : ∀ e r q srcIp message, n ≠ 0 → n % 3 = 0 →
    s.net.calls[(n / 3).unpair.1]? = some (.schedule e) → exampleRipLinks.graph.Adj r q →
    OnWire r q (ripFrame exampleRipChain r srcIp message) e →
    ∃ srcIp message now, input = .receive e r q srcIp message now

theorem exists_exampleRipNext (s : RipArea) (n : ℕ) : ∃ input, ExampleRipNext s n input := by
  have hlink : exampleRipLinks.graph.Adj 0 1 := by
    rw [exampleRipLinks, SimpleGraph.edge_adj]
    decide
  have hstub : ∀ r q, exampleRipLinks.graph.Adj r q → exampleRipLinks.iface r q ≠ 3 := by
    intro r q hadj
    show r ≠ 3
    rcases exampleRipLinks_adj hadj with ⟨rfl, -⟩ | ⟨rfl, -⟩
    · decide
    · decide
  by_cases hn : n = 0
  · exact ⟨.outside 0 3 0xC0A80002 (ripUpdate [{ pfx := 0xAC100000, prefixLen := 16, metric := 1 }]) 0,
      hstub, fun _ => rfl, fun h => absurd hn h, fun r q _ h => by omega, fun e r q srcIp message h =>
      absurd hn h⟩
  by_cases hrest : n % 3 = 0
  swap
  · obtain ⟨r, q, hr, hadj⟩ : ∃ r q : ℕ, n % 3 = r + 1 ∧ exampleRipLinks.graph.Adj r q := by
      rcases (by omega : n % 3 = 1 ∨ n % 3 = 2) with h | h
      · exact ⟨0, 1, h, hlink⟩
      · exact ⟨1, 0, h, hlink.symm⟩
    refine ⟨.send r r, exampleRipLinks_sends hadj, fun h => absurd h hn,
      fun _ => ⟨rfl, fun r c h => by cases h⟩, fun r' q' _ h => ?_, fun e r' q' srcIp message _ h =>
      absurd h hrest⟩
    obtain rfl : r' = r := by omega
    rfl
  by_cases hframe : ∃ e r q srcIp message, s.net.calls[(n / 3).unpair.1]? = some (.schedule e) ∧
      exampleRipLinks.graph.Adj r q ∧ OnWire r q (ripFrame exampleRipChain r srcIp message) e
  · obtain ⟨e, r, q, srcIp, message, he, hadj, hw⟩ := hframe
    refine ⟨.receive e r q srcIp message 0, ⟨List.mem_of_getElem? he, hadj, hw⟩,
      fun h => absurd h hn, fun _ => ⟨rfl, fun r c h => by cases h⟩, fun r' q' _ h => by omega,
      fun e' r' q' srcIp' message' _ _ he' _ hw' => ?_⟩
    obtain rfl : e = e' := NetCall.schedule.inj (Option.some.inj (he.symm.trans he'))
    obtain rfl := Option.some.inj (hw.src.symm.trans hw'.src)
    obtain rfl := Option.some.inj (hw.dst.symm.trans hw'.dst)
    exact ⟨srcIp, message, 0, rfl⟩
  · exact ⟨.enable 0 0, trivial, fun h => absurd h hn, fun _ => ⟨rfl, fun r c h => by cases h⟩,
      fun r' q' _ h => by omega, fun e r q srcIp message _ _ he hadj hw =>
      absurd ⟨e, r, q, srcIp, message, he, hadj, hw⟩ hframe⟩

theorem RipLinks.step_calls (L : RipLinks) (t : Topology) (s : RipArea) (input : RipInput) :
    ∃ more, (L.step t s input).net.calls = s.net.calls ++ more := by
  cases input with
  | send r outIface =>
    obtain ⟨more, hcalls, -⟩ := (ripSendUpdate_sent t s.net (s.routers r).rip outIface).1.calls
    exact ⟨more, hcalls⟩
  | receive | outside | call | enable => exact ⟨[], (List.append_nil _).symm⟩

theorem RipLinks.Behavior.calls {L : RipLinks} {t : Topology} {f : ℕ → RipArea} {i : ℕ → RipInput}
    (h : L.Behavior t f i) {n m : ℕ} (hnm : n ≤ m) : (f n).net.calls <+: (f m).net.calls := by
  induction hnm with
  | refl => exact List.prefix_rfl
  | step _ ih =>
    obtain ⟨more, hmore⟩ := L.step_calls t (f _) (i _)
    rw [h.next, hmore]
    exact ih.trans (List.prefix_append _ _)

section
variable {f : ℕ → RipArea} {i : ℕ → RipInput}

theorem exampleRip_fair (h : exampleRipLinks.Behavior exampleRipChain f i)
    (hnext : ∀ n, ExampleRipNext (f n) n (i n)) : exampleRipLinks.Fair f i where
  sends r q hadj n := by
    have hmod : ∀ x : ℕ, x = 0 ∨ x = 1 → n ≤ 3 * n + x + 1 ∧ (3 * n + x + 1) % 3 = x + 1 := by
      omega
    obtain ⟨hle, hturn⟩ := hmod r ((exampleRipLinks_adj hadj).imp And.left And.left)
    exact ⟨3 * n + r + 1, hle, (hnext _).sends r q hadj hturn⟩
  arrives n r q e hadj hsend hmade := by
    obtain ⟨more, hcalls, hmem⟩ := hmade
    have he : .schedule e ∈ (f (n + 1)).net.calls := by
      rw [hcalls]
      exact List.mem_append_right _ hmem
    obtain ⟨a, ha⟩ := List.getElem?_of_mem he
    have hle : n + 1 ≤ Nat.pair a (n + 1) := Nat.right_le_pair a (n + 1)
    have hmod : 3 * Nat.pair a (n + 1) % 3 = 0 := by omega
    have hdiv : 3 * Nat.pair a (n + 1) / 3 = Nat.pair a (n + 1) := by omega
    have hmade : Made (f n).net (ripSendUpdate exampleRipChain (f n).net ((f n).routers r).rip r).1
        (.schedule e) := by
      refine ⟨more, ?_, hmem⟩
      rw [← hcalls, h.next, hsend]
      rfl
    obtain ⟨src, dst, entries, hmax, -, hwire⟩ :=
      (ripSendUpdate_sent exampleRipChain (f n).net ((f n).routers r).rip r).2 e hmade
    obtain ⟨src', dst', message, hfind, -, hlinks, hwire'⟩ :=
      ripSendUpdate_wire exampleRipChain (f n).net ((f n).routers r).rip r e hmade
    obtain rfl := Option.some.inj ((exampleRipLinks_sends (s := f n) hadj).1.symm.trans hfind)
    obtain rfl := Option.some.inj (hwire'.src.symm.trans hwire.src)
    obtain rfl := Option.some.inj (hwire'.dst.symm.trans hwire.dst)
    obtain rfl := exampleRipLinks_up.linked hadj hlinks
    refine ⟨3 * Nat.pair a (n + 1), by omega, ?_⟩
    refine (hnext _).arrives e _ _ _ _ (by omega) hmod ?_ hadj hwire
    rw [hdiv, Nat.unpair_pair]
    obtain ⟨rest, hrest⟩ := h.calls (show n + 1 ≤ 3 * Nat.pair a (n + 1) by omega)
    rw [← hrest, List.getElem?_append_left (List.getElem?_eq_some_iff.mp ha).1]
    exact ha

theorem exampleRip_told (h : exampleRipLinks.Behavior exampleRipChain f i)
    (hnext : ∀ n, ExampleRipNext (f n) n (i n)) (n : ℕ) :
    (f (n + 1)).told = {⟨0, 3, (0xAC100000, 16), 2⟩} := by
  induction n with
  | zero =>
    obtain ⟨e, -⟩ := exampleRipChain_sent
    rw [h.next, (hnext 0).first rfl, h.start]
    exact exampleRipLinksRun_told e
  | succ n ih =>
    rw [h.next, ((hnext (n + 1)).closed (Nat.succ_ne_zero n)).1, ih]

theorem exampleRip_steady (h : exampleRipLinks.Behavior exampleRipChain f i)
    (hnext : ∀ n, ExampleRipNext (f n) n (i n)) :
    exampleRipLinks.Steady f i (0xAC100000, 16) 0 2 where
  told := by
    refine ⟨1, ⟨0, 3, (0xAC100000, 16), 2⟩, ?_, rfl⟩
    rw [exampleRip_told h hnext 0]
    rfl
  only n x hx _ := by
    cases n with
    | zero =>
      rw [h.start] at hx
      cases hx
    | succ n =>
      rw [exampleRip_told h hnext n] at hx
      rw [Set.mem_singleton_iff.mp hx]
      exact ⟨rfl, rfl⟩
  timely n := by
    by_cases hn : n = 0
    · rw [(hnext n).first hn]
      trivial
    · have hcall := ((hnext n).closed hn).2
      cases hi : i n with
      | call r c => exact absurd hi (hcall r c)
      | send | receive | outside | enable => trivial

end

theorem ripForest_learns_exampleRipLinks :
    ∃ f i, exampleRipLinks.Behavior exampleRipChain f i ∧ ∃ n, ∀ m, n ≤ m →
      ∃ j, (((f m).routers 1).rip.db j).valid = true ∧
        ripKeyed.key (((f m).routers 1).rip.db j) = (0xAC100000, 16) ∧
        (((f m).routers 1).rip.db j).state = ripRouteActive := by
  choose next hnext using exists_exampleRipNext
  obtain ⟨f, hf⟩ : ∃ f : ℕ → RipArea, f = fun n => Nat.rec RipArea.start
    (fun n s => exampleRipLinks.step exampleRipChain s (next s n)) n := ⟨_, rfl⟩
  have hbehavior : exampleRipLinks.Behavior exampleRipChain f fun n => next (f n) n := by
    subst hf
    exact ⟨rfl, fun n => (hnext _ n).good, fun n => rfl⟩
  have hfollows : ∀ n, ExampleRipNext (f n) n (next (f n) n) := fun n => hnext (f n) n
  have hlink : exampleRipLinks.graph.Adj 0 1 := by
    rw [exampleRipLinks, SimpleGraph.edge_adj]
    decide
  have hkeys : ∀ n, ∀ x ∈ (f n).told, x.network ∈ ({(0xAC100000, 16)} : Finset (UInt32 × UInt8)) := by
    intro n x hx
    cases n with
    | zero =>
      rw [hbehavior.start] at hx
      cases hx
    | succ n =>
      rw [exampleRip_told hbehavior hfollows n] at hx
      rw [Set.mem_singleton_iff.mp hx]
      exact Finset.mem_singleton_self _
  have hdist : exampleRipLinks.graph.dist 0 1 = 1 := SimpleGraph.dist_eq_one_iff_adj.mpr hlink
  obtain ⟨n, hn⟩ := ripForest_learns exampleRipLinks_acyclic exampleRipLinks_up hbehavior
    (exampleRip_fair hbehavior hfollows) (exampleRip_steady hbehavior hfollows) (by decide) hkeys
    hlink.reachable (by rw [hdist]; decide)
  refine ⟨f, _, hbehavior, n, fun m hm => ?_⟩
  obtain ⟨j, hj, hkey, hactive, -⟩ := hn m hm
  exact ⟨j, hj, hkey, hactive⟩

end FrameRunner
