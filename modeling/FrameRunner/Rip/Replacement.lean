import FrameRunner.Rip.Receive

/-!
# Advertisements for a known route (`protocols/rip.c`)

`rip_receive` does not compare metrics. A reachable advertisement overwrites the
database entry of its prefix and goes to the RIB, an unreachable one retires both,
whatever the entry holds and whichever neighbour it was learned from
(`ripReceiveEntry_known`); the entry of another prefix stays as it is
(`ripReceiveEntry_other`).

Main result: `ripReceive_replaces`, for every advertisement of a response at its
turn. The last one for a prefix decides.
-/

namespace FrameRunner

open FrameRunner.Lib

variable {iface : IfaceRef} {srcIp : UInt32} {now : UInt64} {s : RipRouter} {e : RipEntry}
  {k : UInt32 × UInt8} {j : Fin ripDbSize}

/-- The router after an advertisement for the known route in slot `j`. -/
def RipRouter.replace (s : RipRouter) (iface : IfaceRef) (srcIp : UInt32) (now : UInt64)
    (e : RipEntry) (k : UInt32 × UInt8) (j : Fin ripDbSize) : RipRouter :=
  if ripCandidateMetric e.metric = ripInfinity then
    s.retire j { s.rip.db j with
      state := ripRouteGc, lastUpdate := now, learnedOn := some iface, metric := ripInfinity }
  else s.install j (e.route iface srcIp now k)

/-- The stored metric and next hop are not looked at. -/
theorem ripReceiveEntry_known (hn : e.Names k) (hj : ripFind s.rip k.1 k.2 = some j) :
    ripReceiveEntry iface srcIp now s e = s.replace iface srcIp now e k j := by
  have hfind := hj
  rw [ripFind_eq] at hfind
  obtain ⟨hv, hkey⟩ := Keyed.find_eq_some hfind
  have hv : (s.rip.db j).valid = true := hv
  obtain ⟨hp, hl⟩ : (s.rip.db j).pfx = k.1 ∧ (s.rip.db j).prefixLen = k.2 := Prod.mk.inj hkey
  unfold ripReceiveEntry RipRouter.replace
  rw [if_neg (not_not.mpr hn.afi), hn.mask]
  dsimp only
  rw [← hn.pfx, hj]
  by_cases hmetric : ripCandidateMetric e.metric = ripInfinity
  · simp only [hmetric, if_true, RipRouter.retire, hp, hl, hv]
  · simp only [if_neg hmetric, RipRouter.install, RipEntry.route, RipEntry.hop, hv, if_true]

/-- An advertisement for another prefix leaves the entry as it is. -/
theorem ripReceiveEntry_other (hv : (s.rip.db j).valid = true)
    (hn : ¬ e.Names ((s.rip.db j).pfx, (s.rip.db j).prefixLen)) :
    (ripReceiveEntry iface srcIp now s e).rip.db j = s.rip.db j := by
  by_cases hafi : e.afi = ripAfiIpv4
  swap
  · unfold ripReceiveEntry
    rw [if_pos hafi]
  cases hmask : ipMaskToPrefixLen e.subnetMask with
  | none =>
    unfold ripReceiveEntry
    rw [if_neg (not_not.mpr hafi), hmask]
  | some prefixLen =>
    have hnames : e.Names (e.ipAddr &&& ipv4PrefixMask prefixLen, prefixLen) := ⟨hafi, hmask, rfl⟩
    cases hfind : ripFind s.rip (e.ipAddr &&& ipv4PrefixMask prefixLen) prefixLen with
    | some i =>
      have hfound := hfind
      rw [ripFind_eq] at hfound
      have hkey : ((s.rip.db i).pfx, (s.rip.db i).prefixLen) = _ := (Keyed.find_eq_some hfound).2
      have hne : j ≠ i := by
        intro h
        apply hn
        rw [h, hkey]
        exact hnames
      rw [ripReceiveEntry_known hnames hfind]
      unfold RipRouter.replace
      split
      · exact Function.update_of_ne hne _ _
      · exact Function.update_of_ne hne _ _
    | none =>
      unfold ripReceiveEntry
      rw [if_neg (not_not.mpr hafi), hmask]
      dsimp only
      rw [hfind]
      dsimp only
      split
      · rfl
      split
      · rfl
      · rename_i i hfree
        have hi : (s.rip.db i).valid = false := by simpa using (Fin.find?_eq_some_iff.mp hfree).1
        have hne : j ≠ i := by
          intro h
          rw [h, hi] at hv
          exact absurd hv (by decide)
        exact Function.update_of_ne hne _ _

/-- The rest of a response that does not name the prefix again. -/
theorem ripReceive_others (es : List RipEntry) : ∀ s : RipRouter, (s.rip.db j).valid = true →
    (∀ e ∈ es, ¬ e.Names ((s.rip.db j).pfx, (s.rip.db j).prefixLen)) →
    (run (ripReceiveEntry iface srcIp now) s es).rip.db j = s.rip.db j := by
  induction es with
  | nil => exact fun _ _ _ => rfl
  | cons e es ih =>
    intro s hv hn
    have hone : (ripReceiveEntry iface srcIp now s e).rip.db j = s.rip.db j :=
      ripReceiveEntry_other hv (hn e (List.mem_cons_self ..))
    rw [run_cons, ih _ (hone ▸ hv) fun e' he' => hone ▸ hn e' (List.mem_cons_of_mem e he'), hone]

/-! ## A route that another neighbour replaces -/

/-- The entry is overwritten in its slot: its key stays. -/
theorem RipRouter.replace_key (hv : (s.rip.db j).valid = true)
    (hk : ((s.rip.db j).pfx, (s.rip.db j).prefixLen) = k) :
    ((s.replace iface srcIp now e k j).rip.db j).valid = true ∧
      (((s.replace iface srcIp now e k j).rip.db j).pfx,
        ((s.replace iface srcIp now e k j).rip.db j).prefixLen) = k := by
  unfold RipRouter.replace RipRouter.retire RipRouter.install
  split
  · simp only [Function.update_self]
    exact ⟨hv, hk⟩
  · simp only [Function.update_self]
    exact ⟨rfl, rfl⟩

/-- The advertisement of another neighbour changes an active entry: its phase when the
    prefix has become unreachable, its next hop otherwise. -/
theorem RipRouter.replace_ne (hactive : (s.rip.db j).state = ripRouteActive)
    (hop : (s.rip.db j).nextHop ≠ e.hop srcIp) :
    (s.replace iface srcIp now e k j).rip.db j ≠ s.rip.db j := by
  unfold RipRouter.replace RipRouter.retire RipRouter.install
  split
  · intro h
    have hstate : ripRouteGc = (s.rip.db j).state := by
      simpa only [Function.update_self] using congrArg RipRouteInfo.state h
    rw [hactive] at hstate
    exact absurd hstate (by decide)
  · intro h
    have hnext : e.hop srcIp = (s.rip.db j).nextHop := by
      simpa only [Function.update_self, RipEntry.route] using congrArg RipRouteInfo.nextHop h
    exact hop hnext.symm

/-- Whatever metric the database holds for an active prefix, an advertisement for it
    through another next hop replaces the route at its turn: by the advertised one in
    the database and the RIB when that is reachable, by none when it is not. The entries
    after it in the response see the replacement, which stands when none of them names
    the prefix again. -/
theorem ripReceive_replaces (s : RipRouter) (iface : IfaceRef) (srcIp : UInt32) (now : UInt64)
    (payload : List UInt8) (before after : List RipEntry) (e : RipEntry) (k : UInt32 × UInt8)
    (j : Fin ripDbSize) (hentries : ripEntries payload = before ++ e :: after) (hn : e.Names k) :
    let s₁ := run (ripReceiveEntry iface srcIp now) s before
    ripFind s₁.rip k.1 k.2 = some j → (s₁.rip.db j).state = ripRouteActive →
    (s₁.rip.db j).nextHop ≠ e.hop srcIp →
    let s₂ := s₁.replace iface srcIp now e k j
    ripReceive s iface srcIp payload now = run (ripReceiveEntry iface srcIp now) s₂ after ∧
      s₂.rip.db j ≠ s₁.rip.db j ∧
      ((∀ e' ∈ after, ¬ e'.Names k) →
        (ripReceive s iface srcIp payload now).rip.db j = s₂.rip.db j) := by
  intro s₁ hj hactive hop s₂
  have hrun : ripReceive s iface srcIp payload now =
      run (ripReceiveEntry iface srcIp now) s₂ after := by
    unfold ripReceive
    rw [hentries, run_append, run_cons, ripReceiveEntry_known hn hj]
  refine ⟨hrun, RipRouter.replace_ne hactive hop, fun hafter => ?_⟩
  have hfind := hj
  rw [ripFind_eq] at hfind
  obtain ⟨hv, hkey⟩ := Keyed.find_eq_some hfind
  have hkept : (s₂.rip.db j).valid = true ∧ ((s₂.rip.db j).pfx, (s₂.rip.db j).prefixLen) = k :=
    RipRouter.replace_key hv hkey
  obtain ⟨hv₂, hkey₂⟩ := hkept
  rw [hrun]
  exact ripReceive_others after s₂ hv₂ fun e' he' => hkey₂ ▸ hafter e' he'

/-- A response with one route to 10.0.0.0/8. -/
def exampleResponse (metric : UInt32) : List UInt8 :=
  ripHeader ++ ripEntry { pfx := 0x0A000000, prefixLen := 8, metric }

/-- The router that has learned the route from 192.168.0.1 with the metric 2. -/
def exampleLearned : RipRouter := ripReceive ripRouterInit 0 0xC0A80001 (exampleResponse 1) 5

theorem ripReceive_replaces_exampleLearned :
    let s := ripReceive exampleLearned 0 0xC0A80002 (exampleResponse 4) 7
    let s₂ := exampleLearned.replace 0 0xC0A80002 7 (getRipEntry (exampleResponse 4) 4)
      (0x0A000000, 8) (0 : Fin ripDbSize)
    s = s₂ ∧ s₂.rip.db 0 ≠ exampleLearned.rip.db 0 ∧ (s₂.rip.db 0).metric = 5 := by
  intro s s₂
  have hnames : (getRipEntry (exampleResponse 4) 4).Names (0x0A000000, 8) :=
    ⟨by decide, by decide, by decide⟩
  obtain ⟨hrun, hne, -⟩ := ripReceive_replaces exampleLearned 0 0xC0A80002 7 (exampleResponse 4)
    [] [] (getRipEntry (exampleResponse 4) 4) (0x0A000000, 8) 0 (by decide +kernel) hnames
    (by decide +kernel) (by decide +kernel) (by decide +kernel)
  simp only [run_nil] at hrun hne
  exact ⟨hrun, hne, by decide +kernel⟩

/-- The worse metric from 192.168.0.2 replaces the better one in the database and in
    the RIB. -/
theorem not_ripReceive_better :
    ¬ ∀ (s : RipRouter) (iface : IfaceRef) (srcIp : UInt32) (now : UInt64) (payload : List UInt8)
      (e : RipEntry) (k : UInt32 × UInt8) (j : Fin ripDbSize),
      ripEntries payload = [e] → e.Names k → ripFind s.rip k.1 k.2 = some j →
      (s.rip.db j).state = ripRouteActive → (s.rip.db j).nextHop ≠ e.hop srcIp →
      (ripReceive s iface srcIp payload now).rip.db j ≠ s.rip.db j ∨
        (ripReceive s iface srcIp payload now).rt.rib ≠ s.rt.rib →
      e.metric.toNat + 1 < (s.rip.db j).metric.toNat := by
  intro h
  have hnames : (getRipEntry (exampleResponse 4) 4).Names (0x0A000000, 8) :=
    ⟨by decide, by decide, by decide⟩
  have hchanged : (ripReceive exampleLearned 0 0xC0A80002 (exampleResponse 4) 7).rip.db 0 ≠
      exampleLearned.rip.db 0 := by decide +kernel
  have hbetter := h exampleLearned 0 0xC0A80002 7 (exampleResponse 4)
    (getRipEntry (exampleResponse 4) 4) (0x0A000000, 8) (0 : Fin ripDbSize) (by decide +kernel) hnames
    (by decide +kernel) (by decide +kernel) (by decide +kernel) (.inl hchanged)
  exact absurd hbetter (by decide +kernel)

end FrameRunner
