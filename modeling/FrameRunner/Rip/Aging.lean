import FrameRunner.Lib.Sweep
import FrameRunner.Rip.Agreement
import FrameRunner.Rip.Replacement

/-!
# How old a RIP route can get (`protocols/rip.c`)

A route is refreshed by a response and goes by two sweeps: the timeout scan takes it out of the
RIB, the garbage collection out of the database. Both look at `last_update`. What holds between
the sweeps is `RipAged`, in terms of when the next ones come.

* `RipAged.receive`, `RipAged.timeout`, `RipAged.gc`: the database under the three calls.
* `RipCovered`: a RIP route of the RIB is an active entry of the database, also when the RIB has
  been full at some time.
* `RipUnheard`: nobody has said anything of a prefix since some time.
-/

namespace FrameRunner

open FrameRunner.Lib

/-- How old an active entry and any entry can get: an entry that a timeout scan just leaves is
    there until the next one, and in the database until the garbage collection after it. -/
def ripActiveAge : ℕ := 2 * ripTimeoutUs.toNat
def ripEntryAge : ℕ := 2 * ripTimeoutUs.toNat + ripGcUs.toNat

/-- `last_update` of a slot. -/
def ripStamp (state : RipState) (i : Fin ripDbSize) : ℕ := (state.db i).lastUpdate.toNat

/-- The database at the time `now`, when the next timeout scan comes at `timeout` and the next
    garbage collection at `gc`. -/
structure RipAged (now : UInt64) (timeout gc : ℕ) (state : RipState) : Prop where
  db : RipOk now state
  active : SweptBy (fun i => ripActive.used (state.db i) = true) (ripStamp state) ripActiveAge timeout
  used : SweptBy (fun i => (state.db i).valid = true) (ripStamp state) ripEntryAge gc

theorem ripAged_init {now : UInt64} {timeout gc : ℕ} : RipAged now timeout gc ripInit where
  db := ripOk_init now
  active := fun i hi => by cases hi
  used := fun i hi => by cases hi

theorem RipAged.mono {now now' : UInt64} {timeout gc : ℕ} {state : RipState}
    (h : RipAged now timeout gc state) (hle : now ≤ now') : RipAged now' timeout gc state :=
  ⟨h.db.mono hle, h.active, h.used⟩

/-! ## Receiving -/

/-- An entry of a response changes no slot, or the slot is refreshed. -/
theorem ripReceiveEntry_slot (iface : IfaceRef) (srcIp : UInt32) (now : UInt64) (s : RipRouter)
    (e : RipEntry) (j : Fin ripDbSize) :
    (ripReceiveEntry iface srcIp now s e).rip.db j = s.rip.db j ∨
      ((ripReceiveEntry iface srcIp now s e).rip.db j).lastUpdate = now := by
  rcases ripReceiveEntry_cases iface srcIp now s e with he | ⟨i, -, he⟩ | ⟨k, i, -, he⟩
  · exact .inl (by rw [he])
  all_goals
    rw [he]
    by_cases hji : j = i
    · subst hji
      exact .inr (by simp [RipRouter.retire, RipRouter.install, RipEntry.route])
    · exact .inl (Function.update_of_ne hji _ _)

/-- Slots that are kept or refreshed. -/
theorem SweptBy.keep_slots {now : UInt64} {bound next : ℕ} {state state' : RipState}
    (live : RipRouteInfo → Prop)
    (h : SweptBy (fun i => live (state.db i)) (ripStamp state) bound next)
    (hnext : next ≤ now.toNat + bound)
    (hstep : ∀ j, state'.db j = state.db j ∨ (state'.db j).lastUpdate = now) :
    SweptBy (fun i => live (state'.db i)) (ripStamp state') bound next := by
  refine h.keep hnext fun i hi => ?_
  unfold ripStamp
  rcases hstep i with he | he
  · rw [he] at hi ⊢
    exact .inl ⟨hi, rfl⟩
  · exact .inr (congrArg UInt64.toNat he)

theorem RipAged.receive {now : UInt64} {timeout gc : ℕ} {s : RipRouter}
    (h : RipAged now timeout gc s.rip) (htimeout : timeout ≤ now.toNat + ripTimeoutUs.toNat)
    (hgc : gc ≤ now.toNat + ripGcUs.toNat) (iface : IfaceRef) (srcIp : UInt32)
    (payload : List UInt8) : RipAged now timeout gc (ripReceive s iface srcIp payload now).rip := by
  have hactive : timeout ≤ now.toNat + ripActiveAge := by
    unfold ripActiveAge
    omega
  have hused : gc ≤ now.toNat + ripEntryAge := by
    unfold ripEntryAge
    omega
  refine run_invariant (fun s : RipRouter => RipAged now timeout gc s.rip) (fun s e hs => ?_)
    (ripEntries payload) s h
  have hslot := ripReceiveEntry_slot iface srcIp now s e
  exact ⟨hs.db.receiveEntry (UInt64.le_refl _) iface srcIp e,
    SweptBy.keep_slots (fun r => ripActive.used r = true) hs.active hactive hslot,
    SweptBy.keep_slots (fun r => r.valid = true) hs.used hused hslot⟩

/-! ## The scans -/

/-- What a scan does to a slot: it does not touch the key nor the time, and puts nothing in. -/
structure RipScanned (r r' : RipRouteInfo) : Prop where
  valid : r'.valid = true → r.valid = true
  pfx : r'.pfx = r.pfx
  prefixLen : r'.prefixLen = r.prefixLen
  lastUpdate : r'.lastUpdate = r.lastUpdate
  state : r'.state = r.state ∨ r'.state = ripRouteGc

theorem RipScanned.refl (r : RipRouteInfo) : RipScanned r r := ⟨id, rfl, rfl, rfl, .inl rfl⟩

theorem RipScanned.trans {r r' r'' : RipRouteInfo} (h : RipScanned r r') (h' : RipScanned r' r'') :
    RipScanned r r'' := by
  refine ⟨h.valid ∘ h'.valid, h'.pfx.trans h.pfx, h'.prefixLen.trans h.prefixLen,
    h'.lastUpdate.trans h.lastUpdate, ?_⟩
  rcases h'.state with hs | hs
  · rw [hs]
    exact h.state
  · exact .inr hs

/-- A scan makes no entry active. -/
theorem RipScanned.active {r r' : RipRouteInfo} (h : RipScanned r r')
    (hr : ripActive.used r' = true) : ripActive.used r = true := by
  simp only [ripActive, Bool.and_eq_true, beq_iff_eq] at hr ⊢
  refine ⟨h.valid hr.1, ?_⟩
  rcases h.state with hs | hs
  · rw [← hs]
    exact hr.2
  · rw [hs] at hr
    exact absurd hr.2 (by decide)

/-- So what holds of the entries between the sweeps holds after a scan. -/
theorem SweptBy.scanned {bound next : ℕ} {state state' : RipState}
    (live : RipRouteInfo → Prop) (h : SweptBy (fun i => live (state.db i)) (ripStamp state) bound next)
    (hscan : ∀ j, RipScanned (state.db j) (state'.db j))
    (hlive : ∀ {r r'}, RipScanned r r' → live r' → live r) :
    SweptBy (fun i => live (state'.db i)) (ripStamp state') bound next := by
  intro i hi
  have := h i (hlive (hscan i) hi)
  unfold ripStamp at this ⊢
  rw [(hscan i).lastUpdate]
  exact this

theorem ripTimeoutHandler_scanned (s : RipRouter) (now : UInt64) (j : Fin ripDbSize) :
    RipScanned (s.rip.db j) ((ripTimeoutHandler s now).1.rip.db j) := by
  refine Slots.forEach_invariant (f := ripTimeoutEntry now) (x := s)
    (fun s' : RipRouter => RipScanned (s.rip.db j) (s'.rip.db j)) (.refl _) fun i s' hs' => ?_
  refine hs'.trans ?_
  rcases ripTimeoutEntry_cases now s' i with ⟨he, -⟩ | ⟨-, -, he⟩
  · rw [he]
    exact .refl _
  · rw [he]
    by_cases hji : j = i
    · subst hji
      simp only [RipRouter.retire, Function.update_self]
      exact ⟨id, rfl, rfl, rfl, .inr rfl⟩
    · simp only [RipRouter.retire, Function.update_of_ne hji]
      exact .refl _

theorem ripGcHandler_scanned (s : RipRouter) (now : UInt64) (j : Fin ripDbSize) :
    RipScanned (s.rip.db j) ((ripGcHandler s now).1.rip.db j) := by
  refine Slots.forEach_invariant (f := ripGcEntry now) (x := s.rip)
    (fun state' : RipState => RipScanned (s.rip.db j) (state'.db j)) (.refl _) fun i state' hs' => ?_
  refine hs'.trans ?_
  rcases ripGcEntry_cases now state' i with he | ⟨hv, -, -, he⟩
  · rw [he]
    exact .refl _
  · rw [he]
    by_cases hji : j = i
    · subst hji
      simp only [Function.update_self]
      exact ⟨fun _ => hv, rfl, rfl, rfl, .inl rfl⟩
    · simp only [Function.update_of_ne hji]
      exact .refl _

/-- The entry is not one that the garbage collection takes. -/
def RipEntryCollected (now : UInt64) (r : RipRouteInfo) : Prop :=
  r.valid = true → r.state = ripRouteGc → now - r.lastUpdate ≤ ripTimeoutUs + ripGcUs

theorem ripGcEntry_collected (now : UInt64) (state : RipState) (i j : Fin ripDbSize)
    (h : j = i ∨ RipEntryCollected now (state.db j)) :
    RipEntryCollected now ((ripGcEntry now state i).db j) := by
  by_cases hji : j = i
  · subst hji
    intro hv hs
    unfold ripGcEntry at hv hs ⊢
    dsimp only at hv hs ⊢
    split at hv
    · split at hv
      · rename_i hcond hage
        simp only [hcond, hage, if_true]
      · -- the slot is collected, and in use no more
        simp only [Function.update_self] at hv
        cases hv
    · rename_i hcond
      rw [if_neg hcond] at hs
      rw [hv, hs] at hcond
      exact absurd rfl hcond
  · rcases ripGcEntry_cases now state i with he | ⟨-, -, -, he⟩
    · rw [he]
      exact h.resolve_left hji
    · rw [he]
      simp only [Function.update_of_ne hji]
      exact h.resolve_left hji

theorem ripGcHandler_collected (s : RipRouter) (now : UInt64) (j : Fin ripDbSize) :
    RipEntryCollected now ((ripGcHandler s now).1.rip.db j) := by
  refine Slots.forEach_induction (f := ripGcEntry now) (x := s.rip)
    (fun k (state' : RipState) => j.val < k → RipEntryCollected now (state'.db j))
    (fun hj => absurd hj (Nat.not_lt_zero _)) (fun i state' hs' hj => ?_) j.isLt
  refine ripGcEntry_collected now state' i j ?_
  by_cases hji : j = i
  · exact .inl hji
  · exact .inr (hs' (Slots.lt_of_lt_succ_of_ne hj hji))

/-- An entry that is not too old for a sweep. -/
theorem le_stamp_of_age {now t limit : UInt64} (hpast : t ≤ now) (hage : now - t ≤ limit) :
    now.toNat ≤ t.toNat + limit.toNat := by
  have hle : t.toNat ≤ now.toNat := hpast
  have hsub : (now - t).toNat = now.toNat - t.toNat := UInt64.toNat_sub_of_le _ _ hpast
  have hlimit : (now - t).toNat ≤ limit.toNat := hage
  omega

/-- The timeout scan at its time; the next one comes an interval later. -/
theorem RipAged.timeout {now : UInt64} {gc : ℕ} {s : RipRouter} (h : RipAged now now.toNat gc s.rip) :
    RipAged now (now.toNat + ripTimeoutUs.toNat) gc (ripTimeoutHandler s now).1.rip := by
  obtain ⟨hok, hfresh⟩ := h.db.timeout
  refine ⟨hok, SweptBy.sweep ripTimeoutUs.toNat (fun i hi => ?_) (by decide),
    SweptBy.scanned (fun r => r.valid = true) h.used (ripTimeoutHandler_scanned s now)
      RipScanned.valid⟩
  simp only [ripActive, Bool.and_eq_true, beq_iff_eq] at hi
  exact le_stamp_of_age (hok.entries i hi.1).past (hfresh i hi.1 hi.2)

/-- The garbage collection at its time. What it leaves is active, and goes by the next timeout
    scan, or was not old enough. -/
theorem RipAged.gc {now : UInt64} {timeout : ℕ} {s : RipRouter}
    (h : RipAged now timeout now.toNat s.rip) (hnow : now.toNat ≤ timeout) :
    RipAged now timeout (now.toNat + ripGcUs.toNat) (ripGcHandler s now).1.rip := by
  have hok := h.db.gc.1
  have hactive := SweptBy.scanned (fun r => ripActive.used r = true) h.active
    (ripGcHandler_scanned s now) RipScanned.active
  refine ⟨hok, hactive, SweptBy.sweep ripActiveAge (fun i hi => ?_) (by decide)⟩
  rcases (hok.entries i hi).phase with ⟨hs, -, -⟩ | ⟨hs, -⟩
  · refine hactive.age hnow ?_
    simp only [ripActive, Bool.and_eq_true, beq_iff_eq]
    exact ⟨hi, hs⟩
  · have hage := le_stamp_of_age (hok.entries i hi).past (ripGcHandler_collected s now i hi hs)
    have hsum : (ripTimeoutUs + ripGcUs).toNat ≤ ripActiveAge := by decide
    exact hage.trans (Nat.add_le_add_left hsum _)

/-! ## The RIB -/

/-- Every RIP route of the RIB is an active entry of the database. The converse fails when an
    entry is learned while the RIB is full. -/
structure RipCovered (s : RipRouter) : Prop where
  table : TableOk s.rt
  covered : ∀ k v, protoRoutes s.rt routeProtoRip k = some v → ripActive.lookup s.rip.db k = some v

theorem ripCovered_init : RipCovered ripRouterInit :=
  ⟨tableOk_init, fun k v h => by rw [ripSynced_init.agree] at h; exact h⟩

section
variable {s : RipRouter} {i : Fin ripDbSize} {r : RipRouteInfo} {t : UInt64}

theorem ripActive_lookup_retire (h : RipOk uint64Max s.rip) (hi : (s.rip.db i).valid = true)
    (hs : r.state = ripRouteGc) : ripActive.lookup (s.retire i r).rip.db =
      Function.update (ripActive.lookup s.rip.db) ((s.rip.db i).pfx, (s.rip.db i).prefixLen) none := by
  have hunused : ripActive.used r = false := by
    simp only [ripActive, hs]
    rw [Bool.and_eq_false_iff]
    exact .inr (by decide)
  exact (ripActive_distinct h.distinct).lookup_drop hunused
    (ripActive_freshBut (h.distinct.freshBut hi rfl)) fun _ => rfl

theorem ripActive_lookup_install (h : RipOk uint64Max s.rip) {e : RipEntry} {k : UInt32 × UInt8}
    (hi : RipInstalls s.rip e k i) (iface : IfaceRef) (srcIp : UInt32) :
    ripActive.lookup (s.install i (e.route iface srcIp t k)).rip.db =
      Function.update (ripActive.lookup s.rip.db) k
        (some ⟨e.hop srcIp, some iface, ripCandidateMetric e.metric⟩) := by
  obtain ⟨hfresh, hold⟩ := Keyed.slotFor_eq_some h.distinct hi.slot
  exact (ripActive_distinct h.distinct).lookup_store rfl rfl (ripActive_freshBut hfresh)
    fun hu => hold (ripActive_used hu)

theorem RipCovered.retire (h : RipCovered s) (hdb : RipOk uint64Max s.rip)
    (hi : (s.rip.db i).valid = true) (hp : r.pfx = (s.rip.db i).pfx)
    (hl : r.prefixLen = (s.rip.db i).prefixLen) (hs : r.state = ripRouteGc) :
    RipCovered (s.retire i r) := by
  refine ⟨h.table.delete .., fun k v hk => ?_⟩
  have he := hdb.entries i hi
  have hroutes := h.table.rib.protoRoutes_delete routeProtoRip (s.rip.db i).pfx he.prefixLen
    (by decide)
  rw [he.normalized] at hroutes
  have hk : protoRoutes (routeTableDelete s.rt r.pfx r.prefixLen routeProtoRip).1 routeProtoRip k =
    some v := hk
  rw [hp, hl, hroutes] at hk
  rw [ripActive_lookup_retire hdb hi hs]
  by_cases hkey : k = ((s.rip.db i).pfx, (s.rip.db i).prefixLen)
  · rw [hkey, Function.update_self] at hk
    cases hk
  · rw [Function.update_of_ne hkey] at hk ⊢
    exact h.covered k v hk

theorem RipCovered.install (h : RipCovered s) (hdb : RipOk uint64Max s.rip) {e : RipEntry}
    {k : UInt32 × UInt8} (hi : RipInstalls s.rip e k i) (iface : IfaceRef) (srcIp : UInt32) :
    RipCovered (s.install i (e.route iface srcIp t k)) := by
  refine ⟨h.table.add .., fun k' v hk' => ?_⟩
  have hadd := h.table.rib.protoRoutes_add routeProtoRip k.1 (e.hop srcIp)
    (ripCandidateMetric e.metric) (Option.isSome_some (a := iface)) hi.names.prefixLen (by decide)
  rw [hi.names.normalized] at hadd
  have hk' : protoRoutes (routeTableAdd s.rt k.1 k.2 (e.hop srcIp) (some iface)
    (ripCandidateMetric e.metric) routeProtoRip).1 routeProtoRip k' = some v := hk'
  rw [ripActive_lookup_install hdb hi]
  rcases hadd with ⟨-, hroutes⟩ | ⟨hfull, hnone, -⟩
  · rw [hroutes] at hk'
    by_cases hkey : k' = k
    · subst hkey
      rw [Function.update_self] at hk' ⊢
      exact hk'
    · rw [Function.update_of_ne hkey] at hk' ⊢
      exact h.covered k' v hk'
  · -- the RIB is full: the route is in the database only
    rw [hfull] at hk'
    have hkey : k' ≠ k := by
      intro hkey
      rw [hkey] at hk'
      exact absurd (hnone.symm.trans hk') (by simp)
    rw [Function.update_of_ne hkey]
    exact h.covered k' v hk'

theorem RipCovered.receive (h : RipCovered s) (hdb : RipOk uint64Max s.rip) (iface : IfaceRef)
    (srcIp : UInt32) (payload : List UInt8) : RipCovered (ripReceive s iface srcIp payload t) := by
  refine (run_invariant (fun s : RipRouter => RipOk uint64Max s.rip ∧ RipCovered s)
    (fun s e hs => ⟨hs.1.receiveEntry (le_uint64Max t) iface srcIp e, ?_⟩)
    (ripEntries payload) s ⟨hdb, h⟩).2
  rcases ripReceiveEntry_cases iface srcIp t s e with he | ⟨i, hv, he⟩ | ⟨k, i, hi, he⟩
  · rw [he]
    exact hs.2
  · rw [he]
    exact hs.2.retire hs.1 hv rfl rfl rfl
  · rw [he]
    exact hs.2.install hs.1 hi iface srcIp

theorem RipCovered.timeout (h : RipCovered s) (hdb : RipOk t s.rip) :
    RipCovered (ripTimeoutHandler s t).1 := by
  refine (Slots.forEach_invariant (f := ripTimeoutEntry t) (x := s)
    (fun s => RipOk t s.rip ∧ RipCovered s) ⟨hdb, h⟩
    fun i s hs => ⟨hs.1.timeoutEntry i, ?_⟩).2
  rcases ripTimeoutEntry_cases t s i with ⟨he, -⟩ | ⟨hv, -, he⟩
  · rw [he]
    exact hs.2
  · rw [he]
    exact hs.2.retire (hs.1.mono (le_uint64Max t)) hv rfl rfl rfl

theorem RipCovered.gc (h : RipCovered s) : RipCovered (ripGcHandler s t).1 := by
  refine ⟨h.table, fun k v hk => ?_⟩
  have hlookup : ripActive.lookup (ripGcHandler s t).1.rip.db = ripActive.lookup s.rip.db :=
    Slots.forEach_invariant (f := ripGcEntry t) (x := s.rip)
      (fun state => ripActive.lookup state.db = ripActive.lookup s.rip.db) rfl
      fun i state hstate => (ripActive_gcEntry t state i).trans hstate
  rw [hlookup]
  exact h.covered k v hk

theorem RipCovered.other (h : RipCovered s) {op : RouteOp} (hop : op.proto ≠ some routeProtoRip) :
    RipCovered ⟨s.rip, routeOpStep s.rt op⟩ :=
  ⟨h.table.step op, fun k v hk => h.covered k v (by
    rw [← hk]
    exact (congrFun (h.table.rib.protoRoutes_other hop) k).symm)⟩

end

/-! ## Silence -/

/-- Nobody has said anything of the prefix since `since`. -/
def RipUnheard (k : UInt32 × UInt8) (since : ℕ) (state : RipState) : Prop :=
  ∀ i, (state.db i).valid = true → ((state.db i).pfx, (state.db i).prefixLen) = k →
    ripStamp state i ≤ since

/-- Until now nobody has said anything later. -/
theorem RipOk.unheard {now : UInt64} {state : RipState} (h : RipOk now state) (k : UInt32 × UInt8) :
    RipUnheard k now.toNat state :=
  fun i hi _ => (h.entries i hi).past

/-- A response that does not name the prefix. -/
theorem ripReceiveEntry_unnamed {iface : IfaceRef} {srcIp : UInt32} {now : UInt64} {s : RipRouter}
    {e : RipEntry} {j : Fin ripDbSize}
    (hn : ¬ e.Names (((ripReceiveEntry iface srcIp now s e).rip.db j).pfx,
      ((ripReceiveEntry iface srcIp now s e).rip.db j).prefixLen)) :
    (ripReceiveEntry iface srcIp now s e).rip.db j = s.rip.db j := by
  rcases ripReceiveEntry_cases iface srcIp now s e with he | ⟨i, hi, he⟩ | ⟨k, i, hi, he⟩
  · rw [he]
  · by_cases hji : j = i
    · subst hji
      refine ripReceiveEntry_other hi ?_
      rw [he] at hn
      simpa only [RipRouter.retire, Function.update_self] using hn
    · rw [he]
      exact Function.update_of_ne hji _ _
  · rw [he] at hn ⊢
    by_cases hji : j = i
    · subst hji
      simp only [RipRouter.install, Function.update_self] at hn
      exact absurd hi.names hn
    · exact Function.update_of_ne hji _ _

theorem RipUnheard.receive {k : UInt32 × UInt8} {since : ℕ} {s : RipRouter}
    (h : RipUnheard k since s.rip) (iface : IfaceRef) (srcIp : UInt32) {payload : List UInt8}
    (hn : ∀ e ∈ ripEntries payload, ¬ e.Names k) (now : UInt64) :
    RipUnheard k since (ripReceive s iface srcIp payload now).rip := by
  refine run_invariant_mem (fun s : RipRouter => RipUnheard k since s.rip)
    (fun s e he hs j hj hkey => ?_) h
  have hsame := ripReceiveEntry_unnamed (by rw [hkey]; exact hn e he)
  unfold ripStamp
  rw [hsame] at hj hkey ⊢
  exact hs j hj hkey

theorem RipUnheard.scanned {k : UInt32 × UInt8} {since : ℕ} {state state' : RipState}
    (h : RipUnheard k since state) (hscan : ∀ j, RipScanned (state.db j) (state'.db j)) :
    RipUnheard k since state' := by
  intro j hj hkey
  have hs := hscan j
  rw [hs.pfx, hs.prefixLen] at hkey
  unfold ripStamp
  rw [hs.lastUpdate]
  exact h j (hs.valid hj) hkey

end FrameRunner
