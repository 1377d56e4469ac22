import FrameRunner.Lib.Slots

/-!
# Queues in slot arrays

A C array may serve as a waiting room: a record goes into the first free slot, and later all
records with some key are taken out, the lowest slot first, which leaves holes that are
filled again. Each record that is accepted gets a ticket, its number among the accepted
ones, so that it can be followed.

* `accounted_step`: nothing is lost and nothing comes twice. What has been handed over and
  what waits are together what has been accepted, `Accounted.waiting_or_handed` for one
  record.
* `inOrder_step`: the records with a key stay in the order of their tickets exactly when
  each of them is put above the others that wait.
-/

namespace FrameRunner.Lib

namespace SlotQueue

variable {n : ℕ} {α κ : Type*}

/-! ## Slots that hold something -/

/-- The records, lowest slot first. -/
def items (s : Slots n (Option α)) : List α := (List.finRange n).filterMap s

/-- The first free slot. -/
def free (s : Slots n (Option α)) : Option (Fin n) := Fin.find? fun i => (s i).isNone

section
variable {s : Slots n (Option α)} {i j : Fin n} {x : α}

theorem mem_items : x ∈ items s ↔ ∃ i, s i = some x := by
  simp [items]

theorem items_none : items (fun _ : Fin n => (none : Option α)) = [] := by
  simp [items]

theorem eq_none_of_free (h : free s = some i) : s i = none := by
  have hi := (Fin.find?_eq_some_iff.mp h).1
  simpa using hi

/-- A record that is put into a free slot stands between those below and those above. -/
theorem items_update (h : s i = none) (x : α) :
    ∃ below above, items s = below ++ above ∧
      items (Function.update s i (some x)) = below ++ x :: above ∧
      (∀ y, y ∈ above ↔ ∃ j, i < j ∧ s j = some y) := by
  obtain ⟨js, ks, hsplit⟩ := List.append_of_mem (List.mem_finRange i)
  have hsorted := List.pairwise_lt_finRange n
  rw [hsplit, List.pairwise_append, List.pairwise_cons] at hsorted
  obtain ⟨-, ⟨hks, -⟩, hjs⟩ := hsorted
  have hupdate : ∀ l : List (Fin n), i ∉ l →
      l.filterMap (Function.update s i (some x)) = l.filterMap s := fun l hl =>
    List.filterMap_congr fun j hj => Function.update_of_ne (ne_of_mem_of_not_mem hj hl) _ _
  have hbelow : i ∉ js := fun hi => lt_irrefl i (hjs i hi i List.mem_cons_self)
  have habove : i ∉ ks := fun hi => lt_irrefl i (hks i hi)
  refine ⟨js.filterMap s, ks.filterMap s, ?_, ?_, ?_⟩
  · rw [items, hsplit, List.filterMap_append, List.filterMap_cons_none h]
  · rw [items, hsplit, List.filterMap_append, hupdate js hbelow,
      List.filterMap_cons_some (Function.update_self i (some x) s), hupdate ks habove]
  · intro y
    rw [List.mem_filterMap]
    constructor
    · rintro ⟨j, hj, hy⟩
      exact ⟨j, hks j hj, hy⟩
    · rintro ⟨j, hj, hy⟩
      have hmem : j ∈ js ++ i :: ks := hsplit ▸ List.mem_finRange j
      refine ⟨j, ?_, hy⟩
      rcases List.mem_append.mp hmem with hmem | hmem
      · exact absurd (hjs j hmem i List.mem_cons_self) (lt_asymm hj)
      · exact (List.mem_cons.mp hmem).resolve_left (ne_of_gt hj)

theorem items_filter (p : α → Bool) :
    items (fun i => (s i).filter p) = (items s).filter p := by
  unfold items
  induction List.finRange n with
  | nil => rfl
  | cons i is ih =>
    cases hi : s i with
    | none => rw [List.filterMap_cons_none (by rw [hi]; rfl), List.filterMap_cons_none hi, ih]
    | some y =>
      rw [List.filterMap_cons_some hi]
      cases hp : p y with
      | true =>
        rw [List.filter_cons_of_pos hp, ← ih]
        exact List.filterMap_cons_some (by rw [hi]; exact Option.filter_some_pos hp)
      | false =>
        rw [List.filter_cons_of_neg (by simp [hp]), ← ih]
        exact List.filterMap_cons_none (by rw [hi]; simp [Option.filter, hp])

end

/-! ## The machine -/

/-- The waiting room: what waits, what was accepted, and what was handed over, the latter in
    its order; what was accepted has its number as its ticket. -/
structure State (n : ℕ) (α : Type*) where
  slots : Slots n (Option (α × ℕ))
  accepted : List α
  handed : List (α × ℕ)

/-- A record comes in, or those with a key are taken out. -/
inductive Op (α κ : Type*) where
  | push (x : α)
  | drain (k : κ)

variable [DecidableEq κ] (key : α → κ)

def step (s : State n α) : Op α κ → State n α
  | .push x =>
    match free s.slots with
    | some i =>
      { s with
        slots := Function.update s.slots i (some (x, s.accepted.length))
        accepted := s.accepted ++ [x] }
    | none => s
  | .drain k =>
    { s with
      slots := fun i => (s.slots i).filter fun y => key y.1 ≠ k
      handed := s.handed ++ (items s.slots).filter fun y => key y.1 = k }

/-! ## Nothing is lost, nothing comes twice -/

/-- What was accepted was handed over or waits. -/
def Accounted (s : State n α) : Prop := (s.handed ++ items s.slots).Perm s.accepted.zipIdx

theorem accounted_step {s : State n α} (h : Accounted s) (op : Op α κ) :
    Accounted (step key s op) := by
  cases op with
  | push x =>
    show Accounted (match free s.slots with | some i => _ | none => _)
    cases hfree : free s.slots with
    | none => exact h
    | some i =>
      obtain ⟨below, above, hitems, hpushed, -⟩ :=
        items_update (eq_none_of_free hfree) (x, s.accepted.length)
      have haccepted : (s.accepted ++ [x]).zipIdx =
          s.accepted.zipIdx ++ [(x, s.accepted.length)] := by
        rw [List.zipIdx_append, List.zipIdx_singleton, Nat.zero_add]
      have hbefore : (s.handed ++ (below ++ above)).Perm s.accepted.zipIdx := hitems ▸ h
      show (s.handed ++ items (Function.update s.slots i _)).Perm (s.accepted ++ [x]).zipIdx
      rw [hpushed, haccepted, ← List.append_assoc]
      rw [← List.append_assoc] at hbefore
      exact List.perm_middle.trans ((hbefore.cons _).trans (List.perm_append_singleton _ _).symm)
  | drain k =>
    show (s.handed ++ (items s.slots).filter _ ++ items fun i => (s.slots i).filter _).Perm _
    rw [items_filter, List.append_assoc]
    refine (List.Perm.append_left s.handed ?_).trans h
    have hsplit := List.filter_append_perm (fun y : α × ℕ => decide (key y.1 = k)) (items s.slots)
    simpa only [decide_not] using hsplit

/-- A ticket that no other record has picks its record. -/
theorem filter_ticket {l : List (α × ℕ)} (hl : l.Pairwise fun y z => y.2 ≠ z.2) {x : α} {k : ℕ}
    (hx : (x, k) ∈ l) : l.filter (fun y => y.2 == k) = [(x, k)] := by
  obtain ⟨ys, zs, rfl⟩ := List.append_of_mem hx
  obtain ⟨-, hzs, hys⟩ := List.pairwise_append.mp hl
  have hbefore : ys.filter (fun y => y.2 == k) = [] :=
    List.filter_eq_nil_iff.mpr fun y hy hk =>
      hys y hy (x, k) List.mem_cons_self (beq_iff_eq.mp hk)
  have hafter : zs.filter (fun y => y.2 == k) = [] :=
    List.filter_eq_nil_iff.mpr fun y hy hk =>
      (List.pairwise_cons.mp hzs).1 y hy (beq_iff_eq.mp hk).symm
  rw [List.filter_append, hbefore, List.nil_append,
    List.filter_cons_of_pos (by exact beq_self_eq_true k), hafter]

namespace Accounted

variable {s : State n α} {x : α} {k : ℕ}

theorem accepted_iff (h : Accounted s) :
    s.accepted[k]? = some x ↔ (x, k) ∈ s.handed ∨ ∃ i, s.slots i = some (x, k) := by
  have hmem := List.Perm.mem_iff h (a := (x, k))
  rw [List.mem_append, mem_items, List.mem_zipIdx_iff_getElem?] at hmem
  exact hmem.symm

/-- The tickets are all different. -/
theorem pairwise (h : Accounted s) :
    (s.handed ++ items s.slots).Pairwise fun y z => y.2 ≠ z.2 := by
  have hnodup : ((s.handed ++ items s.slots).map Prod.snd).Nodup := by
    rw [(List.Perm.map Prod.snd h).nodup_iff, List.zipIdx_map_snd]
    exact List.nodup_range'
  rwa [List.Nodup, List.pairwise_map] at hnodup

/-- No ticket waits in two slots. -/
theorem slot_unique (h : Accounted s) {i j : Fin n} {y z : α} (hi : s.slots i = some (y, k))
    (hj : s.slots j = some (z, k)) : i = j := by
  have hitems := (List.pairwise_append.mp h.pairwise).2.1
  rw [items, List.pairwise_filterMap] at hitems
  by_contra hne
  have hsymm : Std.Symm fun i j => ∀ y, s.slots i = some y → ∀ z, s.slots j = some z → y.2 ≠ z.2 :=
    ⟨fun i j hij y hy z hz => (hij z hz y hy).symm⟩
  exact hitems.forall (List.mem_finRange i) (List.mem_finRange j) hne _ hi _ hj rfl

/-- A ticket that waits was not handed over. -/
theorem not_handed (h : Accounted s) {i : Fin n} {y z : α} (hi : s.slots i = some (y, k)) :
    (z, k) ∉ s.handed := fun hz =>
  (List.pairwise_append.mp h.pairwise).2.2 _ hz _ (mem_items.mpr ⟨i, hi⟩) rfl

/-- Each accepted record waits in one slot, or was handed over once. -/
theorem waiting_or_handed (h : Accounted s) (hk : s.accepted[k]? = some x) :
    ((∃ i, s.slots i = some (x, k) ∧ ∀ j y, s.slots j = some (y, k) → j = i) ∧
      s.handed.filter (fun y => y.2 == k) = []) ∨
    ((∀ i y, s.slots i ≠ some (y, k)) ∧ s.handed.filter (fun y => y.2 == k) = [(x, k)]) := by
  rcases h.accepted_iff.mp hk with hhanded | ⟨i, hi⟩
  · refine .inr ⟨fun i y hi => h.not_handed hi hhanded, ?_⟩
    exact filter_ticket (List.pairwise_append.mp h.pairwise).1 hhanded
  · refine .inl ⟨⟨i, hi, fun j y hj => h.slot_unique hj hi⟩, ?_⟩
    rw [List.filter_eq_nil_iff]
    rintro ⟨y, k'⟩ hy hkey
    obtain rfl := beq_iff_eq.mp hkey
    exact h.not_handed hi hy

end Accounted

/-! ## Order -/

/-- The tickets with this key, those that were handed over before those that wait. -/
def trail (k : κ) (s : State n α) : List ℕ :=
  ((s.handed ++ items s.slots).filter fun y => key y.1 = k).map Prod.snd

/-- In the order in which they were accepted. -/
def InOrder (k : κ) (s : State n α) : Prop := (trail key k s).Pairwise (· < ·)

/-- A record with this key that comes in is put above the others that wait. -/
def PutAbove (k : κ) (s : State n α) : Op α κ → Prop
  | .push x => key x = k → ∀ i, free s.slots = some i →
      ∀ j y, s.slots j = some y → key y.1 = k → j < i
  | .drain _ => True

/-- Tickets are numbers of accepted records. -/
theorem trail_lt {s : State n α} (h : Accounted s) (k : κ) :
    ∀ m ∈ trail key k s, m < s.accepted.length := by
  intro m hm
  obtain ⟨⟨x, m'⟩, hy, rfl⟩ := List.mem_map.mp hm
  have hmem := (List.Perm.mem_iff h).mp (List.mem_filter.mp hy).1
  exact (List.mem_zipIdx_iff_getElem?.mp hmem |> List.getElem?_eq_some_iff.mp).1

/-- A greatest number in a list is in order exactly at its end. -/
theorem pairwise_lt_middle_iff {xs ys : List ℕ} {m : ℕ} (h : ∀ x ∈ xs ++ ys, x < m) :
    (xs ++ m :: ys).Pairwise (· < ·) ↔ (xs ++ ys).Pairwise (· < ·) ∧ ys = [] := by
  constructor
  · intro hsorted
    obtain ⟨hxs, hys, -⟩ := List.pairwise_append.mp hsorted
    have hnil : ys = [] := List.eq_nil_iff_forall_not_mem.mpr fun y hy =>
      lt_asymm ((List.pairwise_cons.mp hys).1 y hy) (h y (List.mem_append_right _ hy))
    exact ⟨by rw [hnil, List.append_nil]; exact hxs, hnil⟩
  · rintro ⟨hsorted, rfl⟩
    rw [List.append_nil] at hsorted h
    rw [List.pairwise_append]
    exact ⟨hsorted, List.pairwise_singleton _ _, fun x hx y hy => by
      rw [List.mem_singleton.mp hy]
      exact h x hx⟩

section
variable {key} {s : State n α}

/-- A drain only moves records from one part of the trail to the other. -/
theorem trail_drain (k k' : κ) : trail key k (step key s (.drain k')) = trail key k s := by
  have hmoved : ∀ l : List (α × ℕ),
      (l.filter (fun y => decide (key y.1 = k')) ++ l.filter fun y => decide (key y.1 ≠ k')).filter
        (fun y => decide (key y.1 = k)) = l.filter fun y => decide (key y.1 = k) := by
    intro l
    rw [List.filter_append, List.filter_filter, List.filter_filter]
    by_cases hk : k = k'
    · subst hk
      have hnone : l.filter (fun y => decide (key y.1 = k) && decide (key y.1 ≠ k)) = [] := by
        simp
      simp only [Bool.and_self, hnone, List.append_nil]
    · have hnone : l.filter (fun y => decide (key y.1 = k) && decide (key y.1 = k')) = [] := by
        rw [List.filter_eq_nil_iff]
        intro y _ hy
        simp only [Bool.and_eq_true, decide_eq_true_eq] at hy
        exact hk (hy.1.symm.trans hy.2)
      have hall : ∀ y ∈ l, (decide (key y.1 = k) && decide (key y.1 ≠ k')) =
          decide (key y.1 = k) := by
        intro y _
        by_cases hy : key y.1 = k
        · simp [hy, hk]
        · simp [hy]
      rw [hnone, List.nil_append, List.filter_congr hall]
  show ((s.handed ++ _ ++ items fun i => (s.slots i).filter _).filter _).map _ = _
  rw [items_filter, List.append_assoc, List.filter_append, hmoved, ← List.filter_append]
  rfl

/-- Where a record that comes in stands in the trail. -/
theorem trail_push {i : Fin n} (hfree : free s.slots = some i) (k : κ) (x : α) :
    ∃ before after, trail key k s = before ++ after ∧
      trail key k (step key s (.push x)) =
        before ++ (if key x = k then [s.accepted.length] else []) ++ after ∧
      (after = [] ↔ ∀ j y, s.slots j = some y → key y.1 = k → j < i) := by
  have hempty := eq_none_of_free hfree
  obtain ⟨below, above, hitems, hpushed, habove⟩ := items_update hempty (x, s.accepted.length)
  refine ⟨((s.handed ++ below).filter fun y => key y.1 = k).map Prod.snd,
    (above.filter fun y => key y.1 = k).map Prod.snd, ?_, ?_, ?_⟩
  · rw [trail, hitems, ← List.append_assoc, List.filter_append, List.map_append]
  · rw [step, hfree]
    show ((s.handed ++ items (Function.update s.slots i _)).filter _).map _ = _
    rw [hpushed, ← List.append_assoc, List.filter_append, List.map_append, List.append_assoc]
    congr 1
    by_cases hx : key x = k
    · rw [List.filter_cons_of_pos (by simp [hx]), if_pos hx]
      rfl
    · rw [List.filter_cons_of_neg (by simp [hx]), if_neg hx]
      rfl
  · rw [List.map_eq_nil_iff, List.filter_eq_nil_iff]
    constructor
    · intro hnone j y hj hy
      by_contra hle
      have hne : i ≠ j := by
        rintro rfl
        rw [hempty] at hj
        cases hj
      have hlt : i < j := lt_of_le_of_ne (not_lt.mp hle) hne
      exact hnone y ((habove y).mpr ⟨j, hlt, hj⟩) (decide_eq_true hy)
    · intro hbelow y hy hk
      obtain ⟨j, hlt, hj⟩ := (habove y).mp hy
      exact lt_asymm hlt (hbelow j y hj (of_decide_eq_true hk))

theorem inOrder_step (h : Accounted s) (k : κ) (op : Op α κ) :
    InOrder key k (step key s op) ↔ InOrder key k s ∧ PutAbove key k s op := by
  cases op with
  | push x =>
    cases hfree : free s.slots with
    | none =>
      have hsame : step key s (.push x) = s := by rw [step, hfree]
      have habove : PutAbove key k s (.push x) := fun _ i hi => by rw [hfree] at hi; cases hi
      rw [hsame, and_iff_left habove]
    | some i =>
      obtain ⟨before, after, hold, hnew, hafter⟩ := @trail_push _ _ _ _ key _ _ hfree k x
      have hlt := trail_lt key h k
      rw [hold] at hlt
      by_cases hx : key x = k
      · have habove : PutAbove key k s (.push x) ↔ after = [] := by
          rw [hafter]
          refine ⟨fun h => h hx i hfree, fun h _ i' hi' => ?_⟩
          rw [hfree] at hi'
          cases hi'
          exact h
        rw [InOrder, hnew, if_pos hx, habove, InOrder, hold, List.append_assoc]
        exact pairwise_lt_middle_iff hlt
      · have habove : PutAbove key k s (.push x) := fun hk => absurd hk hx
        rw [InOrder, hnew, if_neg hx, List.append_nil, ← hold, ← InOrder, and_iff_left habove]
  | drain k' =>
    rw [InOrder, trail_drain, ← InOrder, PutAbove, and_true]

/-- After a drain all tickets of the trail are handed over. -/
theorem trail_handed (k : κ) : trail key k s =
    ((step key s (.drain k)).handed.filter fun y => key y.1 = k).map Prod.snd := by
  show _ = ((s.handed ++ _).filter _).map _
  rw [trail, List.filter_append, List.filter_append, List.filter_filter]
  simp only [Bool.and_self]

/-- What was handed over is the first part of the trail. -/
theorem handed_sublist (k : κ) :
    ((s.handed.filter fun y => key y.1 = k).map Prod.snd).Sublist (trail key k s) := by
  rw [trail, List.filter_append, List.map_append]
  exact List.sublist_append_left _ _

end

end SlotQueue

end FrameRunner.Lib
