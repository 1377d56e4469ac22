import FrameRunner.Lib.Run
import FrameRunner.Network.PacketMemory

/-!
# The window of a packet (`network/packet.c`)

After `packet_create` a packet is given a length and bytes, and then headers are prepended
and stripped in any order. The visible bytes are a window on the allocation that moves both
ways.

Main result:

* `packetWindow_run`: after any such calls the window lies within the allocation; what a
  failed call, a prepend, a stack of headers and a clone do from there.
-/

namespace FrameRunner

open FrameRunner.Lib FrameRunner.Lib.Memory

/-- A call that moves the window, with any header and any length. -/
inductive WindowCall where
  | prepend (header : ℤ → UInt8) (headerLen : UInt64)
  | strip (headerLen : UInt64)

/-- The packet after a call, and its result. -/
def windowAccess (p : RawPacket) : WindowCall → RawPacket × ℤ
  | .prepend header headerLen => p.prepend header headerLen
  | .strip headerLen => p.strip headerLen

/-- The packet after one more call. -/
def windowCall (p : RawPacket) (c : WindowCall) : RawPacket := (windowAccess p c).1

namespace RawPacket

/-! ## Stacks of headers -/

/-- `packet_prepend` of some headers, the first one first, if all succeed. -/
def prependAll (p : RawPacket) : List ((ℤ → UInt8) × UInt64) → Option RawPacket
  | [] => some p
  | (header, headerLen) :: rest =>
    if (p.prepend header headerLen).2 = 0 then (p.prepend header headerLen).1.prependAll rest
    else none

/-- `packet_strip` of some lengths, the first one first, if all succeed: the packet and the
    bytes that each call leaves before `data`. -/
def stripAll (p : RawPacket) : List UInt64 → Option (RawPacket × List (List UInt8))
  | [] => some (p, [])
  | headerLen :: rest =>
    if (p.strip headerLen).2 = 0 then
      ((p.strip headerLen).1.stripAll rest).map fun (q, headers) =>
        (q, (p.strip headerLen).1.header headerLen :: headers)
    else none

/-- One strip more at the end. -/
theorem stripAll_concat {q : RawPacket} {n : UInt64} (hok : (q.strip n).2 = 0) (ns : List UInt64) :
    ∀ {p : RawPacket} {headers : List (List UInt8)}, p.stripAll ns = some (q, headers) →
      p.stripAll (ns ++ [n]) = some ((q.strip n).1, headers ++ [(q.strip n).1.header n]) := by
  induction ns with
  | nil =>
    intro p headers h
    cases h
    rw [List.nil_append, stripAll, if_pos hok]
    rfl
  | cons m ns ih =>
    intro p headers h
    unfold stripAll at h
    split at h
    · rename_i hm
      obtain ⟨⟨q', rest⟩, hrest, he⟩ := Option.map_eq_some_iff.mp h
      obtain ⟨rfl, rfl⟩ := Prod.mk.inj he
      rw [List.cons_append, stripAll, if_pos hm, ih hrest]
      rfl
    · cases h

/-- Headers come off again in the reverse order, each as it went on. -/
theorem Ok.stripAll_prependAll {q : RawPacket} (headers : List ((ℤ → UInt8) × UInt64)) :
    ∀ {p : RawPacket}, p.Ok → p.prependAll headers = some q →
      ∃ r, q.stripAll (headers.reverse.map Prod.snd) =
          some (r, headers.reverse.map fun h => read h.1 0 h.2.toNat) ∧
        r.visible = p.visible := by
  induction headers with
  | nil =>
    intro p _ h
    cases h
    exact ⟨_, rfl, rfl⟩
  | cons head rest ih =>
    obtain ⟨header, n⟩ := head
    intro p hp h
    unfold prependAll at h
    split at h
    · rename_i hok
      obtain ⟨r, hstrip, hvisible⟩ := ih (hp.prepend header n) h
      rw [hp.visible_prepend hok] at hvisible
      have hlen : (read header 0 n.toNat).length = n.toNat := length_read
      -- the header that went on first is the next to come off
      have hroom : n.toNat ≤ r.len.toNat := by
        rw [← r.length_visible, hvisible, List.length_append, hlen]
        exact Nat.le_add_right ..
      have hlast : (r.strip n).2 = 0 := by
        rcases r.strip_cases n with ⟨hshort, -⟩ | ⟨-, -, he⟩
        · exact absurd hshort (Nat.not_lt.mpr hroom)
        · rw [he]
      obtain ⟨hdrop, htake⟩ := bytes_strip hlast
      rw [hvisible, List.drop_left' hlen] at hdrop
      rw [hvisible, List.take_left' hlen] at htake
      refine ⟨(r.strip n).1, ?_, hdrop⟩
      rw [List.reverse_cons, List.map_append, List.map_append]
      have hconcat := stripAll_concat hlast _ hstrip
      rwa [htake] at hconcat
    · cases h

/-! ## Runs -/

theorem Ok.windowAccess {p : RawPacket} (h : p.Ok) (c : WindowCall) :
    (windowCall p c).Ok ∧ (windowCall p c).capacity = p.capacity ∧
      ((windowAccess p c).2 = 0 ∨ windowAccess p c = (p, -1)) := by
  cases c with
  | prepend header n =>
    refine ⟨h.prepend header n, ?_⟩
    show (p.prepend header n).1.capacity = _ ∧ ((p.prepend header n).2 = 0 ∨ p.prepend header n = _)
    rcases h.prepend_cases header n with ⟨-, he⟩ | ⟨-, -, he⟩
    · rw [he]
      exact ⟨rfl, .inr rfl⟩
    · rw [he]
      exact ⟨rfl, .inl rfl⟩
  | strip n =>
    refine ⟨h.strip n, ?_⟩
    show (p.strip n).1.capacity = _ ∧ ((p.strip n).2 = 0 ∨ p.strip n = _)
    rcases p.strip_cases n with ⟨-, he⟩ | ⟨-, -, he⟩
    · rw [he]
      exact ⟨rfl, .inr rfl⟩
    · rw [he]
      exact ⟨rfl, .inl rfl⟩

/-- What holds of the window of a packet with this capacity, and of the calls from there. -/
structure Window (p : RawPacket) (capacity : UInt64) : Prop where
  inside : 0 ≤ p.data ∧ p.data + p.len.toNat ≤ headroom.toNat + capacity.toNat
  view : p.validateView 0 0 = 0
  /-- a failed call changes nothing -/
  failed : ∀ c, (windowAccess p c).2 = 0 ∨ windowAccess p c = (p, -1)
  /-- a prepend writes its header, and within the allocation -/
  writes : ∀ header n, (p.prepend header n).2 = 0 → ∃ start : ℤ, 0 ≤ start ∧
    start + n.toNat ≤ headroom.toNat + capacity.toNat ∧
    (p.prepend header n).1.mem = write p.mem start (read header 0 n.toNat)
  /-- a stack of headers comes off as it went on -/
  stack : ∀ headers q, p.prependAll headers = some q →
    ∃ r, q.stripAll (headers.reverse.map Prod.snd) =
        some (r, headers.reverse.map fun h => read h.1 0 h.2.toNat) ∧ r.visible = p.visible
  /-- a clone has the same bytes and all its headroom -/
  clone : ∀ nextId junk mallocPacket mallocHead c,
    (p.clone nextId junk mallocPacket mallocHead).1 = some c →
      c.visible = p.visible ∧ c.data = headroom.toNat ∧ c.validateView headroom 0 = 0

theorem Ok.window {p : RawPacket} (h : p.Ok) : p.Window p.capacity where
  inside := ⟨h.head, h.tail⟩
  view := h.validateView_iff.mpr ⟨h.head, Nat.zero_le _⟩
  failed c := (h.windowAccess c).2.2
  writes header n hok := by
    have htail := h.tail
    rcases h.prepend_cases header n with ⟨-, he⟩ | ⟨hroom, -, he⟩
    · rw [he] at hok
      exact absurd hok (show ¬ (-1 : ℤ) = 0 by decide)
    · refine ⟨p.data - n.toNat, by omega, by omega, ?_⟩
      rw [he]
  stack headers q hq := h.stripAll_prependAll headers hq
  clone nextId junk mallocPacket mallocHead c hc := by
    rcases clone_cases nextId junk p mallocPacket mallocHead with
      ⟨hnone, -⟩ | ⟨-, c', hc', hok, hmem, hdata, hlen, -, -, -, -, -⟩
    · rw [hnone] at hc
      cases hc
    · obtain rfl := Option.some.inj (hc.symm.trans hc')
      refine ⟨visible_clone hmem hdata hlen, hdata, hok.validateView_iff.mpr ⟨?_, Nat.zero_le _⟩⟩
      rw [hdata]
      exact le_rfl

end RawPacket

/-! ## Result -/

/-- For every capacity that `packet_create` accepts, every length up to it, and any calls of
    `packet_prepend` and `packet_strip`: the window is in order. -/
theorem packetWindow_run (nextId : UInt32) (junk : ℤ → UInt8) (capacity : UInt64)
    (mallocPacket mallocHead : Bool) (p : RawPacket)
    (hcreate : (RawPacket.create nextId junk capacity mallocPacket mallocHead).1 = some p)
    (len : UInt64) (hlen : len ≤ capacity) (calls : List WindowCall) :
    (run windowCall { p with len := len } calls).Window capacity := by
  rcases RawPacket.create_cases nextId junk capacity mallocPacket mallocHead with
    ⟨hnone, -⟩ | ⟨-, p', hp', hok, -, hdata, -, hcap, -⟩
  · rw [hnone] at hcreate
    cases hcreate
  · obtain rfl := Option.some.inj (hcreate.symm.trans hp')
    have hlen : len.toNat ≤ capacity.toNat := hlen
    have hstart : RawPacket.Ok { p with len := len } := by
      refine ⟨hok.capacity, hok.head, ?_⟩
      dsimp only
      rw [hdata, hcap, RawPacket.toNat_headroom]
      omega
    obtain ⟨hend, hsame⟩ := run_invariant (fun q : RawPacket => q.Ok ∧ q.capacity = capacity)
      (fun q c ⟨hq, hqc⟩ => ⟨(hq.windowAccess c).1, (hq.windowAccess c).2.1.trans hqc⟩) calls _
      ⟨hstart, hcap⟩
    exact hsame ▸ hend.window

/-- A packet of capacity 4 as `packet_create` leaves it. -/
def exampleFresh : RawPacket where
  mem := fun i => UInt8.ofInt i
  data := 64
  len := 0
  capacity := 4
  id := 1
  traceId := 1
  parentId := 0
  layer := 0

/-- Four bytes, of which two are stripped. -/
theorem packetWindow_run_exampleFresh :
    (run windowCall { exampleFresh with len := 4 } [.strip 2]).visible = [66, 67] ∧
      (run windowCall { exampleFresh with len := 4 } [.strip 2]).Window 4 :=
  ⟨by decide +kernel, packetWindow_run 1 (fun i => UInt8.ofInt i) 4 true true exampleFresh rfl 4
    (by decide) [.strip 2]⟩

end FrameRunner
