import Mathlib.Tactic

/-!
# Events (`engine/event.c`)

An event carries a payload `π` (its device, packet and data pointers) and
perhaps a callback `κ` (`handler` together with `handler_ctx`); each part of the
simulator that is modelled instantiates the two. The queue is kept ordered by
time and sequence by insertion from the back.
-/

namespace FrameRunner

/-- `EventType`. -/
inductive EventType where
  | packetSend | packetReceive | arpRequest | arpReply | routingUpdate | routeAdded | linkUp
  | linkDown | timerExpired | render | reset | macAge | tcpRetransmit | ripUpdate | ripTimeout
  | ripGc | ospfHello | ospfDead | ospfSpf | bgpKeepalive | bgpHold | bgpConnectRetry | isisHello
  | isisHold | isisSpf | isisLspRegen | natGc
  deriving DecidableEq, Repr

/-- `Event`. `event_create` sets `sequence` to 0 and `handler` to `none`. -/
structure Event (κ π : Type) where
  type : EventType
  timestamp : UInt64
  sequence : UInt64 := 0
  payload : π
  handler : Option κ := none

variable {κ π : Type}

/-- The test on which the insertion of `event_queue_push` stops. -/
def Event.notAfter (previous e : Event κ π) : Bool :=
  previous.timestamp < e.timestamp ||
    (previous.timestamp == e.timestamp && previous.sequence ≤ e.sequence)

/-- The insertion loop of `event_queue_push` (lines 95–108) on the queue from its
    back. -/
def eventInsertBack (e : Event κ π) : List (Event κ π) → List (Event κ π)
  | [] => [e]
  | previous :: rest =>
    if previous.notAfter e then e :: previous :: rest
    else previous :: eventInsertBack e rest

/-- `event_queue_push` (lines 84–111). -/
def eventQueuePush (eq : List (Event κ π)) (e : Event κ π) : List (Event κ π) :=
  (eventInsertBack e eq.reverse).reverse

/-- `event_queue_pop` (lines 114–123). -/
def eventQueuePop : List (Event κ π) → Option (Event κ π × List (Event κ π))
  | [] => none
  | e :: rest => some (e, rest)

theorem eventInsertBack_perm (e : Event κ π) (l : List (Event κ π)) :
    (eventInsertBack e l).Perm (e :: l) := by
  induction l with
  | nil => exact List.Perm.refl _
  | cons p rest ih =>
    unfold eventInsertBack
    split_ifs
    · exact List.Perm.refl _
    · exact (ih.cons p).trans (List.Perm.swap e p rest)

/-- A push adds its event and loses none. -/
theorem eventQueuePush_perm (eq : List (Event κ π)) (e : Event κ π) :
    (eventQueuePush eq e).Perm (e :: eq) := by
  unfold eventQueuePush
  exact (List.reverse_perm _).trans
    ((eventInsertBack_perm e eq.reverse).trans ((List.reverse_perm eq).cons e))

@[simp] theorem mem_eventQueuePush {eq : List (Event κ π)} {e x : Event κ π} :
    x ∈ eventQueuePush eq e ↔ x = e ∨ x ∈ eq := by
  rw [(eventQueuePush_perm eq e).mem_iff, List.mem_cons]

end FrameRunner
