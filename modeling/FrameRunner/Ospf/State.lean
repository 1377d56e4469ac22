import FrameRunner.Common.Ref
import FrameRunner.Lib.Slots

/-!
# OSPF state (`protocols/ospf.h`)

The tables of one OSPF instance. `link_count` is kept in `0 … 4` by its type:
`ospf_receive` refuses every other LSA before it stores anything.
-/

namespace FrameRunner

open FrameRunner.Lib

/-! ## Constants -/

abbrev ospfLsdbSize : ℕ := 256
abbrev ospfMaxNeighbors : ℕ := 32
abbrev ospfMaxIfaces : ℕ := 16
abbrev ospfMaxLsaLinks : ℕ := 4

def ospfInfinity : UInt32 := 0xFFFFFFFF
def ospfLsaTypeRouter : UInt8 := 1
def ospfLinkP2p : UInt8 := 1

/-- `OSPF_SPF_MAX_NODES`. -/
def ospfSpfMaxNodes : ℕ := 1 + ospfLsdbSize * (1 + ospfMaxLsaLinks)

/-! ## Records -/

/-- `OspfNbrState`. -/
inductive OspfNbrState where
  | down | attempt | init | twoway | exstart | exchange | loading | full
  deriving DecidableEq, Repr

/-- `OspfNeighbor`; the all-zero record is the default. -/
structure OspfNeighbor where
  routerId : UInt32 := 0
  ipAddr : UInt32 := 0
  state : OspfNbrState := .down
  lastHelloTs : UInt64 := 0
  iface : Option IfaceRef := none
  valid : Bool := false
  deriving DecidableEq, Repr

/-- `OspfLsaLink`, in host byte order. -/
structure OspfLsaLink where
  linkId : UInt32 := 0
  linkData : UInt32 := 0
  type : UInt8 := 0
  numTos : UInt8 := 0
  metric : UInt16 := 0
  deriving DecidableEq, Repr

/-- `OspfLsaEntry`; the all-zero record is the default. -/
structure OspfLsaEntry where
  lsaId : UInt32 := 0
  advRouter : UInt32 := 0
  seqNum : UInt32 := 0
  checksum : UInt16 := 0
  lsaType : UInt8 := 0
  valid : Bool := false
  links : Slots ospfMaxLsaLinks OspfLsaLink := fun _ => {}
  linkCount : Fin (ospfMaxLsaLinks + 1) := 0

theorem one_lt_ospfMaxLsaLinks : 1 < ospfMaxLsaLinks + 1 := by decide

/-- `lsa->links[j]` for an index below `link_count`. -/
def OspfLsaEntry.link (lsa : OspfLsaEntry) (j : Fin lsa.linkCount) : OspfLsaLink :=
  lsa.links (j.castLE (Nat.lt_succ_iff.mp lsa.linkCount.isLt))

/-- `OspfIface`. -/
structure OspfIface where
  iface : Option IfaceRef := none
  cost : UInt16 := 0
  valid : Bool := false
  deriving DecidableEq, Repr

/-- `OspfState` without its `sim` and `router` pointers, which `ospf_init` sets
    once: the functions take what they read through them as arguments. -/
structure OspfState where
  routerId : UInt32
  areaId : UInt32
  neighbors : Slots ospfMaxNeighbors OspfNeighbor
  neighborCount : ℕ
  lsdb : Slots ospfLsdbSize OspfLsaEntry
  lsdbCount : ℕ
  ifaces : Slots ospfMaxIfaces OspfIface
  ifaceCount : ℕ

/-- The state that `ospf_init` (lines 66–93) leaves. -/
def ospfInit (routerId : UInt32) : OspfState where
  routerId := routerId
  areaId := 0
  neighbors := fun _ => {}
  neighborCount := 0
  lsdb := fun _ => {}
  lsdbCount := 0
  ifaces := fun _ => {}
  ifaceCount := 0

end FrameRunner
