import FrameRunner.Ospf.State
import FrameRunner.Routing.RouteTable

/-!
# The SPF run (`ospf_run_spf`)

The model of `ospf_run_spf` (lines 724–911) in its three parts: the vertices
found in the LSDB (`spfVertices`), Dijkstra's loop over them (`spfLoop`), and
the routes installed from the result (`spfInstall`). Once the vertices are
known their number is fixed, and the vertex table is an array of that length.
-/

namespace FrameRunner

open FrameRunner.Lib

/-- `OspfSpfVertex`; the index `-1` is `none`. -/
structure OspfSpfVertex where
  routerId : UInt32
  distance : UInt32
  predecessor : Option ℕ
  firstHop : Option ℕ
  visited : Bool
  deriving DecidableEq, Repr

/-- `ospf_ensure_spf_vertex` (lines 29–51): the vertices and the index. -/
def ospfEnsureSpfVertex (vertices : List OspfSpfVertex) (routerId : UInt32) :
    Option (List OspfSpfVertex × ℕ) :=
  match vertices.findIdx? fun v => v.routerId == routerId with
  | some i => some (vertices, i)
  | none =>
    if vertices.length ≥ ospfSpfMaxNodes then none
    else
      let vertex : OspfSpfVertex :=
        { routerId := routerId, distance := ospfInfinity, predecessor := none, firstHop := none,
          visited := false }
      some (vertices ++ [vertex], vertices.length)

/-- `ospf_find_spf_vertex` (lines 53–64). -/
def ospfFindSpfVertex {n : ℕ} (vertices : Slots n OspfSpfVertex) (routerId : UInt32) :
    Option (Fin n) :=
  Fin.find? fun i => (vertices i).routerId == routerId

/-- The test that skips every LSDB slot but the valid router LSAs. -/
def OspfLsaEntry.isRouterLsa (lsa : OspfLsaEntry) : Bool :=
  lsa.valid && lsa.lsaType == ospfLsaTypeRouter

/-- The vertices of one LSDB slot (lines 743–767). -/
def spfAddLsa (state : OspfState) (vertices : List OspfSpfVertex) (i : Fin ospfLsdbSize) :
    Option (List OspfSpfVertex) :=
  let lsa := state.lsdb i
  if !lsa.isRouterLsa then some vertices
  else do
    let (vertices, _) ← ospfEnsureSpfVertex vertices lsa.advRouter
    Slots.forEachM lsa.linkCount
      (fun vertices j =>
        if (lsa.link j).type ≠ ospfLinkP2p then some vertices
        else do
          let (vertices, _) ← ospfEnsureSpfVertex vertices (lsa.link j).linkId
          return vertices)
      vertices

/-- The vertex of the router itself, at index 0 (lines 732–738). -/
def spfRoot (state : OspfState) : OspfSpfVertex where
  routerId := state.routerId
  distance := 0
  predecessor := none
  firstHop := none
  visited := false

/-- All vertices (lines 732–767); `none` is the early `return -1`. -/
def spfVertices (state : OspfState) : Option (List OspfSpfVertex) :=
  Slots.forEachM ospfLsdbSize (spfAddLsa state) [spfRoot state]

section Loop

variable {n : ℕ}

/-- One round of the scan for the next vertex (lines 775–787). -/
def spfSelectStep (vertices : Slots n OspfSpfVertex) (selected : Option (Fin n)) (i : Fin n) :
    Option (Fin n) :=
  if (vertices i).visited || (vertices i).distance == ospfInfinity then selected
  else
    match selected with
    | none => some i
    | some s =>
      if (vertices i).distance < (vertices s).distance ∨
        (vertices i).distance = (vertices s).distance ∧
          (vertices i).routerId < (vertices s).routerId then some i
      else some s

/-- `selected_vtx_idx`, `-1` being `none`. -/
def spfSelect (vertices : Slots n OspfSpfVertex) : Option (Fin n) :=
  Slots.forEach n (spfSelectStep vertices) none

/-- The relaxation of one link of the selected vertex `s` (lines 806–849). -/
def spfRelaxLink (s : Fin n) (vertices : Slots n OspfSpfVertex) (link : OspfLsaLink) :
    Option (Slots n OspfSpfVertex) :=
  if link.type ≠ ospfLinkP2p then some vertices
  else
    match ospfFindSpfVertex vertices link.linkId with
    | none => none
    | some v =>
      if (vertices v).visited then some vertices
      else if (vertices s).distance ≥ ospfInfinity - link.metric.toUInt32 then some vertices
      else
        let distance := (vertices s).distance + link.metric.toUInt32
        if distance ≥ (vertices v).distance then some vertices
        else
          let destination := { vertices v with distance := distance, predecessor := some s.val }
          if s.val = 0 then
            some (Function.update vertices v { destination with firstHop := some v.val })
          else
            match (vertices s).firstHop with
            | none => none
            | some h =>
              if h ≥ n then none
              else some (Function.update vertices v { destination with firstHop := some h })

/-- The links of one LSDB slot, if it is one of the selected router's
    (lines 797–850). -/
def spfRelaxLsa (state : OspfState) (s : Fin n) (vertices : Slots n OspfSpfVertex)
    (i : Fin ospfLsdbSize) : Option (Slots n OspfSpfVertex) :=
  let lsa := state.lsdb i
  if !lsa.isRouterLsa || lsa.advRouter != (vertices s).routerId then some vertices
  else Slots.forEachM lsa.linkCount (fun vertices j => spfRelaxLink s vertices (lsa.link j)) vertices

/-- The `while (1)` loop (lines 772–852) for at most `fuel` rounds. -/
def spfLoop (state : OspfState) : ℕ → Slots n OspfSpfVertex → Option (Slots n OspfSpfVertex)
  | 0, _ => none
  | fuel + 1, vertices =>
    match spfSelect vertices with
    | none => some vertices
    | some s => do
      let vertices := Function.update vertices s { vertices s with visited := true }
      let vertices ← Slots.forEachM ospfLsdbSize (spfRelaxLsa state s) vertices
      spfLoop state fuel vertices

/-- The first usable neighbor with this router id (lines 881–891). -/
def ospfLiveNeighbor (state : OspfState) (routerId : UInt32) : Option (Fin ospfMaxNeighbors) :=
  Fin.find? fun i => (state.neighbors i).valid && (state.neighbors i).routerId == routerId &&
    (state.neighbors i).state != .down && (state.neighbors i).iface.isSome

/-- The index `first_hop`, when it is one of the vertices. -/
def spfFirstHop (vertices : Slots n OspfSpfVertex) (k : Fin n) : Option (Fin n) :=
  match (vertices k).firstHop with
  | none => none
  | some h => if hn : h < n then some ⟨h, hn⟩ else none

/-- One round of the installation (lines 860–908). The status turns non-zero
    at an early `return -1`. -/
def spfInstallVertex (state : OspfState) (vertices : Slots n OspfSpfVertex)
    (acc : RouteTable × Int) (k : Fin n) : RouteTable × Int :=
  if acc.2 ≠ 0 then acc
  else if k.val = 0 then acc
  else if (vertices k).distance = ospfInfinity then acc
  else
    match spfFirstHop vertices k with
    | none => (acc.1, -1)
    | some h =>
      match ospfLiveNeighbor state (vertices h).routerId with
      | none => acc
      | some i =>
        let neighbor := state.neighbors i
        let (tbl, res) := routeTableAdd acc.1 (vertices k).routerId 32 neighbor.ipAddr
          neighbor.iface (vertices k).distance routeProtoOspf
        (tbl, if res ≠ 0 then -1 else 0)

/-- The part after Dijkstra's loop (lines 854–910). -/
def spfInstall (state : OspfState) (vertices : Slots n OspfSpfVertex) (tbl : RouteTable) :
    RouteTable × Int :=
  Slots.forEach n (spfInstallVertex state vertices)
    ((routeTableFlushProto tbl routeProtoOspf).1, 0)

end Loop

/-- `ospf_run_spf` (lines 724–911) on the state and its router's table. Each
    round of the loop visits a vertex, so one more round than there are vertices
    is enough. -/
def ospfRunSpf (state : OspfState) (tbl : RouteTable) : RouteTable × Int :=
  match spfVertices state with
  | none => (tbl, -1)
  | some vertices =>
    match spfLoop state (vertices.length + 1) vertices.get with
    | none => (tbl, -1)
    | some tree => spfInstall state tree tbl

end FrameRunner
