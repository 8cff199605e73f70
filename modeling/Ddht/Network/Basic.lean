import Ddht.Kademlia

/-!
# The network state and the find-nodes exchange

`Network` is what `Network` reads and writes, with a valid table centred on the local node id.
Both ends of a FINDNODE exchange: `find_nodes` with its distance check (modelled from the spec),
its streaming variant, `_fetch_enr` and `_serve_find_nodes`.
-/

namespace Ddht

/-- The state of a `Network` service that the modelled methods touch. -/
structure Network where
  localEnr : Enr
  routingTable : KademliaRoutingTable
  enrDb : EnrDb
  routingTableReady : Bool
  center : routingTable.centerNodeId = localEnr.nodeId
  valid : routingTable.Valid

namespace Network

/-- `local_node_id`. -/
def localNodeId (net : Network) : NodeId := net.localEnr.nodeId

/-- `routing_table.update(node_id)` followed by `_routing_table_ready.set()`. -/
def addToRoutingTable (net : Network) (n : NodeId) : Network :=
  { net with
    routingTable := (net.routingTable.update n).1
    routingTableReady := true
    center := by rw [KademliaRoutingTable.update_centerNodeId]; exact net.center
    valid := KademliaRoutingTable.update_valid net.valid n }

/-- `routing_table.remove(node_id)`. -/
def removeFromRoutingTable (net : Network) (n : NodeId) : Network :=
  { net with
    routingTable := net.routingTable.remove n
    center := by rw [KademliaRoutingTable.remove_centerNodeId]; exact net.center
    valid := KademliaRoutingTable.remove_valid net.valid n }

/-- `try: enr_db.set_enr(enr) except OldSequenceNumber: pass`. -/
def storeEnr (net : Network) (e : Enr) : Network := { net with enrDb := net.enrDb.store e }

@[simp] theorem addToRoutingTable_enrDb (net : Network) (n : NodeId) :
    (net.addToRoutingTable n).enrDb = net.enrDb := rfl

@[simp] theorem addToRoutingTable_localEnr (net : Network) (n : NodeId) :
    (net.addToRoutingTable n).localEnr = net.localEnr := rfl

@[simp] theorem removeFromRoutingTable_enrDb (net : Network) (n : NodeId) :
    (net.removeFromRoutingTable n).enrDb = net.enrDb := rfl

@[simp] theorem storeEnr_enrDb (net : Network) (e : Enr) :
    (net.storeEnr e).enrDb = net.enrDb.store e := rfl

@[simp] theorem storeEnr_routingTable (net : Network) (e : Enr) :
    (net.storeEnr e).routingTable = net.routingTable := rfl

@[simp] theorem storeEnr_localEnr (net : Network) (e : Enr) :
    (net.storeEnr e).localEnr = net.localEnr := rfl

end Network

/-- Modelled from the spec: `validate_found_nodes_distances(enrs, node_id, distances)` raises
`ValidationError` unless each ENR lies at a requested log distance from `node_id`. -/
def validateFoundNodesDistances (enrs : List Enr) (nodeId : NodeId) (distances : List Nat) :
    Except NetError Unit :=
  if ∀ e ∈ enrs, computeLogDistance nodeId e.nodeId ∈ distances then .ok ()
  else .error .validationError

/-- `Network.find_nodes` once `client.find_nodes` has returned the FoundNodes responses:
validate each response, then concatenate their ENRs. -/
def findNodesResponses (nodeId : NodeId) (distances : List Nat) :
    List (List Enr) → Except NetError (List Enr)
  | [] => .ok []
  | r :: rs => do
    validateFoundNodesDistances r nodeId distances
    let rest ← findNodesResponses nodeId distances rs
    return r ++ rest

/-- What `find_nodes` returns passed the check: every ENR is at a requested distance. -/
theorem findNodesResponses_ok {nodeId : NodeId} {distances : List Nat} :
    ∀ {rs : List (List Enr)} {enrs : List Enr}, findNodesResponses nodeId distances rs = .ok enrs →
      enrs = rs.flatten ∧ ∀ e ∈ enrs, computeLogDistance nodeId e.nodeId ∈ distances
  | [], enrs, h => by cases h; simp
  | r :: rs, enrs, h => by
    simp only [findNodesResponses, validateFoundNodesDistances] at h
    split at h
    · rename_i hr
      cases hrest : findNodesResponses nodeId distances rs with
      | error e => simp [hrest, bind, Except.bind] at h
      | ok rest =>
        simp only [hrest, bind, Except.bind, pure, Except.pure, Except.ok.injEq] at h
        obtain ⟨rfl, hrest'⟩ := findNodesResponses_ok hrest
        subst h
        refine ⟨by simp, fun e he => ?_⟩
        rcases List.mem_append.mp he with he | he
        · exact hr e he
        · exact hrest' e he
    · simp [bind, Except.bind] at h

/-- `find_nodes` rejects a response holding an ENR at a distance that was not asked for. -/
theorem findNodesResponses_rejects {nodeId : NodeId} {distances : List Nat}
    {rs : List (List Enr)} {e : Enr} (he : e ∈ rs.flatten)
    (hd : computeLogDistance nodeId e.nodeId ∉ distances) :
    findNodesResponses nodeId distances rs = .error .validationError := by
  induction rs with
  | nil => simp at he
  | cons r rs ih =>
    simp only [findNodesResponses, validateFoundNodesDistances]
    by_cases hr : ∀ e ∈ r, computeLogDistance nodeId e.nodeId ∈ distances
    · have he' : e ∈ rs.flatten := by
        rcases List.mem_append.mp (List.flatten_cons ▸ he) with he | he
        · exact absurd (hr e he) hd
        · exact he
      rw [if_pos hr]; simp [bind, Except.bind, ih he']
    · rw [if_neg hr]; rfl

/-- `common_network_stream_find_nodes`: the ENRs put on the channel while the consumer
reads, given the FoundNodes responses `client.stream_find_nodes` yields. -/
def streamFindNodes (distances : List Nat) (responses : List (List Enr)) :
    Except NetError (List Enr) :=
  if distances = [] then .error .noDistance else .ok responses.flatten

/-- The streaming path puts on the channel an ENR at a distance that was not asked for,
where the batch path `find_nodes` raises `ValidationError` on the same response. -/
theorem streamFindNodes_admits_unrequested_distance :
    streamFindNodes [1] [[⟨3#256, 1, []⟩]] = .ok [⟨3#256, 1, []⟩] ∧
      computeLogDistance 1#256 3#256 ∉ [1] ∧
      findNodesResponses 1#256 [1] [[⟨3#256, 1, []⟩]] = .error .validationError :=
  ⟨rfl, by decide, by decide⟩

/-- Keep the newer of `e` and the record with the same node id in `acc`, or append `e`. -/
def keepNewest (e : Enr) : List Enr → List Enr
  | [] => [e]
  | x :: xs =>
    if x.nodeId = e.nodeId then (if x.sequenceNumber < e.sequenceNumber then e else x) :: xs
    else x :: keepNewest e xs

/-- Modelled from the spec: `reduce_enrs` keeps, per node id, the ENR with the highest
sequence number (the comment in `_fetch_enr`). -/
def reduceEnrs (enrs : List Enr) : List Enr := enrs.foldl (fun acc e => keepNewest e acc) []

theorem mem_keepNewest {e x : Enr} {acc : List Enr} (h : x ∈ keepNewest e acc) :
    x = e ∨ x ∈ acc := by
  induction acc with
  | nil => simpa [keepNewest] using h
  | cons y ys ih =>
    simp only [keepNewest] at h
    split_ifs at h <;> simp only [List.mem_cons] at h
    · rcases h with rfl | h
      · exact .inl rfl
      · exact .inr (List.mem_cons_of_mem y h)
    · rcases h with rfl | h
      · exact .inr (List.mem_cons_self x ys)
      · exact .inr (List.mem_cons_of_mem y h)
    · rcases h with rfl | h
      · exact .inr (List.mem_cons_self x ys)
      · exact (ih h).imp_right (List.mem_cons_of_mem y)

theorem keepNewest_ne_nil (e : Enr) (acc : List Enr) : keepNewest e acc ≠ [] := by
  cases acc with
  | nil => simp [keepNewest]
  | cons y ys => simp only [keepNewest]; split_ifs <;> simp

theorem mem_foldl_keepNewest {x : Enr} (enrs : List Enr) :
    ∀ acc : List Enr, x ∈ enrs.foldl (fun acc e => keepNewest e acc) acc → x ∈ acc ∨ x ∈ enrs := by
  induction enrs with
  | nil => exact fun _ h => .inl h
  | cons e es ih =>
    intro acc h
    rcases ih (keepNewest e acc) h with h | h
    · rcases mem_keepNewest h with rfl | h
      · exact .inr (List.mem_cons_self x es)
      · exact .inl h
    · exact .inr (List.mem_cons_of_mem e h)

theorem mem_reduceEnrs {enrs : List Enr} {x : Enr} (h : x ∈ reduceEnrs enrs) : x ∈ enrs :=
  (mem_foldl_keepNewest enrs [] h).resolve_left (List.not_mem_nil x)

/-- `_fetch_enr` after `find_nodes(node_id, 0)` returned `enrs`. -/
def fetchEnrResult (enrs : List Enr) : Except NetError Enr :=
  if enrs = [] then .error .emptyFindNodesResponse
  else match reduceEnrs enrs with
    | e :: _ => .ok e
    | [] => .error .indexError

theorem fetchEnrResult_mem {enrs : List Enr} {e : Enr} (h : fetchEnrResult enrs = .ok e) :
    e ∈ enrs := by
  unfold fetchEnrResult at h
  split at h
  · cases h
  · split at h
    · rename_i hr; cases h; exact mem_reduceEnrs (hr ▸ List.mem_cons_self e _)
    · cases h

/-- A FINDNODE request as `_serve_find_nodes` reads it. -/
structure FindNodeMessage where
  requestId : List UInt8
  distances : List Nat

/-- `[enr_db.get_enr(node_id) for node_id in node_ids]`, stopping at the first `KeyError`. -/
def getEnrs (db : EnrDb) : List NodeId → Except NetError (List Enr)
  | [] => .ok []
  | n :: ns =>
    match db.getEnr n with
    | none => .error .keyError
    | some e => (getEnrs db ns).map (e :: ·)

/-- The body of `_serve_find_nodes`'s loop for one distance. -/
def enrsAtDistance (net : Network) (d : Nat) : Except NetError (List Enr) :=
  if d = 0 then .ok [net.localEnr]
  else if d ≤ numBuckets then getEnrs net.enrDb (net.routingTable.getNodesAtLogDistance d)
  else .error .unreachable

/-- The ENRs `_serve_find_nodes` collects, distance after distance. -/
def collectEnrs (net : Network) : List Nat → Except NetError (List Enr)
  | [] => .ok []
  | d :: ds => do
    let enrs ← enrsAtDistance net d
    let rest ← collectEnrs net ds
    return enrs ++ rest

/-- `_serve_find_nodes` for one request: `none` when the request is ignored, otherwise the
`(request_id, enrs)` of the FoundNodes response it sends. -/
def serveFindNodes (net : Network) (request : FindNodeMessage) :
    Except NetError (Option (List UInt8 × List Enr)) :=
  let distances := request.distances.dedup
  if distances.length ≠ request.distances.length then .ok none
  else if distances = [] then .ok none
  else if ∃ d ∈ distances, numBuckets < d then .ok none
  else (collectEnrs net request.distances).map fun enrs => some (request.requestId, enrs)

end Ddht
