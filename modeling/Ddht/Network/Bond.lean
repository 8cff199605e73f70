import Ddht.Network.Basic

/-!
# Bonding and ENR lookups

`ping`, `find_nodes`, `lookup_enr`, `bond` and `_maybe_add_to_routing_table` against a `Remote`
that answers every request. Each returns its outcome with the network it leaves, so a record
stored before an exception stays stored.
-/

namespace Ddht

/-- What the peers answer to the requests of one call. -/
structure Remote where
  /-- `client.ping(node_id, endpoint)`: the PONG's `enr_seq`, or the exception raised. -/
  ping : NodeId → Endpoint → Except NetError Nat
  /-- `client.find_nodes(node_id, endpoint, distances)`: the FoundNodes responses. -/
  findNodes : NodeId → Endpoint → List Nat → Except NetError (List (List Enr))
  /-- The ENRs `recursive_find_nodes(target)` streams, in order. -/
  recursiveFindNodes : NodeId → List Enr

namespace Network

variable (remote : Remote)

/-- `find_nodes` once the endpoint is known. -/
def findNodesAt (nodeId : NodeId) (endpoint : Endpoint) (distances : List Nat) :
    Except NetError (List Enr) :=
  remote.findNodes nodeId endpoint distances >>= findNodesResponses nodeId distances

/-- `_fetch_enr` once the endpoint is known. -/
def fetchEnrAt (nodeId : NodeId) (endpoint : Endpoint) : Except NetError Enr :=
  findNodesAt remote nodeId endpoint [0] >>= fetchEnrResult

/-- The endpoint `lookup_enr` takes from a recursive lookup: that of the first streamed ENR
of `node_id`, and `KeyError` when the stream ends without one. -/
def searchEndpoint (nodeId : NodeId) : Except NetError Endpoint :=
  match (remote.recursiveFindNodes nodeId).find? (·.nodeId = nodeId) with
  | some enr => Endpoint.fromEnr enr
  | none => .error .keyError

/-- `lookup_enr(node_id)` as `endpoint_for_node_id` calls it: with no record for `node_id`
and no endpoint it searches, fetches and stores. -/
def lookupUnknown (net : Network) (nodeId : NodeId) : Except NetError Enr × Network :=
  if nodeId = net.localNodeId then (.error .lookupLocal, net) else
  match searchEndpoint remote nodeId >>= fetchEnrAt remote nodeId with
  | .ok enr => (.ok enr, net.storeEnr enr)
  | .error e => (.error e, net)

/-- `endpoint_for_node_id`. -/
def endpointForNodeId (net : Network) (nodeId : NodeId) : Except NetError Endpoint × Network :=
  match net.enrDb.getEnr nodeId with
  | some enr => (Endpoint.fromEnr enr, net)
  | none =>
    match lookupUnknown remote net nodeId with
    | (.ok enr, net') => (Endpoint.fromEnr enr, net')
    | (.error e, net') => (.error e, net')

/-- `find_nodes(node_id, *distances, endpoint=endpoint)`. -/
def findNodes (net : Network) (nodeId : NodeId) (distances : List Nat)
    (endpoint : Option Endpoint) : Except NetError (List Enr) × Network :=
  if distances = [] then (.error .noDistance, net) else
  match endpoint with
  | some ep => (findNodesAt remote nodeId ep distances, net)
  | none =>
    match endpointForNodeId remote net nodeId with
    | (.ok ep, net') => (findNodesAt remote nodeId ep distances, net')
    | (.error e, net') => (.error e, net')

/-- `_fetch_enr(node_id, endpoint=endpoint)`. -/
def fetchEnr (net : Network) (nodeId : NodeId) (endpoint : Option Endpoint) :
    Except NetError Enr × Network :=
  match findNodes remote net nodeId [0] endpoint with
  | (.ok enrs, net') => (fetchEnrResult enrs, net')
  | (.error e, net') => (.error e, net')

/-- The tail of `lookup_enr`: `_fetch_enr`, then `set_enr` ignoring `OldSequenceNumber`. -/
def fetchAndStore (net : Network) (nodeId : NodeId) (endpoint : Option Endpoint) :
    Except NetError Enr × Network :=
  match fetchEnr remote net nodeId endpoint with
  | (.ok enr, net') => (.ok enr, net'.storeEnr enr)
  | (.error e, net') => (.error e, net')

/-- `lookup_enr(node_id, enr_seq=enr_seq, endpoint=endpoint)`. -/
def lookupEnr (net : Network) (nodeId : NodeId) (enrSeq : Nat) (endpoint : Option Endpoint) :
    Except NetError Enr × Network :=
  if nodeId = net.localNodeId then (.error .lookupLocal, net) else
  match net.enrDb.getEnr nodeId, endpoint with
  | some enr, _ =>
    if enrSeq ≤ enr.sequenceNumber then (.ok enr, net) else fetchAndStore remote net nodeId endpoint
  | none, some ep => fetchAndStore remote net nodeId (some ep)
  | none, none =>
    match searchEndpoint remote nodeId with
    | .ok ep => fetchAndStore remote net nodeId (some ep)
    | .error e => (.error e, net)

/-- `ping(node_id, endpoint=endpoint)`: the PONG's `enr_seq`. -/
def ping (net : Network) (nodeId : NodeId) (endpoint : Option Endpoint) :
    Except NetError Nat × Network :=
  match endpoint with
  | some ep => (remote.ping nodeId ep, net)
  | none =>
    match endpointForNodeId remote net nodeId with
    | (.ok ep, net') => (remote.ping nodeId ep, net')
    | (.error e, net') => (.error e, net')

/-- `bond(node_id, endpoint=endpoint)`. -/
def bond (net : Network) (nodeId : NodeId) (endpoint : Option Endpoint) :
    Except NetError Bool × Network :=
  match ping remote net nodeId endpoint with
  | (.error .tooSlow, net') => (.ok false, net')
  | (.error .missingEndpointFields, net') => (.ok false, net')
  | (.error e, net') => (.error e, net')
  | (.ok enrSeq, net') =>
    match lookupEnr remote net' nodeId enrSeq endpoint with
    | (.error .tooSlow, net'') => (.ok false, net'')
    | (.error .emptyFindNodesResponse, net'') => (.ok false, net'')
    | (.error e, net'') => (.error e, net'')
    | (.ok enr, net'') => (.ok true, net''.addToRoutingTable enr.nodeId)

/-- `_pong_when_pinged._maybe_add_to_routing_table` for a PING carrying `enrSeq`. -/
def maybeAddToRoutingTable (net : Network) (senderNodeId : NodeId) (enrSeq : Nat)
    (senderEndpoint : Endpoint) : Except NetError Unit × Network :=
  match lookupEnr remote net senderNodeId enrSeq (some senderEndpoint) with
  | (.error .tooSlow, net') => (.ok (), net')
  | (.error .emptyFindNodesResponse, net') => (.ok (), net')
  | (.error e, net') => (.error e, net')
  | (.ok enr, net') => (.ok (), net'.addToRoutingTable enr.nodeId)

/-- `net'` is `net` after a run of `set_enr` calls: all that `ping`, `find_nodes`,
`endpoint_for_node_id`, `_fetch_enr` and `lookup_enr` write. -/
def StoresOnly (net net' : Network) : Prop :=
  ∃ es : List Enr, net' = es.foldl storeEnr net

namespace StoresOnly

variable {net net' net'' : Network}

theorem refl (net : Network) : StoresOnly net net := ⟨[], rfl⟩

theorem store (h : StoresOnly net net') (e : Enr) : StoresOnly net (net'.storeEnr e) := by
  obtain ⟨es, rfl⟩ := h
  exact ⟨es ++ [e], by rw [List.foldl_append]; rfl⟩

theorem trans (h : StoresOnly net net') (h' : StoresOnly net' net'') : StoresOnly net net'' := by
  obtain ⟨es, rfl⟩ := h
  obtain ⟨es', rfl⟩ := h'
  exact ⟨es ++ es', (List.foldl_append _ _ _ _).symm⟩

/-- `set_enr` leaves the routing table and the local ENR alone. -/
theorem frame (h : StoresOnly net net') :
    net'.routingTable = net.routingTable ∧ net'.localEnr = net.localEnr := by
  obtain ⟨es, rfl⟩ := h
  induction es generalizing net with
  | nil => exact ⟨rfl, rfl⟩
  | cons e es ih => exact ih

end StoresOnly

theorem lookupUnknown_storesOnly (net : Network) (nodeId : NodeId) :
    StoresOnly net (lookupUnknown remote net nodeId).2 := by
  unfold lookupUnknown; split_ifs
  · exact .refl net
  · split
    · exact (StoresOnly.refl net).store _
    · exact .refl net

theorem endpointForNodeId_storesOnly (net : Network) (nodeId : NodeId) :
    StoresOnly net (endpointForNodeId remote net nodeId).2 := by
  unfold endpointForNodeId; split
  · exact .refl net
  · split <;> rename_i heq <;> simpa [heq] using lookupUnknown_storesOnly remote net nodeId

theorem findNodes_storesOnly (net : Network) (nodeId : NodeId) (ds : List Nat)
    (ep : Option Endpoint) : StoresOnly net (findNodes remote net nodeId ds ep).2 := by
  unfold findNodes; split_ifs
  · exact .refl net
  · split
    · exact .refl net
    · split <;> rename_i heq <;> simpa [heq] using endpointForNodeId_storesOnly remote net nodeId

theorem fetchEnr_storesOnly (net : Network) (nodeId : NodeId) (ep : Option Endpoint) :
    StoresOnly net (fetchEnr remote net nodeId ep).2 := by
  unfold fetchEnr
  split <;> rename_i heq <;> simpa [heq] using findNodes_storesOnly remote net nodeId [0] ep

theorem fetchAndStore_storesOnly (net : Network) (nodeId : NodeId) (ep : Option Endpoint) :
    StoresOnly net (fetchAndStore remote net nodeId ep).2 := by
  have h := fetchEnr_storesOnly remote net nodeId ep
  unfold fetchAndStore
  split <;> rename_i heq <;> rw [heq] at h
  · exact h.store _
  · exact h

theorem lookupEnr_storesOnly (net : Network) (nodeId : NodeId) (enrSeq : Nat)
    (ep : Option Endpoint) : StoresOnly net (lookupEnr remote net nodeId enrSeq ep).2 := by
  unfold lookupEnr; split_ifs
  · exact .refl net
  · split
    · split_ifs
      · exact .refl net
      · exact fetchAndStore_storesOnly remote net nodeId _
    · exact fetchAndStore_storesOnly remote net nodeId _
    · split
      · exact fetchAndStore_storesOnly remote net nodeId _
      · exact .refl net

theorem ping_storesOnly (net : Network) (nodeId : NodeId) (ep : Option Endpoint) :
    StoresOnly net (ping remote net nodeId ep).2 := by
  unfold ping; split
  · exact .refl net
  · split <;> rename_i heq <;> simpa [heq] using endpointForNodeId_storesOnly remote net nodeId

theorem findNodesAt_responses {nodeId : NodeId} {ep : Endpoint} {distances : List Nat}
    {enrs : List Enr} (h : findNodesAt remote nodeId ep distances = .ok enrs) :
    ∃ rs, findNodesResponses nodeId distances rs = .ok enrs := by
  unfold findNodesAt at h
  cases hr : remote.findNodes nodeId ep distances with
  | error err => simp [hr, bind, Except.bind] at h
  | ok rs => exact ⟨rs, by simpa [hr, bind, Except.bind] using h⟩

/-- `find_nodes` returns what `validate_found_nodes_distances` let through of the responses. -/
theorem findNodes_responses {net : Network} {nodeId : NodeId} {distances : List Nat}
    {ep : Option Endpoint} {enrs : List Enr}
    (h : (findNodes remote net nodeId distances ep).1 = .ok enrs) :
    ∃ rs, findNodesResponses nodeId distances rs = .ok enrs := by
  unfold findNodes at h
  split_ifs at h
  split at h
  · exact findNodesAt_responses remote h
  · split at h
    · exact findNodesAt_responses remote h
    · cases h

/-- `_fetch_enr` returns what `reduce_enrs` keeps of validated FINDNODE(0) responses. -/
theorem fetchEnr_responses {net : Network} {nodeId : NodeId} {ep : Option Endpoint} {e : Enr}
    (h : (fetchEnr remote net nodeId ep).1 = .ok e) :
    ∃ rs, (findNodesResponses nodeId [0] rs >>= fetchEnrResult) = .ok e := by
  unfold fetchEnr at h
  split at h
  · rename_i heq
    obtain ⟨rs, hrs⟩ := findNodes_responses remote (congrArg Prod.fst heq)
    exact ⟨rs, by rw [hrs]; exact h⟩
  · cases h

/-- An ENR kept from FINDNODE(0) responses is one of the node asked: distance 0 admits no other. -/
theorem fetched_nodeId {nodeId : NodeId} {rs : List (List Enr)} {e : Enr}
    (h : (findNodesResponses nodeId [0] rs >>= fetchEnrResult) = .ok e) : e.nodeId = nodeId := by
  cases hf : findNodesResponses nodeId [0] rs with
  | error err => simp [hf, bind, Except.bind] at h
  | ok enrs =>
    rw [hf] at h
    have hd := (findNodesResponses_ok hf).2 e (fetchEnrResult_mem h)
    exact (computeLogDistance_eq_zero_iff.mp (List.mem_singleton.mp hd)).symm

theorem fetchAndStore_ok {net net' : Network} {nodeId : NodeId} {ep : Option Endpoint} {e : Enr}
    (h : fetchAndStore remote net nodeId ep = (.ok e, net')) :
    ∃ net₁ rs, StoresOnly net net₁ ∧ (findNodesResponses nodeId [0] rs >>= fetchEnrResult) = .ok e ∧
      net' = net₁.storeEnr e := by
  have hs := fetchEnr_storesOnly remote net nodeId ep
  unfold fetchAndStore at h
  split at h
  · rename_i net₁ heq
    simp only [Prod.mk.injEq, Except.ok.injEq] at h
    obtain ⟨rfl, rfl⟩ := h
    obtain ⟨rs, hrs⟩ := fetchEnr_responses remote (congrArg Prod.fst heq)
    exact ⟨net₁, rs, by rwa [heq] at hs, hrs, rfl⟩
  · simp at h

/-- `lookup_enr(n)` returns the stored record, new enough, writing nothing; or an ENR that
`_fetch_enr` kept from FINDNODE(0) responses, stored after what the fetch stored itself. -/
theorem lookupEnr_ok_cases {net net' : Network} {nodeId : NodeId} {enrSeq : Nat}
    {ep : Option Endpoint} {e : Enr} (h : lookupEnr remote net nodeId enrSeq ep = (.ok e, net')) :
    nodeId ≠ net.localNodeId ∧
      ((net.enrDb.getEnr nodeId = some e ∧ enrSeq ≤ e.sequenceNumber ∧ net' = net) ∨
        ∃ net₁ rs, StoresOnly net net₁ ∧
          (findNodesResponses nodeId [0] rs >>= fetchEnrResult) = .ok e ∧ net' = net₁.storeEnr e) := by
  unfold lookupEnr at h
  split_ifs at h with hn
  · cases h
  refine ⟨hn, ?_⟩
  split at h
  · rename_i enr _ hget
    split_ifs at h with hle
    · simp only [Prod.mk.injEq, Except.ok.injEq] at h
      obtain ⟨rfl, rfl⟩ := h
      exact .inl ⟨hget, hle, rfl⟩
    · exact .inr (fetchAndStore_ok remote h)
  · exact .inr (fetchAndStore_ok remote h)
  · split at h
    · exact .inr (fetchAndStore_ok remote h)
    · simp at h

/-- `lookup_enr(n)` returns an ENR of `n`, and the database then holds one at least as new. -/
theorem lookupEnr_ok {net net' : Network} {nodeId : NodeId} {enrSeq : Nat}
    {ep : Option Endpoint} {e : Enr} (h : lookupEnr remote net nodeId enrSeq ep = (.ok e, net')) :
    e.nodeId = nodeId ∧ ∃ r, net'.enrDb.getEnr nodeId = some r ∧
      e.sequenceNumber ≤ r.sequenceNumber := by
  obtain ⟨-, ⟨hget, -, rfl⟩ | ⟨net₁, rs, -, hf, rfl⟩⟩ := lookupEnr_ok_cases remote h
  · exact ⟨EnrDb.getEnr_nodeId hget, _, hget, le_rfl⟩
  · have hn := fetched_nodeId hf
    refine ⟨hn, ?_⟩
    rw [storeEnr_enrDb, ← hn]
    exact EnrDb.store_self _ _

/-- `bond(n)` inserts no id but `n` into the routing table. -/
theorem bond_allIds {net : Network} {nodeId : NodeId} {ep : Option Endpoint} {x : NodeId}
    (hx : x ∈ (bond remote net nodeId ep).2.routingTable.allIds) :
    x = nodeId ∨ x ∈ net.routingTable.allIds := by
  unfold bond at hx
  have hrt := (ping_storesOnly remote net nodeId ep).frame.1
  generalize ping remote net nodeId ep = p at hx hrt
  obtain ⟨r, net'⟩ := p
  dsimp only at hrt
  rcases r with e | enrSeq
  · cases e <;> exact .inr (hrt ▸ hx)
  · have hrt' := (lookupEnr_storesOnly remote net' nodeId enrSeq ep).frame.1
    have hok : ∀ {e net''}, lookupEnr remote net' nodeId enrSeq ep = (.ok e, net'') →
        e.nodeId = nodeId := fun h => (lookupEnr_ok remote h).1
    dsimp only at hx
    generalize lookupEnr remote net' nodeId enrSeq ep = q at hx hrt' hok
    obtain ⟨r, net''⟩ := q
    dsimp only at hrt'
    rcases r with e | enr
    · cases e <;> exact .inr ((hrt'.trans hrt) ▸ hx)
    · rcases KademliaRoutingTable.allIds_update hx with hx | hx
      · exact .inl (hx.trans (hok rfl))
      · exact .inr ((hrt'.trans hrt) ▸ hx)

/-- `_maybe_add_to_routing_table` inserts no id but the sender's. -/
theorem maybeAddToRoutingTable_allIds {net : Network} {nodeId : NodeId} {enrSeq : Nat}
    {ep : Endpoint} {x : NodeId}
    (hx : x ∈ (maybeAddToRoutingTable remote net nodeId enrSeq ep).2.routingTable.allIds) :
    x = nodeId ∨ x ∈ net.routingTable.allIds := by
  unfold maybeAddToRoutingTable at hx
  have hrt := (lookupEnr_storesOnly remote net nodeId enrSeq (some ep)).frame.1
  have hok : ∀ {e net'}, lookupEnr remote net nodeId enrSeq (some ep) = (.ok e, net') →
      e.nodeId = nodeId := fun h => (lookupEnr_ok remote h).1
  generalize lookupEnr remote net nodeId enrSeq (some ep) = q at hx hrt hok
  obtain ⟨r, net'⟩ := q
  dsimp only at hrt
  rcases r with e | enr
  · cases e <;> exact .inr (hrt ▸ hx)
  · rcases KademliaRoutingTable.allIds_update hx with hx | hx
    · exact .inl (hx.trans (hok rfl))
    · exact .inr (hrt ▸ hx)

/-- What `lookup_enr(n)` returns is an ENR of `n` that the database then holds at least as
new; so `bond(n)` and the ping handler put no id but `n` into the routing table. -/
theorem lookupEnr_returns_requested_node (net : Network) (nodeId : NodeId) (enrSeq : Nat)
    (endpoint : Option Endpoint) :
    (∀ e net', lookupEnr remote net nodeId enrSeq endpoint = (.ok e, net') →
      e.nodeId = nodeId ∧ ∃ r, net'.enrDb.getEnr nodeId = some r ∧
        e.sequenceNumber ≤ r.sequenceNumber) ∧
    (∀ x ∈ (bond remote net nodeId endpoint).2.routingTable.allIds,
      x = nodeId ∨ x ∈ net.routingTable.allIds) ∧
    (∀ ep, ∀ x ∈ (maybeAddToRoutingTable remote net nodeId enrSeq ep).2.routingTable.allIds,
      x = nodeId ∨ x ∈ net.routingTable.allIds) :=
  ⟨fun _ _ h => lookupEnr_ok remote h, fun _ hx => bond_allIds remote hx,
    fun _ _ hx => maybeAddToRoutingTable_allIds remote hx⟩

end Network

/-- A network with nothing stored, centred on node `0`. -/
def freshNetwork : Network :=
  ⟨⟨0#256, 1, []⟩, KademliaRoutingTable.empty 0#256 16, ⟨[]⟩, false, rfl,
    KademliaRoutingTable.empty_valid _ _⟩

/-- A peer that answers FINDNODE at distance 0 with the ENR of node 2. -/
def foreignEnrPeer : Remote :=
  ⟨fun _ _ => .ok 5, fun _ _ _ => .ok [[⟨2#256, 1, []⟩]], fun _ => []⟩

/-- `bond` lets the `ValidationError` of `find_nodes(n, 0)` escape: a peer that answers
with another node's ENR makes `bond` raise instead of returning `False`. -/
theorem bond_raises_validationError :
    (freshNetwork.bond foreignEnrPeer 1#256 (some ⟨.bytes [127, 0, 0, 1], .int 30303⟩)).1 =
      .error .validationError := by
  decide

end Ddht
