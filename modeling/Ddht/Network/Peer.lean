import Ddht.Network.Bond
import Ddht.Network.Serve

/-!
# Bonding with honest peers

The requester's side of `bond` and `find_nodes` against peers running `_pong_when_pinged` and
`_serve_find_nodes`; the handshake is taken to prove the node id. Against them `bond` never
raises, and a bond is mutual.
-/

namespace Ddht

/-- What `_pong_when_pinged` reads of an inbound PING. -/
structure PingRequest where
  senderNodeId : NodeId
  senderEndpoint : Endpoint
  requestId : List UInt8
  enrSeq : Nat
  deriving DecidableEq, Repr

/-- `PongMessage(request_id, enr_seq, packet_ip, packet_port)`. -/
structure PongMessage where
  requestId : List UInt8
  enrSeq : Nat
  packetIp : EnrValue
  packetPort : EnrValue
  deriving DecidableEq, Repr

namespace Network

/-- The PONG `_pong_when_pinged` sends for `request`: its request id, the local ENR's sequence
number and the endpoint the PING came from. -/
def pongMessage (net : Network) (request : PingRequest) : PongMessage :=
  ⟨request.requestId, net.localEnr.sequenceNumber, request.senderEndpoint.ipAddress,
    request.senderEndpoint.port⟩

variable (remote : Remote)

/-- One request of `_pong_when_pinged`: its PONG and the `_maybe_add_to_routing_table` it starts. -/
def pongWhenPinged (net : Network) (request : PingRequest) :
    PongMessage × (Except NetError Unit × Network) :=
  (net.pongMessage request,
    maybeAddToRoutingTable remote net request.senderNodeId request.enrSeq request.senderEndpoint)

end Network

/-- A node listening on the network at `endpoint`. -/
structure Peer where
  net : Network
  endpoint : Endpoint

/-- The node that answers a request to `nodeId` at `endpoint`, if one listens there. -/
def answering (peers : List Peer) (nodeId : NodeId) (endpoint : Endpoint) : Option Network :=
  (peers.find? fun p => p.net.localNodeId = nodeId ∧ p.endpoint = endpoint).map (·.net)

/-- What peers see of the requests a node's client sends: the node's id and endpoint, its local
ENR's sequence number, and the request id the client allocates. -/
structure Requester where
  nodeId : NodeId
  endpoint : Endpoint
  enrSeq : Nat
  requestId : List UInt8

/-- The PING `client.ping` sends. -/
def Requester.ping (r : Requester) : PingRequest := ⟨r.nodeId, r.endpoint, r.requestId, r.enrSeq⟩

/-- What `requester`'s client gets back when `peers` listen and answer with their handlers;
`stream` is what a nested `recursive_find_nodes` yields. -/
def honestRemote (peers : List Peer) (requester : Requester) (stream : NodeId → List Enr) :
    Remote where
  ping nodeId endpoint :=
    match answering peers nodeId endpoint with
    | some net => .ok (net.pongMessage requester.ping).enrSeq
    | none => .error .tooSlow
  findNodes nodeId endpoint distances :=
    match answering peers nodeId endpoint with
    | some net =>
      match serveFindNodes net ⟨requester.requestId, distances⟩ with
      | .ok (some (requestId, enrs)) =>
        if requestId = requester.requestId then .ok [enrs] else .error .tooSlow
      | _ => .error .tooSlow
    | none => .error .tooSlow
  recursiveFindNodes := stream

/-- `ping` and `find_nodes` called with `endpoint` send to `ep`: it is the endpoint given, or
none is and the stored record of the node names `ep`. -/
def Resolves (net : Network) (nodeId : NodeId) (endpoint : Option Endpoint) (ep : Endpoint) :
    Prop :=
  endpoint = some ep ∨
    endpoint = none ∧ ∃ r, net.enrDb.getEnr nodeId = some r ∧ Endpoint.fromEnr r = .ok ep

/-- `_serve_find_nodes` answers FINDNODE at distance 0 with the local ENR alone. -/
theorem serveFindNodes_zero (net : Network) (requestId : List UInt8) :
    serveFindNodes net ⟨requestId, [0]⟩ = .ok (some (requestId, [net.localEnr])) := rfl

/-- A node's own ENR passes `find_nodes(node_id, 0)` and `_fetch_enr` keeps it. -/
theorem findNodesResponses_own (e : Enr) :
    (findNodesResponses e.nodeId [0] [[e]] >>= fetchEnrResult) = .ok e := by
  simp [findNodesResponses, validateFoundNodesDistances, bind, Except.bind, pure, Except.pure,
    fetchEnrResult, reduceEnrs, keepNewest]

namespace Network

section Resolved

variable {remote : Remote} {net : Network} {nodeId : NodeId} {endpoint : Option Endpoint}
  {ep : Endpoint}

theorem ping_of_resolves (h : Resolves net nodeId endpoint ep) :
    net.ping remote nodeId endpoint = (remote.ping nodeId ep, net) := by
  rcases h with rfl | ⟨rfl, r, hget, hep⟩
  · rfl
  · simp only [ping, endpointForNodeId, hget, hep]

theorem findNodes_of_resolves (h : Resolves net nodeId endpoint ep) {ds : List Nat}
    (hds : ds ≠ []) :
    net.findNodes remote nodeId ds endpoint = (findNodesAt remote nodeId ep ds, net) := by
  rcases h with rfl | ⟨rfl, r, hget, hep⟩
  · simp only [findNodes, if_neg hds]
  · simp only [findNodes, if_neg hds, endpointForNodeId, hget, hep]

theorem fetchEnr_of_resolves (h : Resolves net nodeId endpoint ep) :
    net.fetchEnr remote nodeId endpoint = (fetchEnrAt remote nodeId ep, net) := by
  unfold fetchEnr fetchEnrAt
  rw [findNodes_of_resolves h (List.cons_ne_nil 0 [])]
  cases findNodesAt remote nodeId ep [0] <;> rfl

end Resolved

theorem answering_mem {peers : List Peer} {nodeId : NodeId} {ep : Endpoint} {b : Network}
    (h : answering peers nodeId ep = some b) :
    ∃ p ∈ peers, p.net = b ∧ p.net.localNodeId = nodeId ∧ p.endpoint = ep := by
  obtain ⟨p, hp, rfl⟩ := Option.map_eq_some'.mp h
  have := List.find?_some hp
  simp only [decide_eq_true_eq] at this
  exact ⟨p, List.mem_of_find?_eq_some hp, rfl, this⟩

theorem answering_nodeId {peers : List Peer} {nodeId : NodeId} {ep : Endpoint} {b : Network}
    (h : answering peers nodeId ep = some b) : b.localNodeId = nodeId :=
  let ⟨_, _, hb, hn, _⟩ := answering_mem h
  hb ▸ hn

theorem dedup_length_eq_iff {l : List Nat} : l.dedup.length = l.length ↔ l.Nodup :=
  ⟨fun h => List.dedup_eq_self.mp ((List.dedup_sublist _).eq_of_length h),
    fun h => by rw [List.dedup_eq_self.mpr h]⟩

section Honest

variable (peers : List Peer) (requester : Requester) (stream : NodeId → List Enr) {net : Network}
  {nodeId : NodeId} {endpoint : Option Endpoint} {ep : Endpoint} {b : Network}

theorem honestRemote_ping (h : answering peers nodeId ep = some b) :
    (honestRemote peers requester stream).ping nodeId ep = .ok b.localEnr.sequenceNumber := by
  simp only [honestRemote, h]; rfl

theorem honestRemote_ping_none (h : answering peers nodeId ep = none) :
    (honestRemote peers requester stream).ping nodeId ep = .error .tooSlow := by
  simp only [honestRemote, h]

/-- The node that listens gives its local ENR to `_fetch_enr`. -/
theorem fetchEnrAt_honest (h : answering peers nodeId ep = some b) :
    fetchEnrAt (honestRemote peers requester stream) nodeId ep = .ok b.localEnr := by
  have hfind : (honestRemote peers requester stream).findNodes nodeId ep [0] = .ok [[b.localEnr]] := by
    simp only [honestRemote, h, serveFindNodes_zero, if_true]
  have hown := findNodesResponses_own b.localEnr
  rw [show b.localEnr.nodeId = nodeId from answering_nodeId h] at hown
  simpa only [fetchEnrAt, findNodesAt, hfind, bind, Except.bind] using hown

/-- `lookup_enr` of a node that listens at the endpoint it sends to: the stored record when it
is at least as new as `enr_seq`, otherwise the node's local ENR, fetched and stored. -/
theorem lookupEnr_honest (hne : nodeId ≠ net.localNodeId) (hr : Resolves net nodeId endpoint ep)
    (h : answering peers nodeId ep = some b) (enrSeq : Nat) :
    (∃ r, net.enrDb.getEnr nodeId = some r ∧ enrSeq ≤ r.sequenceNumber ∧
        net.lookupEnr (honestRemote peers requester stream) nodeId enrSeq endpoint = (.ok r, net)) ∨
      net.lookupEnr (honestRemote peers requester stream) nodeId enrSeq endpoint =
        (.ok b.localEnr, net.storeEnr b.localEnr) := by
  have hfetch : ∀ {endpoint}, Resolves net nodeId endpoint ep →
      net.fetchAndStore (honestRemote peers requester stream) nodeId endpoint =
        (.ok b.localEnr, net.storeEnr b.localEnr) := fun hr => by
    simp only [fetchAndStore, fetchEnr_of_resolves hr, fetchEnrAt_honest peers requester stream h]
  unfold lookupEnr
  rw [if_neg hne]
  cases hget : net.enrDb.getEnr nodeId with
  | some r =>
    by_cases hle : enrSeq ≤ r.sequenceNumber
    · exact .inl ⟨r, rfl, hle, by simp only [if_pos hle]⟩
    · exact .inr (by simp only [if_neg hle, hfetch hr])
  | none =>
    rcases hr with rfl | ⟨-, r, hr, -⟩
    · exact .inr (hfetch (.inl rfl))
    · cases hget.symm.trans hr

/-- What `lookup_enr` of a listening node leaves: the state, or the state with the node's local
ENR stored, and a record of the node at least as new as `enr_seq` or as the node's own. -/
theorem lookupEnr_honest_ok (hne : nodeId ≠ net.localNodeId) (hr : Resolves net nodeId endpoint ep)
    (h : answering peers nodeId ep = some b) (enrSeq : Nat) :
    ∃ enr net', (net' = net ∨ net' = net.storeEnr b.localEnr) ∧
      net.lookupEnr (honestRemote peers requester stream) nodeId enrSeq endpoint = (.ok enr, net') ∧
      enr.nodeId = nodeId ∧
      ∃ r, net'.enrDb.getEnr nodeId = some r ∧ min enrSeq b.localEnr.sequenceNumber ≤ r.sequenceNumber := by
  rcases lookupEnr_honest peers requester stream hne hr h enrSeq with ⟨r, hget, hle, heq⟩ | heq
  · exact ⟨r, net, .inl rfl, heq, EnrDb.getEnr_nodeId hget, r, hget, by omega⟩
  · have hn := answering_nodeId h
    obtain ⟨r, hget, hle⟩ := EnrDb.store_self net.enrDb b.localEnr
    exact ⟨b.localEnr, _, .inr rfl, heq, hn, r, hn ▸ hget, by omega⟩

/-- `bond` with a node that listens at the endpoint it sends to adds the node, after storing its
local ENR unless the stored record was at least as new. -/
theorem bond_honest (hne : nodeId ≠ net.localNodeId) (hr : Resolves net nodeId endpoint ep)
    (h : answering peers nodeId ep = some b) :
    ∃ net', (net' = net ∨ net' = net.storeEnr b.localEnr) ∧
      net.bond (honestRemote peers requester stream) nodeId endpoint =
        (.ok true, net'.addToRoutingTable nodeId) ∧
      ∃ r, net'.enrDb.getEnr nodeId = some r ∧ b.localEnr.sequenceNumber ≤ r.sequenceNumber := by
  obtain ⟨enr, net', hnet', heq, hn, r, hget, hle⟩ :=
    lookupEnr_honest_ok peers requester stream hne hr h b.localEnr.sequenceNumber
  refine ⟨net', hnet', ?_, r, hget, by omega⟩
  unfold bond
  rw [ping_of_resolves hr, honestRemote_ping peers requester stream h]
  simp only [heq, hn]

theorem bond_silent (hr : Resolves net nodeId endpoint ep) (h : answering peers nodeId ep = none) :
    net.bond (honestRemote peers requester stream) nodeId endpoint = (.ok false, net) := by
  unfold bond
  rw [ping_of_resolves hr, honestRemote_ping_none peers requester stream h]

/-- `bond` with a node that listens at the endpoint it sends to returns `True`, and leaves the
node in the routing table and a record of it at least as new as its own. -/
theorem bond_honest_adds (hk : 0 < net.routingTable.bucketSize) (hne : nodeId ≠ net.localNodeId)
    (hr : Resolves net nodeId endpoint ep) (h : answering peers nodeId ep = some b) :
    (net.bond (honestRemote peers requester stream) nodeId endpoint).1 = .ok true ∧
      nodeId ∈ (net.bond (honestRemote peers requester stream) nodeId endpoint).2.routingTable.allIds ∧
      ∃ r, (net.bond (honestRemote peers requester stream) nodeId endpoint).2.enrDb.getEnr nodeId =
        some r ∧ b.localEnr.sequenceNumber ≤ r.sequenceNumber := by
  obtain ⟨net', hnet', hbond, hrec⟩ := bond_honest peers requester stream hne hr h
  have htable : net'.routingTable = net.routingTable := by rcases hnet' with rfl | rfl <;> rfl
  have hc : nodeId ≠ net'.routingTable.centerNodeId := by rw [htable, net.center]; exact hne
  rw [hbond]
  exact ⟨rfl, KademliaRoutingTable.mem_allIds_update (htable ▸ hk) hc, hrec⟩

/-- Against peers running these handlers, `bond(node_id)` at a given or stored endpoint never
raises; it returns `True` exactly when the node listens there, and then the table holds the id
and the database a record at least as new as the node's own; `False` changes nothing. -/
theorem bond_with_honest_peers (hk : 0 < net.routingTable.bucketSize)
    (hne : nodeId ≠ net.localNodeId) (hr : Resolves net nodeId endpoint ep) :
    (net.bond (honestRemote peers requester stream) nodeId endpoint).1 =
        .ok (answering peers nodeId ep).isSome ∧
      (∀ b, answering peers nodeId ep = some b →
        nodeId ∈ (net.bond (honestRemote peers requester stream) nodeId endpoint).2.routingTable.allIds ∧
        ∃ r, (net.bond (honestRemote peers requester stream) nodeId endpoint).2.enrDb.getEnr nodeId =
          some r ∧ b.localEnr.sequenceNumber ≤ r.sequenceNumber) ∧
      (answering peers nodeId ep = none →
        (net.bond (honestRemote peers requester stream) nodeId endpoint).2 = net) := by
  cases h : answering peers nodeId ep with
  | none =>
    have hs := bond_silent peers requester stream hr h
    exact ⟨by rw [hs]; rfl, fun _ hb => Option.noConfusion hb, fun _ => by rw [hs]⟩
  | some b =>
    obtain ⟨hok, hadd⟩ := bond_honest_adds peers requester stream hk hne hr h
    exact ⟨hok, fun _ hb => by cases hb; exact hadd, nofun⟩

/-- `_maybe_add_to_routing_table` for a PING from a node that listens at the endpoint it sent
from adds the node, after storing its local ENR unless the stored record was new enough. -/
theorem maybeAddToRoutingTable_honest (hk : 0 < net.routingTable.bucketSize)
    (hne : nodeId ≠ net.localNodeId) (h : answering peers nodeId ep = some b) (enrSeq : Nat) :
    (net.maybeAddToRoutingTable (honestRemote peers requester stream) nodeId enrSeq ep).1 = .ok () ∧
      nodeId ∈
        (net.maybeAddToRoutingTable (honestRemote peers requester stream) nodeId enrSeq ep).2.routingTable.allIds ∧
      ∃ r, (net.maybeAddToRoutingTable (honestRemote peers requester stream) nodeId enrSeq ep).2.enrDb.getEnr
          nodeId = some r ∧ min enrSeq b.localEnr.sequenceNumber ≤ r.sequenceNumber := by
  obtain ⟨enr, net', hnet', heq, hn, hrec⟩ :=
    lookupEnr_honest_ok peers requester stream hne (.inl rfl) h enrSeq
  have htable : net'.routingTable = net.routingTable := by rcases hnet' with rfl | rfl <;> rfl
  have hc : nodeId ≠ net'.routingTable.centerNodeId := by rw [htable, net.center]; exact hne
  unfold maybeAddToRoutingTable
  simp only [heq, hn, true_and]
  exact ⟨KademliaRoutingTable.mem_allIds_update (htable ▸ hk) hc, hrec⟩

/-- FINDNODE to a node listening at `ep` whose entries have records: no distance is a
`TypeError`, a malformed request is ignored and times out, any other gets the owed ENRs once
each, validated; the requester's state is unchanged. -/
theorem findNodes_honest (h : answering peers nodeId ep = some b)
    (hcov : ∀ x ∈ b.routingTable.nodes, b.enrDb.Has x) (ds : List Nat) :
    (net.findNodes (honestRemote peers requester stream) nodeId ds (some ep)).2 = net ∧
      (ds = [] → (net.findNodes (honestRemote peers requester stream) nodeId ds (some ep)).1 =
        .error .noDistance) ∧
      (ds ≠ [] → ds.Nodup → (∀ d ∈ ds, d ≤ numBuckets) →
        ∃ enrs, (net.findNodes (honestRemote peers requester stream) nodeId ds (some ep)).1 = .ok enrs ∧
          (∀ e, e ∈ enrs ↔ b.Owed ds e) ∧ (enrs.map (·.nodeId)).Nodup) ∧
      (ds ≠ [] → (¬ ds.Nodup ∨ ∃ d ∈ ds, numBuckets < d) →
        (net.findNodes (honestRemote peers requester stream) nodeId ds (some ep)).1 = .error .tooSlow) := by
  by_cases hds : ds = []
  · subst hds
    exact ⟨rfl, fun _ => rfl, fun h => absurd rfl h, fun h => absurd rfl h⟩
  rw [findNodes_of_resolves (.inl rfl) hds]
  have hn := answering_nodeId h
  obtain ⟨out, hout, hnone, hsome⟩ := serveFindNodes_ok hcov ⟨requester.requestId, ds⟩
  have hfind : (honestRemote peers requester stream).findNodes nodeId ep ds =
      match out with
      | some (_, enrs) => .ok [enrs]
      | none => .error .tooSlow := by
    simp only [honestRemote, h, hout]
    rcases out with _ | ⟨rid, enrs⟩
    · rfl
    · simp only [(hsome rid enrs rfl).1, if_true]
  refine ⟨rfl, fun h => absurd h hds, ?_, ?_⟩
  · intro _ hnd hle
    rcases out with _ | ⟨rid, enrs⟩
    · rcases hnone.mp rfl with h | h | ⟨d, hd, hlt⟩
      · exact absurd (dedup_length_eq_iff.mpr hnd) h
      · exact absurd h hds
      · exact absurd (hle d hd) (not_le.mpr hlt)
    · obtain ⟨-, hmem, hnodup, hval⟩ := hsome rid enrs rfl
      refine ⟨enrs, ?_, hmem, hnodup⟩
      rw [hn] at hval
      simp only [findNodesAt, hfind, bind, Except.bind, findNodesResponses, hval, pure, Except.pure,
        List.append_nil]
  · intro _ hbad
    have hnone' : out = none := hnone.mpr (by
      rcases hbad with h | h
      · exact .inl fun he => h (dedup_length_eq_iff.mp he)
      · exact .inr (.inr h))
    subst hnone'
    simp only [findNodesAt, hfind, bind, Except.bind]

end Honest

/-- When `a` bonds with `b` at `b`'s endpoint and `b` handles the PING, `bond` returns `True`,
the handler raises nothing, the PONG echoes the request id, `b`'s sequence number and `a`'s
endpoint, and each side's table and database hold the other, at least as new as its own. -/
theorem bond_is_mutual (peers : List Peer) (a b : Peer) (requestId : List UInt8)
    (streamA streamB : NodeId → List Enr)
    (ha : answering peers a.net.localNodeId a.endpoint = some a.net)
    (hb : answering peers b.net.localNodeId b.endpoint = some b.net)
    (hne : a.net.localNodeId ≠ b.net.localNodeId)
    (hka : 0 < a.net.routingTable.bucketSize) (hkb : 0 < b.net.routingTable.bucketSize) :
    let requester : Requester :=
      ⟨a.net.localNodeId, a.endpoint, a.net.localEnr.sequenceNumber, requestId⟩
    let bonded :=
      a.net.bond (honestRemote peers requester streamA) b.net.localNodeId (some b.endpoint)
    let pinged := b.net.pongWhenPinged
      (honestRemote peers ⟨b.net.localNodeId, b.endpoint, b.net.localEnr.sequenceNumber, requestId⟩
        streamB) requester.ping
    bonded.1 = .ok true ∧ pinged.2.1 = .ok () ∧
      pinged.1 = ⟨requestId, b.net.localEnr.sequenceNumber, a.endpoint.ipAddress, a.endpoint.port⟩ ∧
      b.net.localNodeId ∈ bonded.2.routingTable.allIds ∧
      a.net.localNodeId ∈ pinged.2.2.routingTable.allIds ∧
      (∃ r, bonded.2.enrDb.getEnr b.net.localNodeId = some r ∧
        b.net.localEnr.sequenceNumber ≤ r.sequenceNumber) ∧
      ∃ r, pinged.2.2.enrDb.getEnr a.net.localNodeId = some r ∧
        a.net.localEnr.sequenceNumber ≤ r.sequenceNumber := by
  intro requester bonded pinged
  obtain ⟨hok, hin, hrec⟩ := bond_honest_adds peers requester streamA hka hne.symm (.inl rfl) hb
  obtain ⟨hok', hin', r, hget, hle⟩ := maybeAddToRoutingTable_honest peers
    ⟨b.net.localNodeId, b.endpoint, b.net.localEnr.sequenceNumber, requestId⟩ streamB hkb hne ha
    a.net.localEnr.sequenceNumber
  exact ⟨hok, hok', rfl, hin, hin', hrec, r, hget, by simpa using hle⟩

end Network

/-- A node of id `1` with nothing stored, listening on `127.0.0.1:30301`. -/
def listeningPeer : Peer :=
  ⟨⟨⟨1#256, 3, []⟩, KademliaRoutingTable.empty 1#256 16, ⟨[]⟩, false, rfl,
    KademliaRoutingTable.empty_valid _ _⟩, ⟨.bytes [127, 0, 0, 1], .int 30301⟩⟩

/-- `freshNetwork`, listening on `127.0.0.1:30300`. -/
def freshPeer : Peer := ⟨freshNetwork, ⟨.bytes [127, 0, 0, 1], .int 30300⟩⟩

theorem bond_with_honest_peers_at_fresh :
    0 < freshNetwork.routingTable.bucketSize ∧ (1#256 : NodeId) ≠ freshNetwork.localNodeId ∧
      Resolves freshNetwork 1#256 (some listeningPeer.endpoint) listeningPeer.endpoint ∧
      (freshNetwork.bond (honestRemote [listeningPeer] ⟨0#256, freshPeer.endpoint, 1, []⟩ fun _ => [])
          1#256 (some listeningPeer.endpoint)).1 =
        .ok (answering [listeningPeer] 1#256 listeningPeer.endpoint).isSome ∧
      (∀ b, answering [listeningPeer] 1#256 listeningPeer.endpoint = some b →
        (1#256 : NodeId) ∈ (freshNetwork.bond (honestRemote [listeningPeer]
          ⟨0#256, freshPeer.endpoint, 1, []⟩ fun _ => []) 1#256
            (some listeningPeer.endpoint)).2.routingTable.allIds ∧
        ∃ r, (freshNetwork.bond (honestRemote [listeningPeer] ⟨0#256, freshPeer.endpoint, 1, []⟩
            fun _ => []) 1#256 (some listeningPeer.endpoint)).2.enrDb.getEnr 1#256 = some r ∧
          b.localEnr.sequenceNumber ≤ r.sequenceNumber) ∧
      (answering [listeningPeer] 1#256 listeningPeer.endpoint = none →
        (freshNetwork.bond (honestRemote [listeningPeer] ⟨0#256, freshPeer.endpoint, 1, []⟩
          fun _ => []) 1#256 (some listeningPeer.endpoint)).2 = freshNetwork) :=
  ⟨by decide, by decide, .inl rfl, Network.bond_with_honest_peers [listeningPeer]
    ⟨0#256, freshPeer.endpoint, 1, []⟩ (fun _ => []) (by decide) (by decide) (.inl rfl)⟩

theorem bond_is_mutual_at_fresh :
    answering [freshPeer, listeningPeer] freshPeer.net.localNodeId freshPeer.endpoint =
        some freshPeer.net ∧
      answering [freshPeer, listeningPeer] listeningPeer.net.localNodeId listeningPeer.endpoint =
        some listeningPeer.net ∧
      freshPeer.net.localNodeId ≠ listeningPeer.net.localNodeId ∧
      0 < freshPeer.net.routingTable.bucketSize ∧ 0 < listeningPeer.net.routingTable.bucketSize ∧
      let requester : Requester :=
        ⟨freshPeer.net.localNodeId, freshPeer.endpoint, freshPeer.net.localEnr.sequenceNumber, []⟩
      let bonded := freshPeer.net.bond (honestRemote [freshPeer, listeningPeer] requester fun _ => [])
        listeningPeer.net.localNodeId (some listeningPeer.endpoint)
      let pinged := listeningPeer.net.pongWhenPinged
        (honestRemote [freshPeer, listeningPeer] ⟨listeningPeer.net.localNodeId,
          listeningPeer.endpoint, listeningPeer.net.localEnr.sequenceNumber, []⟩ fun _ => [])
        requester.ping
      bonded.1 = .ok true ∧ pinged.2.1 = .ok () ∧
        pinged.1 = ⟨[], listeningPeer.net.localEnr.sequenceNumber, freshPeer.endpoint.ipAddress,
          freshPeer.endpoint.port⟩ ∧
        listeningPeer.net.localNodeId ∈ bonded.2.routingTable.allIds ∧
        freshPeer.net.localNodeId ∈ pinged.2.2.routingTable.allIds ∧
        (∃ r, bonded.2.enrDb.getEnr listeningPeer.net.localNodeId = some r ∧
          listeningPeer.net.localEnr.sequenceNumber ≤ r.sequenceNumber) ∧
        ∃ r, pinged.2.2.enrDb.getEnr freshPeer.net.localNodeId = some r ∧
          freshPeer.net.localEnr.sequenceNumber ≤ r.sequenceNumber :=
  have ha : answering [freshPeer, listeningPeer] freshPeer.net.localNodeId freshPeer.endpoint =
      some freshPeer.net := rfl
  have hb : answering [freshPeer, listeningPeer] listeningPeer.net.localNodeId
      listeningPeer.endpoint = some listeningPeer.net := rfl
  ⟨ha, hb, by decide, by decide, by decide, Network.bond_is_mutual _ freshPeer listeningPeer []
    (fun _ => []) (fun _ => []) ha hb (by decide) (by decide) (by decide)⟩

end Ddht
