import Ddht.Node.Step
import Ddht.Network.Serve

/-!
# Every id a node holds has a record

Every path that puts an id into the routing table or a lookup's `received_node_ids` stores its
record first, so no step of a node meets a `KeyError`.
-/

namespace Ddht

namespace Node

variable {n n' : Node}

/-- Every routing-table id has a record, and each lookup finds all it may read. -/
structure Covered (n : Node) : Prop where
  table : ∀ x ∈ n.net.routingTable.allIds, n.net.enrDb.Has x
  lookups : ∀ r ∈ n.lookups, Lookup.Stored n.net.enrDb r.state

theorem Covered.nodes (hc : Covered n) : ∀ x ∈ n.net.routingTable.nodes, n.net.enrDb.Has x :=
  fun x hx => hc.table x (KademliaRoutingTable.nodes_subset_allIds _ hx)

theorem covered_start (localEnr : Enr) (bucketSize : Nat) (db : EnrDb)
    (cache : List (NodeId × Int)) (now : Int) : Covered (start localEnr bucketSize db cache now) :=
  ⟨fun x hx => by
    obtain ⟨i, hi | hi⟩ := KademliaRoutingTable.mem_allIds.mp hx <;> exact absurd hi (List.not_mem_nil x),
    fun r hr => absurd hr (List.not_mem_nil r)⟩

theorem covered_step (hc : Covered n) {a : Action} (h : n.step a = some n') : Covered n' := by
  cases a with
  | startLookup target =>
    obtain rfl := step_startLookup h
    refine ⟨hc.table, fun r hr => ?_⟩
    rcases List.mem_append.mp hr with hr | hr
    · exact hc.lookups r hr
    · obtain rfl := List.mem_singleton.mp hr
      exact Lookup.stored_init _ _ _ _
  | lookup k a =>
    obtain ⟨r, s, sh, hk, hs, rfl⟩ := step_lookup h
    obtain ⟨-, -, grow⟩ := Lookup.step_shared_grows hs
    refine ⟨fun x hx => grow x (hc.table x hx), fun r' hr' => ?_⟩
    rcases List.mem_or_eq_of_mem_set hr' with hr' | rfl
    · exact (hc.lookups r' hr').mono grow
    · have hn : ∀ x ∈ n.shared.nodes, n.shared.enrDb.Has x := hc.nodes
      exact Lookup.stored_step hn (hc.lookups r (List.getElem?_mem hk)) hs
  | storeEnr enr =>
    obtain rfl := step_storeEnr h
    exact ⟨fun x hx => EnrDb.has_store_of_has (hc.table x hx),
      fun r hr => (hc.lookups r hr).mono fun _ => EnrDb.has_store_of_has⟩
  | bondCached nodeId enrSeq =>
    obtain ⟨enr, hget, rfl⟩ := step_bondCached h
    refine ⟨fun x hx => ?_, hc.lookups⟩
    rcases KademliaRoutingTable.allIds_update hx with rfl | hx
    · exact EnrDb.getEnr_nodeId hget ▸ EnrDb.has_of_getEnr hget
    · exact hc.table x hx
  | bondFetched nodeId responses =>
    obtain ⟨enr, -, rfl⟩ := step_bondFetched h
    refine ⟨fun x hx => ?_, fun r hr => (hc.lookups r hr).mono fun _ => EnrDb.has_store_of_has⟩
    rcases KademliaRoutingTable.allIds_update hx with rfl | hx
    · exact EnrDb.has_store_iff.mpr (.inl rfl)
    · exact EnrDb.has_store_of_has (hc.table x hx)
  | evict nodeId =>
    obtain rfl := step_evict h
    exact ⟨fun x hx => hc.table x (KademliaRoutingTable.allIds_remove hx), hc.lookups⟩
  | tick now =>
    obtain ⟨-, rfl⟩ := step_tick h
    exact ⟨hc.table, hc.lookups⟩

theorem covered_reachable {localEnr : Enr} {bucketSize : Nat} {db : EnrDb}
    {cache : List (NodeId × Int)} {now : Int}
    (h : Reachable (start localEnr bucketSize db cache now) n) : Covered n := by
  induction h with
  | refl => exact covered_start localEnr bucketSize db cache now
  | tail _ hs ih =>
    obtain ⟨a, hs⟩ := hs
    exact covered_step ih hs

/-- No node step forgets a record or takes one back to an older sequence number. -/
theorem step_newer {a : Action} (h : n.step a = some n') : n.net.enrDb.Newer n'.net.enrDb := by
  cases a with
  | startLookup target => rw [step_startLookup h]; exact .refl _
  | lookup k a => obtain ⟨r, s, sh, -, hs, rfl⟩ := step_lookup h; exact Lookup.step_newer hs
  | storeEnr enr => rw [step_storeEnr h]; exact EnrDb.newer_store _ _
  | bondCached nodeId enrSeq => obtain ⟨enr, -, rfl⟩ := step_bondCached h; exact .refl _
  | bondFetched nodeId responses =>
    obtain ⟨enr, -, rfl⟩ := step_bondFetched h; exact EnrDb.newer_store _ _
  | evict nodeId => rw [step_evict h]; exact .refl _
  | tick now => obtain ⟨-, rfl⟩ := step_tick h; exact .refl _

theorem newer_reachable {n₀ : Node} (h : Reachable n₀ n) : n₀.net.enrDb.Newer n.net.enrDb := by
  induction h with
  | refl => exact .refl _
  | tail _ hs ih => obtain ⟨a, hs⟩ := hs; exact ih.trans (step_newer hs)

/-- Over every node run, the database keeps a record of each node it held, never an older one. -/
theorem enr_records_never_regress {n₀ : Node} (h : Reachable n₀ n) (x : NodeId) (r : Enr)
    (hr : n₀.net.enrDb.getEnr x = some r) :
    ∃ r', n.net.enrDb.getEnr x = some r' ∧ r.sequenceNumber ≤ r'.sequenceNumber :=
  newer_reachable h x r hr

/-- At every reachable node, each id of the routing table, buckets and caches alike, and each id
a lookup recorded is a key of the database: no `KeyError` in `_serve_find_nodes` or a worker's
routing-table loop, and no nested lookup from `endpoint_for_node_id` of a candidate. -/
theorem node_ids_have_records {localEnr : Enr} {bucketSize : Nat} {db : EnrDb}
    {cache : List (NodeId × Int)} {now : Int}
    (h : Reachable (start localEnr bucketSize db cache now) n) :
    (∀ x ∈ n.net.routingTable.allIds, n.net.enrDb.Has x) ∧
      (∀ r ∈ n.lookups, ∀ x ∈ r.state.receivedNodeIds, n.net.enrDb.Has x) ∧
      (∀ req, serveFindNodes n.net req ≠ .error .keyError) ∧
      (∀ r ∈ n.lookups, ∀ i p, Lookup.step r.cfg n.shared r.state (.workerAnnounce i) = some p →
        p.1.raised = none) ∧
      ∀ remote, ∀ r ∈ n.lookups,
        ∀ x ∈ iterClosestNodes r.cfg.target n.net.routingTable.nodes r.state.receivedNodeIds,
          ∃ enr, n.net.enrDb.getEnr x = some enr ∧
            Network.endpointForNodeId remote n.net x = (Endpoint.fromEnr enr, n.net) := by
  have hc := covered_reachable h
  refine ⟨hc.table, fun r hr => (hc.lookups r hr).received, fun req => ?_, fun r hr i ⟨s', sh'⟩ hp => ?_,
    fun remote r hr x hx => ?_⟩
  · obtain ⟨out, hout, -⟩ := Network.serveFindNodes_ok hc.nodes req
    rw [hout]; nofun
  · obtain ⟨rfl, hraised, b, x, rest, hw, hs⟩ := Lookup.step_workerAnnounce hp
    rw [hs, Lookup.announce_raised (hc.lookups r hr) hw, hraised]
  · have hx : n.net.enrDb.Has x := (mem_iterClosestNodes.mp hx).elim (hc.nodes x)
      ((hc.lookups r hr).received x)
    obtain ⟨enr, hget⟩ := Option.isSome_iff_exists.mp hx
    exact ⟨enr, hget, by simp [Network.endpointForNodeId, hget]⟩

/-- A node knowing `0x01`'s record at sequence number 3, after it stores an older one. -/
theorem enr_records_never_regress_after_stale_store :
    Reachable (start ⟨0#256, 1, []⟩ 16 ⟨[⟨1#256, 3, []⟩]⟩ [] 0)
        { start ⟨0#256, 1, []⟩ 16 ⟨[⟨1#256, 3, []⟩]⟩ [] 0 with
          net := (start ⟨0#256, 1, []⟩ 16 ⟨[⟨1#256, 3, []⟩]⟩ [] 0).net.storeEnr ⟨1#256, 2, []⟩ } ∧
      (start ⟨0#256, 1, []⟩ 16 ⟨[⟨1#256, 3, []⟩]⟩ [] 0).net.enrDb.getEnr 1#256 =
        some ⟨1#256, 3, []⟩ ∧
      ∃ r', ((start ⟨0#256, 1, []⟩ 16 ⟨[⟨1#256, 3, []⟩]⟩ [] 0).net.storeEnr
          ⟨1#256, 2, []⟩).enrDb.getEnr 1#256 = some r' ∧
        (⟨1#256, 3, []⟩ : Enr).sequenceNumber ≤ r'.sequenceNumber :=
  have h : Reachable (start ⟨0#256, 1, []⟩ 16 ⟨[⟨1#256, 3, []⟩]⟩ [] 0)
      { start ⟨0#256, 1, []⟩ 16 ⟨[⟨1#256, 3, []⟩]⟩ [] 0 with
        net := (start ⟨0#256, 1, []⟩ 16 ⟨[⟨1#256, 3, []⟩]⟩ [] 0).net.storeEnr ⟨1#256, 2, []⟩ } :=
    .single ⟨.storeEnr ⟨1#256, 2, []⟩, rfl⟩
  have hr : (start ⟨0#256, 1, []⟩ 16 ⟨[⟨1#256, 3, []⟩]⟩ [] 0).net.enrDb.getEnr 1#256 =
      some ⟨1#256, 3, []⟩ := rfl
  ⟨h, hr, enr_records_never_regress h 1#256 ⟨1#256, 3, []⟩ hr⟩

theorem node_ids_have_records_when_querying :
    Reachable fresh queryingNode ∧ queryingNode.net.routingTable.nodes = [1#256] ∧
      queryingNode.lookups.map (·.state.receivedNodeIds) = [[1#256]] ∧
      (∀ x ∈ queryingNode.net.routingTable.allIds, queryingNode.net.enrDb.Has x) ∧
      (∀ r ∈ queryingNode.lookups, ∀ x ∈ r.state.receivedNodeIds, queryingNode.net.enrDb.Has x) ∧
      (∀ req, serveFindNodes queryingNode.net req ≠ .error .keyError) ∧
      (∀ r ∈ queryingNode.lookups, ∀ i p, Lookup.step r.cfg queryingNode.shared r.state
        (.workerAnnounce i) = some p → p.1.raised = none) ∧
      ∀ remote, ∀ r ∈ queryingNode.lookups,
        ∀ x ∈ iterClosestNodes r.cfg.target queryingNode.net.routingTable.nodes
            r.state.receivedNodeIds,
          ∃ enr, queryingNode.net.enrDb.getEnr x = some enr ∧
            Network.endpointForNodeId remote queryingNode.net x =
              (Endpoint.fromEnr enr, queryingNode.net) :=
  ⟨reachable_queryingNode, bondedNode_nodes, by decide,
    node_ids_have_records reachable_queryingNode⟩

/-- `_serve_find_nodes` at every reachable node never raises, ignores exactly the malformed
requests, and answers the rest under their request id with the owed ENRs, once each, each
passing the requester's `validate_found_nodes_distances`. -/
theorem serveFindNodes_at_reachable_node {localEnr : Enr} {bucketSize : Nat} {db : EnrDb}
    {cache : List (NodeId × Int)} {now : Int}
    (h : Reachable (start localEnr bucketSize db cache now) n) (req : FindNodeMessage) :
    ∃ out, serveFindNodes n.net req = .ok out ∧
      (out = none ↔ req.distances.dedup.length ≠ req.distances.length ∨ req.distances = [] ∨
        ∃ d ∈ req.distances, numBuckets < d) ∧
      ∀ rid enrs, out = some (rid, enrs) →
        rid = req.requestId ∧ (∀ e, e ∈ enrs ↔ n.net.Owed req.distances e) ∧
          (enrs.map (·.nodeId)).Nodup ∧
          validateFoundNodesDistances enrs n.net.localNodeId req.distances = .ok () :=
  Network.serveFindNodes_ok (covered_reachable h).nodes req

/-- `queryingNode` asked for distances 0 and 1 sends its own ENR and that of `0x01`. -/
theorem serveFindNodes_at_querying_node :
    Reachable fresh queryingNode ∧
      serveFindNodes queryingNode.net ⟨[7], [0, 1]⟩ =
        .ok (some ([7], [⟨0#256, 1, []⟩, listeningBootnode])) ∧
      ∃ out, serveFindNodes queryingNode.net ⟨[7], [0, 1]⟩ = .ok out ∧
        (out = none ↔ ([0, 1] : List Nat).dedup.length ≠ [0, 1].length ∨ [0, 1] = [] ∨
          ∃ d ∈ [0, 1], numBuckets < d) ∧
        ∀ rid enrs, out = some (rid, enrs) →
          rid = [7] ∧ (∀ e, e ∈ enrs ↔ queryingNode.net.Owed [0, 1] e) ∧
            (enrs.map (·.nodeId)).Nodup ∧
            validateFoundNodesDistances enrs queryingNode.net.localNodeId [0, 1] = .ok () :=
  ⟨reachable_queryingNode, by decide,
    serveFindNodes_at_reachable_node reachable_queryingNode ⟨[7], [0, 1]⟩⟩

end Node

end Ddht
