import Ddht.Node.Records
import Ddht.Network.Peer

/-!
# Managing the routing table

`_manage_routing_table` stores the bootnodes' ENRs, bonds with every bootnode round after round
until `_routing_table_ready` is set, then probes the network: each round looks up a random id
at the distance of a non-full bucket and bonds with every ENR the lookup yields. Every round is
a run of node steps; against peers that answer with their own handlers none raises.
-/

namespace Ddht

/-- The ids at log distance `d + 1` from `c` are told apart by their XOR distance to `c`,
which lies in `[2 ^ d, 2 ^ (d + 1))`: there are at most `2 ^ d` of them. -/
theorem length_le_of_logDistance {c : NodeId} {d : Nat} {l : List NodeId} (hl : l.Nodup)
    (hd : ∀ x ∈ l, computeLogDistance c x = d + 1) : l.length ≤ 2 ^ d := by
  have hsub : l.map (computeDistance c) ⊆ List.range' (2 ^ d) (2 ^ d) := fun n hn => by
    obtain ⟨x, hx, rfl⟩ := List.mem_map.mp hn
    have hs := hd x hx
    rw [computeLogDistance_eq_size] at hs
    have hlo := Nat.lt_size.mp (show d < (computeDistance c x).size by omega)
    have hhi := Nat.size_le.mp hs.le
    rw [List.mem_range'_1]
    omega
  have hnd : (l.map (computeDistance c)).Nodup := hl.map_on fun x _ y _ h =>
    computeDistance_inj ((computeDistance_comm x c).trans (h.trans (computeDistance_comm c y)))
  simpa using (List.subperm_of_subset hnd hsub).length_le

/-- Every distance from 1 to 256 is the log distance of some id from `c`. -/
theorem exists_logDistance (c : NodeId) {d : Nat} (h1 : 1 ≤ d) (h2 : d ≤ 256) :
    ∃ x, computeLogDistance c x = d := by
  refine ⟨c ^^^ BitVec.ofNat 256 (2 ^ (d - 1)), ?_⟩
  have hlt : 2 ^ (d - 1) < 2 ^ 256 := Nat.pow_lt_pow_right Nat.one_lt_two (by omega)
  rw [computeLogDistance_eq_size, computeDistance, ← BitVec.xor_assoc, BitVec.xor_self,
    BitVec.zero_xor, BitVec.toNat_ofNat, Nat.mod_eq_of_lt hlt, Nat.size_pow]
  omega

namespace Network

/-- `non_full_bucket_distances` in `_manage_routing_table`: `idx + 1` for each bucket with
fewer than `bucket_size` ids, in bucket order, the last 16 of them. -/
def nonFullBucketDistances (routingTable : KademliaRoutingTable) : List Nat :=
  let distances := ((List.finRange 256).filter fun idx =>
    (routingTable.buckets idx).length < routingTable.bucketSize).map fun idx => idx.val + 1
  distances.drop (distances.length - 16)

theorem mem_nonFullBucketDistances {t : KademliaRoutingTable} {d : Nat}
    (h : d ∈ nonFullBucketDistances t) :
    ∃ idx : Fin 256, (t.buckets idx).length < t.bucketSize ∧ d = idx.val + 1 := by
  obtain ⟨idx, hidx, rfl⟩ := List.mem_map.mp (List.mem_of_mem_drop h)
  exact ⟨idx, by simpa using hidx, rfl⟩

/-- With buckets of at least two, bucket 1, of at most one id, is never full. -/
theorem nonFullBucketDistances_ne_nil {t : KademliaRoutingTable} (hk : 2 ≤ t.bucketSize)
    (hdist : ∀ i, ∀ x ∈ t.buckets i, computeLogDistance t.centerNodeId x = i + 1)
    (hnd : ∀ i, (t.buckets i).Nodup) : nonFullBucketDistances t ≠ [] := by
  have hfirst : (t.buckets 0).length < t.bucketSize := by
    have := length_le_of_logDistance (hnd 0) (d := 0) (hdist 0)
    simp only [pow_zero] at this
    omega
  have hmem : 1 ∈ ((List.finRange 256).filter fun idx =>
      (t.buckets idx).length < t.bucketSize).map fun idx => idx.val + 1 :=
    List.mem_map.mpr ⟨0, by simpa using hfirst, rfl⟩
  intro h
  rw [nonFullBucketDistances, List.drop_eq_nil_iff] at h
  have := List.length_pos_of_mem hmem
  omega

/-- Every distance in the tuple lies in `[1, 256]`, where `at_log_distance` finds ids. -/
theorem logDistance_of_mem_nonFullBucketDistances {t : KademliaRoutingTable} {d : Nat}
    (hd : d ∈ nonFullBucketDistances t) :
    1 ≤ d ∧ d ≤ 256 ∧ ∃ x, computeLogDistance t.centerNodeId x = d := by
  obtain ⟨idx, -, rfl⟩ := mem_nonFullBucketDistances hd
  exact ⟨by omega, idx.isLt, exists_logDistance _ (by omega) idx.isLt⟩

/-- With buckets of at least two holding distinct ids at their own distances, the tuple
`weighted_choice` picks from is non-empty and lies in `[1, 256]`. -/
theorem nonFullBucketDistances_valid (t : KademliaRoutingTable) (hk : 2 ≤ t.bucketSize)
    (hdist : ∀ i, ∀ x ∈ t.buckets i, computeLogDistance t.centerNodeId x = i + 1)
    (hnd : ∀ i, (t.buckets i).Nodup) :
    nonFullBucketDistances t ≠ [] ∧
      ∀ d ∈ nonFullBucketDistances t,
        1 ≤ d ∧ d ≤ 256 ∧ ∃ x, computeLogDistance t.centerNodeId x = d :=
  ⟨nonFullBucketDistances_ne_nil hk hdist hnd, fun _ => logDistance_of_mem_nonFullBucketDistances⟩

end Network

namespace Node

/-- A node with buckets of two, built knowing the records of `0x02` and `0x03`, after it bonds
with both from those records: both lie at log distance 2, so its second bucket is full. -/
def fullBucketNode : Node :=
  let n := start ⟨0#256, 1, []⟩ 2 ⟨[⟨2#256, 1, []⟩, ⟨3#256, 1, []⟩]⟩ [] 0
  { n with net := (n.net.addToRoutingTable 2#256).addToRoutingTable 3#256 }

theorem reachable_fullBucketNode :
    Reachable (start ⟨0#256, 1, []⟩ 2 ⟨[⟨2#256, 1, []⟩, ⟨3#256, 1, []⟩]⟩ [] 0) fullBucketNode :=
  have h : (start ⟨0#256, 1, []⟩ 2 ⟨[⟨2#256, 1, []⟩, ⟨3#256, 1, []⟩]⟩ [] 0).step
      (.bondCached 2#256 1) = some { start ⟨0#256, 1, []⟩ 2 ⟨[⟨2#256, 1, []⟩, ⟨3#256, 1, []⟩]⟩ [] 0 with
        net := (start ⟨0#256, 1, []⟩ 2 ⟨[⟨2#256, 1, []⟩, ⟨3#256, 1, []⟩]⟩ [] 0).net.addToRoutingTable
          2#256 } := rfl
  .tail (.single ⟨_, h⟩) ⟨.bondCached 3#256 1, rfl⟩

theorem nonFullBucketDistances_valid_with_full_bucket :
    (fullBucketNode.net.routingTable.buckets 1).length =
        fullBucketNode.net.routingTable.bucketSize ∧
      2 ≤ fullBucketNode.net.routingTable.bucketSize ∧
      (∀ i, ∀ x ∈ fullBucketNode.net.routingTable.buckets i,
        computeLogDistance fullBucketNode.net.routingTable.centerNodeId x = i + 1) ∧
      (∀ i, (fullBucketNode.net.routingTable.buckets i).Nodup) ∧
      (Network.nonFullBucketDistances fullBucketNode.net.routingTable ≠ [] ∧
        ∀ d ∈ Network.nonFullBucketDistances fullBucketNode.net.routingTable,
          1 ≤ d ∧ d ≤ 256 ∧
            ∃ x, computeLogDistance fullBucketNode.net.routingTable.centerNodeId x = d) :=
  have hv := fullBucketNode.net.valid
  ⟨by decide, by decide, hv.bucket_distance, hv.bucket_nodup,
    Network.nonFullBucketDistances_valid _ (by decide) hv.bucket_distance hv.bucket_nodup⟩

end Node

namespace Network

section Bootstrap

variable (remote : Remote)

/-- `_manage_routing_table`'s first loop: each bootnode's `set_enr`, `OldSequenceNumber` ignored. -/
def loadBootnodes (net : Network) (bootnodes : List Enr) : Network := bootnodes.foldl storeEnr net

/-- The `_bond` tasks of a bootstrap round: each bootnode but the local node, at its ENR's
endpoint; `Endpoint.from_enr` runs before any task, so a missing one raises out of the round. -/
def bootstrapBonds (localNodeId : NodeId) : List Enr → Except NetError (List (NodeId × Endpoint))
  | [] => .ok []
  | enr :: rest =>
    if enr.nodeId = localNodeId then bootstrapBonds localNodeId rest
    else do
      let endpoint ← Endpoint.fromEnr enr
      let bonds ← bootstrapBonds localNodeId rest
      return (enr.nodeId, endpoint) :: bonds

/-- The round's `_bond` tasks run to their ends, one after another; an exception escaping one
cancels the nursery and leaves the round. -/
def bondAll (net : Network) : List (NodeId × Endpoint) → Except NetError Network
  | [] => .ok net
  | (nodeId, endpoint) :: rest =>
    match net.bond remote nodeId (some endpoint) with
    | (.ok _, net') => bondAll net' rest
    | (.error e, _) => .error e

/-- One round of the bootstrap loop, up to `await self._routing_table_ready.wait()`: the loop
ends after a round that leaves `_routing_table_ready` set, and runs another otherwise. -/
def bootstrapRound (net : Network) (bootnodes : List Enr) : Except NetError Network :=
  bootstrapBonds net.localNodeId bootnodes >>= bondAll remote net

theorem fromEnr_error {enr : Enr} {e : NetError} (h : Endpoint.fromEnr enr = .error e) :
    e = .missingEndpointFields := by
  unfold Endpoint.fromEnr at h
  split at h <;> cases h; rfl

/-- The bonds a round starts: every bootnode but the local node, at its ENR's endpoint, when
every such bootnode names one; `MissingEndpointFields` otherwise. -/
theorem bootstrapBonds_spec (localNodeId : NodeId) :
    ∀ bootnodes : List Enr,
      ((∃ enr ∈ bootnodes, enr.nodeId ≠ localNodeId ∧
          Endpoint.fromEnr enr = .error .missingEndpointFields) →
        bootstrapBonds localNodeId bootnodes = .error .missingEndpointFields) ∧
      ((∀ enr ∈ bootnodes, enr.nodeId ≠ localNodeId → ∃ ep, Endpoint.fromEnr enr = .ok ep) →
        ∃ bonds, bootstrapBonds localNodeId bootnodes = .ok bonds ∧
          ∀ nodeId ep, (nodeId, ep) ∈ bonds ↔ ∃ enr ∈ bootnodes, enr.nodeId ≠ localNodeId ∧
            enr.nodeId = nodeId ∧ Endpoint.fromEnr enr = .ok ep)
  | [] => ⟨fun ⟨_, h, _⟩ => absurd h (List.not_mem_nil _), fun _ => ⟨[], rfl, by simp⟩⟩
  | enr :: rest => by
    obtain ⟨ihbad, ihok⟩ := bootstrapBonds_spec localNodeId rest
    by_cases hl : enr.nodeId = localNodeId
    · simp only [bootstrapBonds, if_pos hl, List.mem_cons, exists_eq_or_imp, hl, ne_eq,
        not_true_eq_false, false_and, false_or, forall_eq_or_imp, false_implies, true_and]
      exact ⟨ihbad, ihok⟩
    · simp only [bootstrapBonds, if_neg hl, List.exists_mem_cons_iff, List.forall_mem_cons]
      constructor
      · rintro (⟨-, hbad⟩ | hbad)
        · simp [hbad, bind, Except.bind]
        · cases hep : Endpoint.fromEnr enr with
          | error e => simp [fromEnr_error hep, bind, Except.bind]
          | ok ep => simp [ihbad hbad, bind, Except.bind]
      · rintro ⟨hep, hrest⟩
        obtain ⟨ep, hep⟩ := hep hl
        obtain ⟨bonds, hb, hmem⟩ := ihok hrest
        refine ⟨(enr.nodeId, ep) :: bonds, by simp [hep, hb, bind, Except.bind, pure, Except.pure],
          fun nodeId ep' => ?_⟩
        simp only [List.mem_cons, Prod.mk.injEq, hmem, List.exists_mem_cons_iff]
        constructor
        · rintro (⟨rfl, rfl⟩ | h)
          · exact .inl ⟨hl, rfl, hep⟩
          · exact .inr h
        · rintro (⟨-, rfl, h⟩ | h)
          · exact .inl ⟨rfl, Except.ok.inj (h.symm.trans hep)⟩
          · exact .inr h

end Bootstrap

section HonestBootstrap

variable (peers : List Peer) (requester : Requester) (stream : NodeId → List Enr)

/-- Against honest peers the bonds of a round raise nothing and set `_routing_table_ready`
exactly when it was set or one of the nodes listens at the endpoint bonded with. -/
theorem bondAll_honest :
    ∀ (net : Network) (bonds : List (NodeId × Endpoint)), 0 < net.routingTable.bucketSize →
      (∀ p ∈ bonds, p.1 ≠ net.localNodeId) →
      ∃ net', bondAll (honestRemote peers requester stream) net bonds = .ok net' ∧
        (net'.routingTableReady = true ↔
          net.routingTableReady = true ∨ ∃ p ∈ bonds, (answering peers p.1 p.2).isSome)
  | net, [], _, _ => ⟨net, rfl, by simp⟩
  | net, (nodeId, ep) :: rest, hk, hne => by
    have hne' : ∀ p ∈ rest, p.1 ≠ net.localNodeId := fun p hp => hne p (.tail _ hp)
    cases h : answering peers nodeId ep with
    | none =>
      obtain ⟨net', hall, hready⟩ := bondAll_honest net rest hk hne'
      refine ⟨net', by simp only [bondAll, bond_silent peers requester stream (.inl rfl) h, hall],
        ?_⟩
      simp [hready, h]
    | some b =>
      obtain ⟨net₁, hnet₁, hbond, -⟩ := bond_honest peers requester stream
        (hne (nodeId, ep) (.head _)) (.inl rfl) h
      have hsame : (net₁.addToRoutingTable nodeId).routingTable.bucketSize =
          net.routingTable.bucketSize ∧ (net₁.addToRoutingTable nodeId).localNodeId = net.localNodeId := by
        rcases hnet₁ with rfl | rfl <;>
          exact ⟨KademliaRoutingTable.update_bucketSize _ _, rfl⟩
      obtain ⟨net', hall, hready⟩ := bondAll_honest (net₁.addToRoutingTable nodeId) rest
        (hsame.1 ▸ hk) (hsame.2 ▸ hne')
      refine ⟨net', by simp only [bondAll, hbond, hall], ?_⟩
      simp only [hready, Network.addToRoutingTable, true_or, true_iff]
      exact .inr ⟨(nodeId, ep), .head _, by simp [h]⟩

end HonestBootstrap

section Probe

variable (remote : Remote)

end Probe

section HonestProbe

variable (peers : List Peer) (requester : Requester) (stream : NodeId → List Enr)
variable {net : Network} {nodeId : NodeId} {r : Enr}

end HonestProbe

end Network

namespace Node

variable (remote : Remote)

/-- Whatever the peers answer, the round's bonds are a run of node steps. -/
theorem reachable_bondAll :
    ∀ (n : Node) (bonds : List (NodeId × Endpoint)) (net' : Network),
      Network.bondAll remote n.net bonds = .ok net' → Reachable n { n with net := net' }
  | n, [], net', h => by cases h; exact .refl
  | n, (nodeId, ep) :: rest, net', h => by
    unfold Network.bondAll at h
    have hb := reachable_bond remote n nodeId (some ep)
    generalize n.net.bond remote nodeId (some ep) = r at h hb
    obtain ⟨_ | _, net₁⟩ := r
    · cases h
    · exact hb.trans (reachable_bondAll { n with net := net₁ } rest net' h)

/-- A bootstrap round raises `MissingEndpointFields` before any bond when a non-local bootnode
names no endpoint; otherwise, against honest peers, it raises nothing, is a run of node steps,
and sets `_routing_table_ready` iff it was set or a non-local bootnode listens at its endpoint. -/
theorem bootstrapRound_with_honest_peers (n : Node) (hk : 0 < n.net.routingTable.bucketSize)
    (peers : List Peer) (requester : Requester) (stream : NodeId → List Enr)
    (bootnodes : List Enr) :
    ((∃ enr ∈ bootnodes, enr.nodeId ≠ n.net.localNodeId ∧
        Endpoint.fromEnr enr = .error .missingEndpointFields) →
      n.net.bootstrapRound (honestRemote peers requester stream) bootnodes =
        .error .missingEndpointFields) ∧
      ((∀ enr ∈ bootnodes, enr.nodeId ≠ n.net.localNodeId → ∃ ep, Endpoint.fromEnr enr = .ok ep) →
        ∃ net', n.net.bootstrapRound (honestRemote peers requester stream) bootnodes = .ok net' ∧
          Reachable n { n with net := net' } ∧
          (net'.routingTableReady = true ↔ n.net.routingTableReady = true ∨
            ∃ enr ∈ bootnodes, enr.nodeId ≠ n.net.localNodeId ∧
              ∃ ep, Endpoint.fromEnr enr = .ok ep ∧ (answering peers enr.nodeId ep).isSome)) := by
  obtain ⟨hbad, hok⟩ := Network.bootstrapBonds_spec n.net.localNodeId bootnodes
  refine ⟨fun h => by simp [Network.bootstrapRound, hbad h, bind, Except.bind], fun h => ?_⟩
  obtain ⟨bonds, hb, hmem⟩ := hok h
  have hne : ∀ p ∈ bonds, p.1 ≠ n.net.localNodeId := fun p hp => by
    obtain ⟨enr, -, hl, he, -⟩ := (hmem p.1 p.2).mp hp
    exact he ▸ hl
  obtain ⟨net', hall, hready⟩ := Network.bondAll_honest peers requester stream n.net bonds hk hne
  refine ⟨net', by simp [Network.bootstrapRound, hb, hall, bind, Except.bind],
    reachable_bondAll _ n bonds net' hall, hready.trans (or_congr_right ⟨?_, ?_⟩)⟩
  · rintro ⟨⟨nodeId, ep⟩, hp, hs⟩
    obtain ⟨enr, he, hl, rfl, hep⟩ := (hmem nodeId ep).mp hp
    exact ⟨enr, he, hl, ep, hep, hs⟩
  · rintro ⟨enr, he, hl, ep, hep, hs⟩
    exact ⟨(enr.nodeId, ep), (hmem _ _).mpr ⟨enr, he, hl, rfl, hep⟩, hs⟩

theorem bootstrapRound_with_listening_bootnode :
    0 < fresh.net.routingTable.bucketSize ∧
      ((∃ enr ∈ [listeningBootnode], enr.nodeId ≠ fresh.net.localNodeId ∧
          Endpoint.fromEnr enr = .error .missingEndpointFields) →
        fresh.net.bootstrapRound (honestRemote [listeningPeer] ⟨0#256, freshPeer.endpoint, 1, []⟩
          fun _ => []) [listeningBootnode] = .error .missingEndpointFields) ∧
      ((∀ enr ∈ [listeningBootnode], enr.nodeId ≠ fresh.net.localNodeId →
          ∃ ep, Endpoint.fromEnr enr = .ok ep) →
        ∃ net', fresh.net.bootstrapRound (honestRemote [listeningPeer]
            ⟨0#256, freshPeer.endpoint, 1, []⟩ fun _ => []) [listeningBootnode] = .ok net' ∧
          Reachable fresh { fresh with net := net' } ∧
          (net'.routingTableReady = true ↔ fresh.net.routingTableReady = true ∨
            ∃ enr ∈ [listeningBootnode], enr.nodeId ≠ fresh.net.localNodeId ∧
              ∃ ep, Endpoint.fromEnr enr = .ok ep ∧ (answering [listeningPeer] enr.nodeId ep).isSome)) :=
  ⟨by decide, bootstrapRound_with_honest_peers fresh (by decide) _ _ _ _⟩

end Node

namespace Node

/-- At every reachable node with buckets of at least two, `_manage_routing_table` picks from a
non-empty tuple of distances that each hold an id: no call leaves its domain. -/
theorem refreshDistances_at_reachable_node {localEnr : Enr} {bucketSize : Nat} {db : EnrDb}
    {cache : List (NodeId × Int)} {now : Int} (hk : 2 ≤ bucketSize) {n : Node}
    (h : Reachable (start localEnr bucketSize db cache now) n) :
    Network.nonFullBucketDistances n.net.routingTable ≠ [] ∧
      ∀ d ∈ Network.nonFullBucketDistances n.net.routingTable,
        1 ≤ d ∧ d ≤ 256 ∧ ∃ x, computeLogDistance n.net.localNodeId x = d := by
  have hk' : 2 ≤ n.net.routingTable.bucketSize := (bucketSize_reachable h).symm ▸ hk
  rw [Network.localNodeId, ← n.net.center]
  exact ⟨Network.nonFullBucketDistances_ne_nil hk' n.net.valid.bucket_distance
    n.net.valid.bucket_nodup, fun _ => Network.logDistance_of_mem_nonFullBucketDistances⟩

theorem refreshDistances_at_full_bucket_node :
    2 ≤ 2 ∧ Reachable (start ⟨0#256, 1, []⟩ 2 ⟨[⟨2#256, 1, []⟩, ⟨3#256, 1, []⟩]⟩ [] 0) fullBucketNode ∧
      (fullBucketNode.net.routingTable.buckets 1).length = 2 ∧
      (Network.nonFullBucketDistances fullBucketNode.net.routingTable ≠ [] ∧
        ∀ d ∈ Network.nonFullBucketDistances fullBucketNode.net.routingTable,
          1 ≤ d ∧ d ≤ 256 ∧ ∃ x, computeLogDistance fullBucketNode.net.localNodeId x = d) :=
  ⟨le_rfl, reachable_fullBucketNode, by decide,
    refreshDistances_at_reachable_node le_rfl reachable_fullBucketNode⟩

end Node

end Ddht
