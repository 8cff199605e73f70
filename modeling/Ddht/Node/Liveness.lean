import Ddht.Node.Evict
import Ddht.Network.Manage
import Ddht.Lookup.Stall

/-!
# Live peers and stalled lookups of a reachable node

Every routing-table id of a reachable node has a stored record, so the node answers every
FINDNODE it does not ignore, and a keep-alive pass over entries that listen bonds and removes
nothing. A lookup of the node stalls only after the routing table changes, and then stays
stalled for as long as the table keeps its ids.
-/

namespace Ddht

namespace Node

variable {localEnr : Enr} {bucketSize : Nat} {db : EnrDb} {cache : List (NodeId × Int)}
  {now : Int} {n : Node}

/-- FINDNODE to a reachable node at its endpoint: no distance is a `TypeError`, a malformed
request is ignored and times out, any other gets the owed ENRs (the local ENR for 0, each asked
entry's record) once each, validated; the requester's state is unchanged. -/
theorem findNodes_from_reachable_node (hn : Reachable (start localEnr bucketSize db cache now) n)
    (peers : List Peer) (requester : Requester) (stream : NodeId → List Enr) {ep : Endpoint}
    (h : answering peers n.net.localNodeId ep = some n.net) (net : Network) (ds : List Nat) :
    (net.findNodes (honestRemote peers requester stream) n.net.localNodeId ds (some ep)).2 = net ∧
      (ds = [] →
        (net.findNodes (honestRemote peers requester stream) n.net.localNodeId ds (some ep)).1 =
          .error .noDistance) ∧
      (ds ≠ [] → ds.Nodup → (∀ d ∈ ds, d ≤ numBuckets) →
        ∃ enrs, (net.findNodes (honestRemote peers requester stream) n.net.localNodeId ds
            (some ep)).1 = .ok enrs ∧
          (∀ e, e ∈ enrs ↔ n.net.Owed ds e) ∧ (enrs.map (·.nodeId)).Nodup) ∧
      (ds ≠ [] → (¬ ds.Nodup ∨ ∃ d ∈ ds, numBuckets < d) →
        (net.findNodes (honestRemote peers requester stream) n.net.localNodeId ds (some ep)).1 =
          .error .tooSlow) :=
  Network.findNodes_honest peers requester stream h (covered_reachable hn).nodes ds

/-- `bondedNode`, listening at `127.0.0.1:30300`. -/
def bondedPeer : Peer := ⟨bondedNode.net, ⟨.bytes [127, 0, 0, 1], .int 30300⟩⟩

/-- `listeningPeer` asks `bondedNode` for distance 1 and gets the ENR of `0x01`. -/
theorem findNodes_from_bonded_node :
    Reachable fresh bondedNode ∧
      answering [bondedPeer] bondedNode.net.localNodeId bondedPeer.endpoint = some bondedNode.net ∧
      (listeningPeer.net.findNodes (honestRemote [bondedPeer] ⟨1#256, listeningPeer.endpoint, 3, []⟩
          fun _ => []) bondedNode.net.localNodeId [1] (some bondedPeer.endpoint)).1 =
        .ok [listeningBootnode] ∧
      (listeningPeer.net.findNodes (honestRemote [bondedPeer] ⟨1#256, listeningPeer.endpoint, 3, []⟩
          fun _ => []) bondedNode.net.localNodeId [1] (some bondedPeer.endpoint)).2 =
        listeningPeer.net ∧
      ([1] = [] →
        (listeningPeer.net.findNodes (honestRemote [bondedPeer] ⟨1#256, listeningPeer.endpoint, 3, []⟩
          fun _ => []) bondedNode.net.localNodeId [1] (some bondedPeer.endpoint)).1 =
          .error .noDistance) ∧
      ([1] ≠ [] → [1].Nodup → (∀ d ∈ [1], d ≤ numBuckets) →
        ∃ enrs, (listeningPeer.net.findNodes
            (honestRemote [bondedPeer] ⟨1#256, listeningPeer.endpoint, 3, []⟩ fun _ => [])
            bondedNode.net.localNodeId [1] (some bondedPeer.endpoint)).1 = .ok enrs ∧
          (∀ e, e ∈ enrs ↔ bondedNode.net.Owed [1] e) ∧ (enrs.map (·.nodeId)).Nodup) ∧
      ([1] ≠ [] → (¬ [1].Nodup ∨ ∃ d ∈ [1], numBuckets < d) →
        (listeningPeer.net.findNodes (honestRemote [bondedPeer] ⟨1#256, listeningPeer.endpoint, 3, []⟩
          fun _ => []) bondedNode.net.localNodeId [1] (some bondedPeer.endpoint)).1 =
          .error .tooSlow) :=
  have h : answering [bondedPeer] bondedNode.net.localNodeId bondedPeer.endpoint =
      some bondedNode.net := rfl
  ⟨reachable_bondedNode, h, by decide, findNodes_from_reachable_node reachable_bondedNode _ _ _ h _ _⟩

/-- `x` listens at the endpoint its stored record names. -/
def Listening (peers : List Peer) (net : Network) (x : NodeId) : Prop :=
  ∀ r, net.enrDb.getEnr x = some r →
    ∃ ep b, Endpoint.fromEnr r = .ok ep ∧ answering peers x ep = some b

/-- At a reachable node whose probed entries listen at their records' endpoints, a pass that
does not sleep bonds with the entry it picks and removes nothing: buckets and caches keep their
ids, and the entry probed is the last of its bucket. -/
theorem pingOldestRoutingTableEntry_keeps_live_entries
    (hn : Reachable (start localEnr bucketSize db cache now) n) (peers : List Peer)
    (requester : Requester) (stream : NodeId → List Enr) (order : List NodeId)
    (horder : ∀ x ∈ order, x ∈ n.net.routingTable.nodes)
    (hlive : ∀ x ∈ order, Listening peers n.net x) (lastPongAt : NodeId → Option Int)
    (time routingTableKeepAlive : Int) (r : Except NetError Bool × Network)
    (h : n.net.pingOldestRoutingTableEntry (honestRemote peers requester stream) order lastPongAt
      time routingTableKeepAlive = some r) :
    r.1 = .ok true ∧
      (∀ i y, y ∈ r.2.routingTable.buckets i ↔ y ∈ n.net.routingTable.buckets i) ∧
      r.2.routingTable.replacementCaches = n.net.routingTable.replacementCaches ∧
      ∃ first rest, order = first :: rest ∧
        (r.2.routingTable.buckets (n.net.routingTable.bucketIndex
          (Network.leastRecentlyPonged (fun x => (lastPongAt x).getD 0) first rest))).getLast? =
          some (Network.leastRecentlyPonged (fun x => (lastPongAt x).getD 0) first rest) := by
  unfold Network.pingOldestRoutingTableEntry at h
  split at h
  · cases h
  rename_i first rest
  dsimp only at h
  split_ifs at h
  set x := Network.leastRecentlyPonged (fun n => (lastPongAt n).getD 0) first rest
  have hx : x ∈ first :: rest := Network.leastRecentlyPonged_mem _ first rest
  obtain ⟨i, hi⟩ := KademliaRoutingTable.mem_nodes.mp (horder x hx)
  have hc := KademliaRoutingTable.ne_center_of_mem n.net.valid hi
  have hm : x ∈ n.net.routingTable.buckets (n.net.routingTable.bucketIndex x) := by
    rwa [KademliaRoutingTable.bucketIndex_of_mem n.net.valid hi]
  -- the entry's record gives the endpoint `ping` and `find_nodes` send to
  obtain ⟨record, hget⟩ := Option.isSome_iff_exists.mp ((covered_reachable hn).nodes x (horder x hx))
  obtain ⟨ep, b, hep, hans⟩ := hlive x hx record hget
  have hne : x ≠ n.net.localNodeId := by rw [Network.localNodeId, ← n.net.center]; exact hc
  obtain ⟨net', hnet', hbond, -⟩ :=
    Network.bond_honest peers requester stream hne (.inr ⟨rfl, record, hget, hep⟩) hans
  have htable : net'.routingTable = n.net.routingTable := by rcases hnet' with rfl | rfl <;> rfl
  rw [hbond] at h
  cases h
  obtain ⟨hbuckets, hcaches, hlast⟩ := KademliaRoutingTable.update_of_mem_spec hc hm
  refine ⟨rfl, ?_, ?_, first, rest, rfl, ?_⟩ <;> simp only [Network.addToRoutingTable, htable]
  exacts [hbuckets, hcaches, hlast]

theorem pingOldestRoutingTableEntry_keeps_listening_peer :
    Reachable fresh bondedNode ∧ (∀ x ∈ [1#256], x ∈ bondedNode.net.routingTable.nodes) ∧
      (∀ x ∈ [1#256], Listening [listeningPeer] bondedNode.net x) ∧
      bondedNode.net.pingOldestRoutingTableEntry
          (honestRemote [listeningPeer] ⟨0#256, freshPeer.endpoint, 1, []⟩ fun _ => []) [1#256]
          (fun _ => none) 0 0 =
        some (bondedNode.net.bond (honestRemote [listeningPeer] ⟨0#256, freshPeer.endpoint, 1, []⟩
          fun _ => []) 1#256 none) ∧
      ((bondedNode.net.bond (honestRemote [listeningPeer] ⟨0#256, freshPeer.endpoint, 1, []⟩
          fun _ => []) 1#256 none).1 = .ok true ∧
        (∀ i y, y ∈ (bondedNode.net.bond (honestRemote [listeningPeer]
            ⟨0#256, freshPeer.endpoint, 1, []⟩ fun _ => []) 1#256 none).2.routingTable.buckets i ↔
          y ∈ bondedNode.net.routingTable.buckets i) ∧
        (bondedNode.net.bond (honestRemote [listeningPeer] ⟨0#256, freshPeer.endpoint, 1, []⟩
            fun _ => []) 1#256 none).2.routingTable.replacementCaches =
          bondedNode.net.routingTable.replacementCaches ∧
        ∃ first rest, [1#256] = first :: rest ∧
          ((bondedNode.net.bond (honestRemote [listeningPeer] ⟨0#256, freshPeer.endpoint, 1, []⟩
              fun _ => []) 1#256 none).2.routingTable.buckets
            (bondedNode.net.routingTable.bucketIndex (Network.leastRecentlyPonged
              (fun x => ((fun _ => none : NodeId → Option Int) x).getD 0) first rest))).getLast? =
            some (Network.leastRecentlyPonged
              (fun x => ((fun _ => none : NodeId → Option Int) x).getD 0) first rest)) :=
  have horder : ∀ x ∈ [1#256], x ∈ bondedNode.net.routingTable.nodes := fun x hx => by
    rw [List.mem_singleton.mp hx]
    exact KademliaRoutingTable.mem_nodes.mpr ⟨0, by decide⟩
  have hlive : ∀ x ∈ [1#256], Listening [listeningPeer] bondedNode.net x := fun x hx r hr => by
    rw [List.mem_singleton.mp hx] at hr ⊢
    cases (show bondedNode.net.enrDb.getEnr 1#256 = some listeningBootnode from rfl).symm.trans hr
    exact ⟨listeningPeer.endpoint, listeningPeer.net, rfl, rfl⟩
  have h : bondedNode.net.pingOldestRoutingTableEntry
      (honestRemote [listeningPeer] ⟨0#256, freshPeer.endpoint, 1, []⟩ fun _ => []) [1#256]
      (fun _ => none) 0 0 =
    some (bondedNode.net.bond (honestRemote [listeningPeer] ⟨0#256, freshPeer.endpoint, 1, []⟩
      fun _ => []) 1#256 none) := rfl
  ⟨reachable_bondedNode, horder, hlive, h,
    pingOldestRoutingTableEntry_keeps_live_entries reachable_bondedNode _ _ _ _ horder hlive _ _ _ _ h⟩

/-! ### A stalled lookup of a node -/

section Stall

variable {k : Nat} {r : LookupRun}

/-- A node step seen from its lookup `k`: the lookup keeps its configuration, and either took a
step of its own or only saw the node change what it shares. -/
theorem lookup_view_step {n' : Node} {a : Action} (h : n.step a = some n')
    (hk : n.lookups[k]? = some r) :
    ∃ r', n'.lookups[k]? = some r' ∧ r'.cfg = r.cfg ∧
      (r'.state = r.state ∨ ∃ sh, Lookup.Step r.cfg (r.state, n.shared) (r'.state, sh) ∧
        sh.nodes = n.shared.nodes) := by
  have hlt : k < n.lookups.length := (List.getElem?_eq_some_iff.mp hk).1
  cases a with
  | startLookup target =>
    rw [step_startLookup h]
    exact ⟨r, by rw [List.getElem?_append_left hlt]; exact hk, rfl, .inl rfl⟩
  | lookup k' a =>
    obtain ⟨r₀, s, sh, hk₀, hs, rfl⟩ := step_lookup h
    by_cases hkk : k' = k
    · subst hkk
      obtain rfl : r₀ = r := Option.some.inj (hk₀.symm.trans hk)
      exact ⟨{ r₀ with state := s }, List.getElem?_set_self hlt, rfl,
        .inr ⟨sh, .act a hs, (Lookup.step_shared_grows hs).1⟩⟩
    · exact ⟨r, by simp only [afterLookup, List.getElem?_set_ne hkk, hk], rfl, .inl rfl⟩
  | storeEnr enr => rw [step_storeEnr h]; exact ⟨r, hk, rfl, .inl rfl⟩
  | bondCached nodeId enrSeq =>
    obtain ⟨enr, -, rfl⟩ := step_bondCached h; exact ⟨r, hk, rfl, .inl rfl⟩
  | bondFetched nodeId responses =>
    obtain ⟨enr, -, rfl⟩ := step_bondFetched h; exact ⟨r, hk, rfl, .inl rfl⟩
  | evict nodeId => rw [step_evict h]; exact ⟨r, hk, rfl, .inl rfl⟩
  | tick now => obtain ⟨-, rfl⟩ := step_tick h; exact ⟨r, hk, rfl, .inl rfl⟩

/-- Over a node run keeping the routing table's ids, lookup `k` runs the lookup machine. -/
theorem lookup_view_run {nodes : List NodeId} {n₁ n₂ : Node}
    (h : Relation.ReflTransGen
      (fun n n' => (∃ a, n.step a = some n') ∧ n'.net.routingTable.nodes = nodes) n₁ n₂)
    (hn₁ : n₁.net.routingTable.nodes = nodes) (hk : n₁.lookups[k]? = some r) :
    n₂.net.routingTable.nodes = nodes ∧ ∃ r', n₂.lookups[k]? = some r' ∧ r'.cfg = r.cfg ∧
      Relation.ReflTransGen (fun p p' => Lookup.Step r.cfg p p' ∧ p'.2.nodes = nodes)
        (r.state, n₁.shared) (r'.state, n₂.shared) := by
  induction h with
  | refl => exact ⟨hn₁, r, hk, rfl, .refl⟩
  | tail _ hstep ih =>
    obtain ⟨hnodes, r₁, hk₁, hcfg, hrun⟩ := ih
    obtain ⟨⟨a, hs⟩, hn'⟩ := hstep
    obtain ⟨r', hk', hcfg', hview⟩ := lookup_view_step hs hk₁
    refine ⟨hn', r', hk', hcfg'.trans hcfg, ?_⟩
    rcases hview with heq | ⟨sh, hst, hsh⟩
    · rw [heq]
      exact hrun.tail ⟨.env _, hn'⟩
    · exact (hrun.tail ⟨hcfg ▸ hst, hsh.trans hnodes⟩).tail ⟨.env _, hn'⟩

/-- A stalled lookup stays stalled through every node run that keeps the routing table's ids,
other lookups, bonds, stores and evictions included: it never closes, queries or sends again. -/
theorem stalled_node_lookup_never_ends (hk : n.lookups[k]? = some r)
    (hs : Lookup.Stalled r.cfg n.net.routingTable.nodes r.state) {n' : Node}
    (h : Relation.ReflTransGen (fun n₁ n₂ => (∃ a, n₁.step a = some n₂) ∧
      n₂.net.routingTable.nodes = n.net.routingTable.nodes) n n') :
    ∃ r', n'.lookups[k]? = some r' ∧ r'.state.monitor ≠ .done ∧
      r'.state.queriedNodeIds = r.state.queriedNodeIds ∧ r'.state.delivered = r.state.delivered := by
  obtain ⟨-, r', hk', -, hrun⟩ := lookup_view_run h rfl hk
  obtain ⟨-, hmon, hq, hd⟩ := Lookup.stalled_run hs hrun
  exact ⟨r', hk', hmon, hq, hd⟩

/-- `fresh` after a lookup for `0x02` whose three workers wait over the empty routing table, a
bond with `0x01` through its FINDNODE answer, and `_monitor_done`'s check. -/
def stalledNode : Node :=
  { net := (fresh.net.storeEnr ⟨1#256, 1, []⟩).addToRoutingTable 1#256
    lookups := [⟨Lookup.stallLookup, [], 0, Lookup.stalledState⟩]
    unresponsiveCache := []
    now := 0 }

theorem stalled_node_lookup_after_bond :
    Reachable fresh stalledNode ∧
      stalledNode.lookups[0]? = some ⟨Lookup.stallLookup, [], 0, Lookup.stalledState⟩ ∧
      Lookup.Stalled Lookup.stallLookup stalledNode.net.routingTable.nodes Lookup.stalledState ∧
      ∀ n', Relation.ReflTransGen (fun n₁ n₂ => (∃ a, n₁.step a = some n₂) ∧
          n₂.net.routingTable.nodes = stalledNode.net.routingTable.nodes) stalledNode n' →
        ∃ r', n'.lookups[0]? = some r' ∧ r'.state.monitor ≠ .done ∧
          r'.state.queriedNodeIds = Lookup.stalledState.queriedNodeIds ∧
          r'.state.delivered = Lookup.stalledState.delivered := by
  set s₃ : Lookup.State := (((Lookup.init Lookup.stallLookup [] 0).setWorker 0 .waiting).setWorker 1
    .waiting).setWorker 2 .waiting
  set n₁ : Node :=
    { fresh with lookups := [⟨Lookup.stallLookup, [], 0, Lookup.init Lookup.stallLookup [] 0⟩] }
  -- the lookup starts, and its three workers find nothing over the empty table and wait
  have hsh₁ : n₁.shared = ⟨[], ⟨[]⟩, [], 0⟩ :=
    congrArg (fun l => (⟨l, ⟨[]⟩, [], 0⟩ : Lookup.Shared)) (KademliaRoutingTable.nodes_empty 0#256 16)
  have hrun : Lookup.run Lookup.stallLookup (Lookup.init Lookup.stallLookup [] 0, n₁.shared)
      [.workerRound 0, .workerRound 1, .workerRound 2] = some (s₃, ⟨[], ⟨[]⟩, [], 0⟩) := by
    rw [hsh₁]; exact Lookup.stallLookup_workers_wait ⟨[]⟩
  have h₄ := (lookup_run_kept (k := 0) (n := n₁) rfl rfl hrun).mono fun _ _ h => h.1
  -- the node bonds with `0x01` from its FINDNODE answer, and `_monitor_done` checks
  set n₅ : Node := { n₁.afterLookup 0 ⟨Lookup.stallLookup, [], 0, Lookup.init Lookup.stallLookup [] 0⟩
    s₃ ⟨[], ⟨[]⟩, [], 0⟩ with
      net := (fresh.net.storeEnr ⟨1#256, 1, []⟩).addToRoutingTable 1#256 }
  have hnodes : n₅.net.routingTable.nodes = [1#256] :=
    KademliaRoutingTable.nodes_update_empty (by decide) (by decide)
  have hsh₅ : n₅.shared = ⟨[1#256], ⟨[⟨1#256, 1, []⟩]⟩, [], 0⟩ :=
    congrArg (fun l => (⟨l, ⟨[⟨1#256, 1, []⟩]⟩, [], 0⟩ : Lookup.Shared)) hnodes
  have h₆ : n₅.step (.lookup 0 .monitorCheck) =
      some (n₅.afterLookup 0 ⟨Lookup.stallLookup, [], 0, s₃⟩ Lookup.stalledState n₅.shared) :=
    step_lookup_of rfl (by rw [hsh₅]; rfl)
  have hs : Lookup.Stalled Lookup.stallLookup stalledNode.net.routingTable.nodes Lookup.stalledState :=
    hnodes ▸ Lookup.stalledState_stalled
  exact ⟨((Relation.ReflTransGen.single ⟨.startLookup 2#256, rfl⟩).trans h₄).tail
      ⟨.bondFetched 1#256 [[⟨1#256, 1, []⟩]], rfl⟩ |>.tail ⟨_, h₆⟩, rfl, hs,
    fun _ h => stalled_node_lookup_never_ends (k := 0) (n := stalledNode)
      (r := ⟨Lookup.stallLookup, [], 0, Lookup.stalledState⟩) rfl hs h⟩

/-- The lookup that `startLookup` appends sits at the old number of lookups, at its start. -/
theorem step_startLookup_new {n₁ : Node} {target : NodeId}
    (h : n.step (.startLookup target) = some n₁) :
    n₁.lookups[n.lookups.length]? = some ⟨n.lookupConfig target, n.unresponsiveCache, n.now,
      Lookup.init (n.lookupConfig target) n.unresponsiveCache n.now⟩ := by
  rw [step_startLookup h, List.getElem?_append_right (Nat.le_refl _), Nat.sub_self]; rfl

/-- A lookup the node starts is never `Ddht.Lookup.Stalled` with its stream open, through
every run of the node from there that keeps the routing table's ids. -/
theorem started_lookup_never_stalls {n₁ n' : Node} {target : NodeId}
    (h₀ : n.step (.startLookup target) = some n₁)
    (h : Relation.ReflTransGen (fun n₂ n₃ => (∃ a, n₂.step a = some n₃) ∧
      n₃.net.routingTable.nodes = n.net.routingTable.nodes) n₁ n') :
    ∃ r', n'.lookups[n.lookups.length]? = some r' ∧ r'.cfg = n.lookupConfig target ∧
      (r'.state.channel = .open →
        ¬ Lookup.Stalled (n.lookupConfig target) n.net.routingTable.nodes r'.state) := by
  have hk := step_startLookup_new h₀
  obtain rfl := step_startLookup h₀
  obtain ⟨-, r', hk', hcfg, hrun⟩ := lookup_view_run h rfl hk
  have ha := Lookup.awake_run hrun
  exact ⟨r', hk', hcfg, ha.not_stalled (Nat.succ_pos 2)⟩

/-- The lookup `bondedNode` starts, once it has queried `0x01`, is not stalled. -/
theorem started_lookup_never_stalls_when_querying :
    bondedNode.step (.startLookup 2#256) = some startedNode ∧
      Relation.ReflTransGen (fun n₂ n₃ => (∃ a, n₂.step a = some n₃) ∧
        n₃.net.routingTable.nodes = bondedNode.net.routingTable.nodes) startedNode queryingNode ∧
      queryingNode.lookups.map (·.state.queriedNodeIds) = [[1#256]] ∧
      ∃ r', queryingNode.lookups[bondedNode.lookups.length]? = some r' ∧
        r'.cfg = bondedNode.lookupConfig 2#256 ∧
        (r'.state.channel = .open →
          ¬ Lookup.Stalled (bondedNode.lookupConfig 2#256) bondedNode.net.routingTable.nodes
            r'.state) :=
  ⟨rfl, startedNode_querying, by decide,
    started_lookup_never_stalls (n := bondedNode) rfl startedNode_querying⟩

end Stall

end Node

end Ddht
