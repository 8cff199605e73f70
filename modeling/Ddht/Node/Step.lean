import Ddht.Lookup.Stored
import Ddht.Network.Bond

/-!
# A node: the network service and its lookups

`Node` is what the tasks of one `Network` service share. A node step is the code one task runs
between two checkpoints: a lookup's step, a lookup's start, a `set_enr`, the tail of a bond, an
eviction, or time passing. Each lookup of a node is a run of the lookup machine, and a whole
`bond` call is a run of node steps.
-/

namespace Ddht

/-- One running `common_recursive_find_nodes` call. -/
structure LookupRun where
  cfg : Lookup.Config
  /-- `UNRESPONSIVE_CACHE` when the call started. -/
  cache : List (NodeId × Int)
  /-- `trio.current_time()` when the call started. -/
  startedAt : Int
  state : Lookup.State

/-- The state the tasks of one `Network` service share. -/
structure Node where
  net : Network
  lookups : List LookupRun
  unresponsiveCache : List (NodeId × Int)
  now : Int

namespace Node

/-- What a lookup shares with the rest of the node. -/
def shared (n : Node) : Lookup.Shared :=
  ⟨n.net.routingTable.nodes, n.net.enrDb, n.unresponsiveCache, n.now⟩

/-- The arguments `recursive_find_nodes(target)` passes to `common_recursive_find_nodes`. -/
def lookupConfig (n : Node) (target : NodeId) : Lookup.Config :=
  ⟨target, n.net.localNodeId, n.net.routingTable.bucketSize, 3⟩

/-- A step of one of the node's tasks. -/
inductive Action where
  /-- `recursive_find_nodes(target)` starts a lookup. -/
  | startLookup (target : NodeId)
  /-- Lookup `k` takes a step. -/
  | lookup (k : Nat) (a : Lookup.Action)
  /-- A `set_enr(enr)` whose `OldSequenceNumber` is ignored. -/
  | storeEnr (enr : Enr)
  /-- `lookup_enr` returns the stored record, at least as new as the PONG's `enr_seq`, and
  the caller adds its node id to the routing table. -/
  | bondCached (nodeId : NodeId) (enrSeq : Nat)
  /-- `_fetch_enr`'s FINDNODE(0) gets `responses`; `lookup_enr` stores the ENR it keeps and
  the caller adds its node id to the routing table. -/
  | bondFetched (nodeId : NodeId) (responses : List (List Enr))
  /-- `_ping_oldest_routing_table_entry` removes a node after a failed bond. -/
  | evict (nodeId : NodeId)
  /-- The clock advances. -/
  | tick (now : Int)

/-- The node after lookup `k`, whose run is `r`, moved to `s` and left `sh` shared. -/
def afterLookup (n : Node) (k : Nat) (r : LookupRun) (s : Lookup.State) (sh : Lookup.Shared) :
    Node :=
  { n with
    net := { n.net with enrDb := sh.enrDb }
    lookups := n.lookups.set k { r with state := s }
    unresponsiveCache := sh.unresponsiveCache }

/-- The node's transition function; `none` when the action is not enabled. -/
def step (n : Node) : Action → Option Node
  | .startLookup target =>
    let cfg := n.lookupConfig target
    some { n with
      lookups := n.lookups ++
        [⟨cfg, n.unresponsiveCache, n.now, Lookup.init cfg n.unresponsiveCache n.now⟩] }
  | .lookup k a =>
    match n.lookups[k]? with
    | some r =>
      match Lookup.step r.cfg n.shared r.state a with
      | some (s, sh) => some (n.afterLookup k r s sh)
      | none => none
    | none => none
  | .storeEnr enr => some { n with net := n.net.storeEnr enr }
  | .bondCached nodeId enrSeq =>
    if nodeId = n.net.localNodeId then none else
    match n.net.enrDb.getEnr nodeId with
    | some enr =>
      if enrSeq ≤ enr.sequenceNumber then some { n with net := n.net.addToRoutingTable enr.nodeId }
      else none
    | none => none
  | .bondFetched nodeId responses =>
    if nodeId = n.net.localNodeId then none else
    match findNodesResponses nodeId [0] responses >>= fetchEnrResult with
    | .ok enr => some { n with net := (n.net.storeEnr enr).addToRoutingTable enr.nodeId }
    | .error _ => none
  | .evict nodeId => some { n with net := n.net.removeFromRoutingTable nodeId }
  | .tick now => if n.now ≤ now then some { n with now := now } else none

/-- A node as `Network.__init__` leaves it: an empty routing table and no lookup. -/
def start (localEnr : Enr) (bucketSize : Nat) (enrDb : EnrDb) (cache : List (NodeId × Int))
    (now : Int) : Node where
  net :=
    { localEnr := localEnr
      routingTable := .empty localEnr.nodeId bucketSize
      enrDb := enrDb
      routingTableReady := false
      center := rfl
      valid := KademliaRoutingTable.empty_valid _ _ }
  lookups := []
  unresponsiveCache := cache
  now := now

/-- The nodes reachable from `n₀`. -/
def Reachable (n₀ : Node) : Node → Prop :=
  Relation.ReflTransGen (fun n n' => ∃ a, n.step a = some n') n₀

section Inversion

variable {n n' : Node}

theorem step_startLookup {target : NodeId} (h : n.step (.startLookup target) = some n') :
    n' = { n with lookups := n.lookups ++ [⟨n.lookupConfig target, n.unresponsiveCache, n.now,
      Lookup.init (n.lookupConfig target) n.unresponsiveCache n.now⟩] } := by
  cases h; rfl

theorem step_lookup {k : Nat} {a : Lookup.Action} (h : n.step (.lookup k a) = some n') :
    ∃ r s sh, n.lookups[k]? = some r ∧ Lookup.step r.cfg n.shared r.state a = some (s, sh) ∧
      n' = n.afterLookup k r s sh := by
  simp only [step] at h
  split at h
  · rename_i r hr
    split at h
    · rename_i s sh hs
      cases h; exact ⟨r, s, sh, hr, hs, rfl⟩
    · cases h
  · cases h

theorem step_bondCached {nodeId : NodeId} {enrSeq : Nat}
    (h : n.step (.bondCached nodeId enrSeq) = some n') :
    ∃ enr, n.net.enrDb.getEnr nodeId = some enr ∧
      n' = { n with net := n.net.addToRoutingTable enr.nodeId } := by
  simp only [step] at h
  split_ifs at h
  split at h
  · rename_i enr hget
    split_ifs at h; cases h; exact ⟨enr, hget, rfl⟩
  · cases h

theorem step_bondFetched {nodeId : NodeId} {responses : List (List Enr)}
    (h : n.step (.bondFetched nodeId responses) = some n') :
    ∃ enr, (findNodesResponses nodeId [0] responses >>= fetchEnrResult) = .ok enr ∧
      n' = { n with net := (n.net.storeEnr enr).addToRoutingTable enr.nodeId } := by
  simp only [step] at h
  split_ifs at h
  split at h
  · rename_i enr hf
    cases h; exact ⟨enr, hf, rfl⟩
  · cases h

theorem step_storeEnr {enr : Enr} (h : n.step (.storeEnr enr) = some n') :
    n' = { n with net := n.net.storeEnr enr } :=
  (Option.some.inj h).symm

theorem step_evict {nodeId : NodeId} (h : n.step (.evict nodeId) = some n') :
    n' = { n with net := n.net.removeFromRoutingTable nodeId } :=
  (Option.some.inj h).symm

theorem step_tick {now : Int} (h : n.step (.tick now) = some n') :
    n.now ≤ now ∧ n' = { n with now := now } := by
  simp only [step] at h
  split_ifs at h with hle
  exact ⟨hle, (Option.some.inj h).symm⟩

end Inversion

/-- No node step changes the local ENR. -/
theorem step_localEnr {n n' : Node} {a : Action} (h : n.step a = some n') :
    n'.net.localEnr = n.net.localEnr := by
  cases a with
  | startLookup target => rw [step_startLookup h]
  | lookup k a => obtain ⟨r, s, sh, -, -, rfl⟩ := step_lookup h; rfl
  | storeEnr enr => rw [step_storeEnr h]; rfl
  | bondCached nodeId enrSeq => obtain ⟨enr, -, rfl⟩ := step_bondCached h; rfl
  | bondFetched nodeId responses => obtain ⟨enr, -, rfl⟩ := step_bondFetched h; rfl
  | evict nodeId => rw [step_evict h]; rfl
  | tick now => obtain ⟨-, rfl⟩ := step_tick h; rfl

/-- No node step changes the routing table's bucket size. -/
theorem step_bucketSize {n n' : Node} {a : Action} (h : n.step a = some n') :
    n'.net.routingTable.bucketSize = n.net.routingTable.bucketSize := by
  cases a with
  | startLookup target => rw [step_startLookup h]
  | lookup k a => obtain ⟨r, s, sh, -, -, rfl⟩ := step_lookup h; rfl
  | storeEnr enr => rw [step_storeEnr h]; rfl
  | bondCached nodeId enrSeq =>
    obtain ⟨enr, -, rfl⟩ := step_bondCached h
    exact KademliaRoutingTable.update_bucketSize _ _
  | bondFetched nodeId responses =>
    obtain ⟨enr, -, rfl⟩ := step_bondFetched h
    exact KademliaRoutingTable.update_bucketSize _ _
  | evict nodeId => rw [step_evict h]; exact KademliaRoutingTable.remove_bucketSize _ _
  | tick now => obtain ⟨-, rfl⟩ := step_tick h; rfl

theorem bucketSize_reachable {n₀ n : Node} (h : Reachable n₀ n) :
    n.net.routingTable.bucketSize = n₀.net.routingTable.bucketSize := by
  induction h with
  | refl => rfl
  | tail _ hs ih => obtain ⟨a, hs⟩ := hs; exact (step_bucketSize hs).trans ih

/-- Every lookup of a reachable node runs for it, as a run of the lookup machine from its start. -/
theorem lookup_reachable {n₀ n : Node} (hn₀ : n₀.lookups = []) (h : Reachable n₀ n) :
    ∀ r ∈ n.lookups, r.cfg.localNodeId = n.net.localNodeId ∧
      ∃ sh₀, Lookup.Reachable r.cfg r.cache r.startedAt sh₀ (r.state, n.shared) := by
  induction h with
  | refl => simp [hn₀]
  | @tail n n' _ hs ih =>
    obtain ⟨a, hs⟩ := hs
    have hloc : n'.net.localNodeId = n.net.localNodeId := congrArg Enr.nodeId (step_localEnr hs)
    -- a lookup that only watched the step saw its shared state change
    have env : ∀ r ∈ n.lookups, r.cfg.localNodeId = n'.net.localNodeId ∧ ∃ sh₀,
        Lookup.Reachable r.cfg r.cache r.startedAt sh₀ (r.state, n'.shared) := fun r hr => by
      obtain ⟨hl, sh₀, h₀⟩ := ih r hr
      exact ⟨hl.trans hloc.symm, sh₀, h₀.tail (.env _)⟩
    cases a with
    | startLookup target =>
      cases step_startLookup hs
      intro r hr
      rcases List.mem_append.mp hr with hr | hr
      · exact env r hr
      · obtain rfl := List.mem_singleton.mp hr
        exact ⟨rfl, _, .refl⟩
    | lookup k a =>
      obtain ⟨r, s, sh, hk, hstep, rfl⟩ := step_lookup hs
      intro r' hr'
      rcases List.mem_or_eq_of_mem_set hr' with hr' | rfl
      · exact env r' hr'
      · obtain ⟨hl, sh₀, h₀⟩ := ih r (List.getElem?_mem hk)
        exact ⟨hl, sh₀, (h₀.tail (.act a hstep)).tail (.env _)⟩
    | storeEnr enr => obtain rfl := step_storeEnr hs; exact env
    | bondCached nodeId enrSeq => obtain ⟨enr, -, rfl⟩ := step_bondCached hs; exact env
    | bondFetched nodeId responses => obtain ⟨enr, -, rfl⟩ := step_bondFetched hs; exact env
    | evict nodeId => obtain rfl := step_evict hs; exact env
    | tick now => obtain ⟨-, rfl⟩ := step_tick hs; exact env

/-- Every lookup a node runs sends FINDNODE to each node at most once, never to itself, nor to a
node its cache held unresponsive in the 300 seconds before the lookup started. -/
theorem node_lookups_query_each_node_once {n₀ n : Node} (hn₀ : n₀.lookups = [])
    (h : Reachable n₀ n) :
    ∀ r ∈ n.lookups, (r.state.tasks.map (·.nodeId)).Nodup ∧
      ∀ x ∈ r.state.queriedNodeIds, x ≠ n.net.localNodeId ∧
        ∀ p ∈ r.cache, r.startedAt - p.2 < 300 → x ≠ p.1 := by
  intro r hr
  obtain ⟨hl, sh₀, h₀⟩ := lookup_reachable hn₀ h r hr
  have hi := Lookup.inv_reachable h₀
  exact ⟨hi.task_nodup, fun x hx => hl ▸ hi.queried_fresh x hx⟩

section LookupRun

variable {n : Node} {k : Nat} {r : LookupRun}

theorem step_lookup_of {a : Lookup.Action} {s : Lookup.State} {sh : Lookup.Shared}
    (hk : n.lookups[k]? = some r) (hs : Lookup.step r.cfg n.shared r.state a = some (s, sh)) :
    n.step (.lookup k a) = some (n.afterLookup k r s sh) := by
  simp only [step, hk, hs]

/-- After a step of one of its lookups, the node shares what the lookup left. -/
theorem afterLookup_shared {s : Lookup.State} {sh : Lookup.Shared}
    (hn : sh.nodes = n.shared.nodes) (ht : sh.now = n.now) : (n.afterLookup k r s sh).shared = sh := by
  cases sh
  cases hn
  cases ht
  rfl

theorem afterLookup_afterLookup (s s' : Lookup.State) (sh sh' : Lookup.Shared) :
    (n.afterLookup k r s sh).afterLookup k { r with state := s } s' sh' =
      n.afterLookup k r s' sh' := by
  simp only [afterLookup, List.set_set]

/-- A run of one of the node's lookups alone is a node run that keeps the routing table. -/
theorem lookup_run_kept {nodes : List NodeId} {as : List Lookup.Action} :
    ∀ {n : Node} {r : LookupRun} {a : Lookup.Action} {s' : Lookup.State} {sh' : Lookup.Shared},
      n.lookups[k]? = some r → n.net.routingTable.nodes = nodes →
      Lookup.run r.cfg (r.state, n.shared) (a :: as) = some (s', sh') →
        Relation.ReflTransGen (fun n₁ n₂ => (∃ a, n₁.step a = some n₂) ∧
          n₂.net.routingTable.nodes = nodes) n (n.afterLookup k r s' sh') := by
  induction as with
  | nil =>
    intro n r a s' sh' hk hn h
    obtain ⟨⟨s, sh⟩, hs, h⟩ := Option.bind_eq_some.mp h
    cases h
    exact .single ⟨⟨_, step_lookup_of hk hs⟩, hn⟩
  | cons b as ih =>
    intro n r a s' sh' hk hn h
    obtain ⟨⟨s, sh⟩, hs, h⟩ := Option.bind_eq_some.mp h
    obtain ⟨hnodes, hnow, -⟩ := Lookup.step_shared_grows hs
    have hk₂ : (n.afterLookup k r s sh).lookups[k]? = some { r with state := s } := by
      simp only [afterLookup, List.getElem?_set_self', hk]
      rfl
    have h₂ := ih hk₂ hn (by rw [afterLookup_shared hnodes hnow]; exact h)
    rw [afterLookup_afterLookup] at h₂
    exact .head ⟨⟨_, step_lookup_of hk hs⟩, hn⟩ h₂

end LookupRun

/-- A node built around the local ENR of `0x00`, knowing no other node. -/
def fresh : Node := start ⟨0#256, 1, []⟩ 16 ⟨[]⟩ [] 0

/-- The ENR of `0x01` at sequence number 3, naming the endpoint `127.0.0.1:30301`. -/
def listeningBootnode : Enr := ⟨1#256, 3, [("ip", .bytes [127, 0, 0, 1]), ("udp", .int 30301)]⟩

/-- `fresh` after it stores the ENR of `0x01` and bonds with it from that record. -/
def bondedNode : Node :=
  { fresh with net := (fresh.net.storeEnr listeningBootnode).addToRoutingTable 1#256 }

theorem reachable_bondedNode : Reachable fresh bondedNode :=
  have h : fresh.step (.storeEnr listeningBootnode) =
      some { fresh with net := fresh.net.storeEnr listeningBootnode } := rfl
  .tail (.single ⟨_, h⟩) ⟨.bondCached 1#256 3, rfl⟩

theorem bondedNode_nodes : bondedNode.net.routingTable.nodes = [1#256] :=
  KademliaRoutingTable.nodes_update_empty (by decide) (by decide)

/-- The lookup for `0x02` that `bondedNode` starts, once worker 0 has taken `0x01`, sent its ENR
on the channel and started its `do_lookup`. -/
def queryingState : Lookup.State :=
  ((Lookup.run (bondedNode.lookupConfig 2#256)
      (Lookup.init (bondedNode.lookupConfig 2#256) [] 0, ⟨[1#256], ⟨[listeningBootnode]⟩, [], 0⟩)
      [.workerRound 0, .workerAnnounce 0, .workerLaunch 0]).map (·.1)).getD
    (Lookup.init (bondedNode.lookupConfig 2#256) [] 0)

/-- `bondedNode` after it starts a lookup for `0x02`. -/
def startedNode : Node :=
  { bondedNode with
    lookups := [⟨bondedNode.lookupConfig 2#256, [], 0, Lookup.init (bondedNode.lookupConfig 2#256) [] 0⟩] }

def queryingNode : Node :=
  { bondedNode with lookups := [⟨bondedNode.lookupConfig 2#256, [], 0, queryingState⟩] }

/-- The lookup's first three steps take `startedNode` to `queryingNode` and keep the table. -/
theorem startedNode_querying :
    Relation.ReflTransGen (fun n₁ n₂ => (∃ a, n₁.step a = some n₂) ∧
      n₂.net.routingTable.nodes = bondedNode.net.routingTable.nodes) startedNode queryingNode := by
  have hsh : startedNode.shared = ⟨[1#256], ⟨[listeningBootnode]⟩, [], 0⟩ :=
    congrArg (fun l => (⟨l, ⟨[listeningBootnode]⟩, [], 0⟩ : Lookup.Shared)) bondedNode_nodes
  have hrun : Lookup.run (bondedNode.lookupConfig 2#256)
      (Lookup.init (bondedNode.lookupConfig 2#256) [] 0, startedNode.shared)
      [.workerRound 0, .workerAnnounce 0, .workerLaunch 0] =
        some (queryingState, ⟨[1#256], ⟨[listeningBootnode]⟩, [], 0⟩) := by
    rw [hsh]
    rfl
  exact lookup_run_kept (k := 0) (n := startedNode) rfl rfl hrun

theorem reachable_queryingNode : Reachable fresh queryingNode :=
  (reachable_bondedNode.tail ⟨.startLookup 2#256, rfl⟩).trans
    (startedNode_querying.mono fun _ _ h => h.1)

theorem node_lookups_query_each_node_once_when_querying :
    fresh.lookups = [] ∧ Reachable fresh queryingNode ∧
      queryingNode.lookups.map (·.state.queriedNodeIds) = [[1#256]] ∧
      ∀ r ∈ queryingNode.lookups, (r.state.tasks.map (·.nodeId)).Nodup ∧
        ∀ x ∈ r.state.queriedNodeIds, x ≠ queryingNode.net.localNodeId ∧
          ∀ p ∈ r.cache, r.startedAt - p.2 < 300 → x ≠ p.1 :=
  ⟨rfl, reachable_queryingNode, by decide,
    node_lookups_query_each_node_once rfl reachable_queryingNode⟩

section Sequential

/-! The sequential model of `Ddht.Network` calls runs, as node steps, exactly what the
service's tasks run between their checkpoints. -/

variable {n n₁ n' : Node} {nodeId : NodeId}

/-- A run of `storeEnr` steps. -/
def StoreRun (n n' : Node) : Prop :=
  Relation.ReflTransGen (fun n n' => ∃ enr, n.step (.storeEnr enr) = some n') n n'

/-- The step that adds `nodeId` to the routing table once `lookup_enr` has returned. -/
def Action.Adds (nodeId : NodeId) : Action → Prop
  | .bondCached x _ => x = nodeId
  | .bondFetched x _ => x = nodeId
  | _ => False

/-- `storeEnr` steps, then at most one step that adds `nodeId`. -/
def BondRun (nodeId : NodeId) (n n' : Node) : Prop :=
  ∃ n₁, StoreRun n n₁ ∧ (n' = n₁ ∨ ∃ a, a.Adds nodeId ∧ n₁.step a = some n')

theorem StoreRun.reachable (h : StoreRun n n') : Reachable n n' :=
  h.mono fun _ _ ⟨_, he⟩ => ⟨_, he⟩

theorem BondRun.reachable (h : BondRun nodeId n n') : Reachable n n' := by
  obtain ⟨n₁, hs, rfl | ⟨a, -, ha⟩⟩ := h
  · exact hs.reachable
  · exact hs.reachable.tail ⟨a, ha⟩

theorem BondRun.of_storeRun (h₁ : StoreRun n n₁) (h : BondRun nodeId n₁ n') :
    BondRun nodeId n n' :=
  let ⟨n₂, h₂, h'⟩ := h
  ⟨n₂, h₁.trans h₂, h'⟩

theorem StoreRun.bondRun (h : StoreRun n n') : BondRun nodeId n n' := ⟨n', h, .inl rfl⟩

/-- A run of `set_enr` calls is a run of `storeEnr` steps. -/
theorem storeRun_of_storesOnly {net' : Network} (h : n.net.StoresOnly net') :
    StoreRun n { n with net := net' } := by
  obtain ⟨es, rfl⟩ := h
  induction es generalizing n with
  | nil => exact .refl
  | cons e es ih => exact .head ⟨e, rfl⟩ (ih (n := { n with net := n.net.storeEnr e }))

variable (remote : Remote)

/-- `lookup_enr` returning and its caller adding the node: the fetch's writes are `storeEnr`
steps and the rest one `bondCached` or `bondFetched` step. -/
theorem bondRun_lookupEnr_add {enrSeq : Nat} {ep : Option Endpoint} {enr : Enr} {net' : Network}
    (h : n.net.lookupEnr remote nodeId enrSeq ep = (.ok enr, net')) :
    BondRun nodeId n { n with net := net'.addToRoutingTable enr.nodeId } := by
  obtain ⟨hn, ⟨hget, hle, rfl⟩ | ⟨net₁, rs, hs, hf, rfl⟩⟩ := Network.lookupEnr_ok_cases remote h
  · exact ⟨n, .refl, .inr ⟨.bondCached nodeId enrSeq, rfl,
      by simp only [step, if_neg hn, hget, if_pos hle]⟩⟩
  · have hn₁ : nodeId ≠ net₁.localNodeId := by rw [Network.localNodeId, hs.frame.2]; exact hn
    exact ⟨_, storeRun_of_storesOnly hs, .inr ⟨.bondFetched nodeId rs, rfl,
      by simp only [step, if_neg hn₁, hf]⟩⟩

/-- A whole `bond` call is ENR stores, then at most the one step that adds the bonded node. -/
theorem bondRun_bond (n : Node) (nodeId : NodeId) (ep : Option Endpoint) :
    BondRun nodeId n { n with net := (n.net.bond remote nodeId ep).2 } := by
  unfold Network.bond
  have hp := Network.ping_storesOnly remote n.net nodeId ep
  generalize n.net.ping remote nodeId ep = p at hp ⊢
  obtain ⟨r, net'⟩ := p
  have h₁ : StoreRun n { n with net := net' } := storeRun_of_storesOnly hp
  rcases r with e | enrSeq
  · cases e <;> exact h₁.bondRun
  · dsimp only
    have hl := Network.lookupEnr_storesOnly remote net' nodeId enrSeq ep
    have hadd : ∀ {enr net''}, net'.lookupEnr remote nodeId enrSeq ep = (.ok enr, net'') →
        BondRun nodeId { n with net := net' } { n with net := net''.addToRoutingTable enr.nodeId } :=
      bondRun_lookupEnr_add remote (n := { n with net := net' })
    generalize net'.lookupEnr remote nodeId enrSeq ep = q at hl hadd ⊢
    obtain ⟨r, net''⟩ := q
    rcases r with e | enr
    · cases e <;>
        exact StoreRun.bondRun (h₁.trans (storeRun_of_storesOnly (n := { n with net := net' }) hl))
    · exact (hadd rfl).of_storeRun h₁

theorem reachable_bond (n : Node) (nodeId : NodeId) (ep : Option Endpoint) :
    Reachable n { n with net := (n.net.bond remote nodeId ep).2 } :=
  (bondRun_bond remote n nodeId ep).reachable

end Sequential

end Node

end Ddht
