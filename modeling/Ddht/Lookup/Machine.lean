import Ddht.Network.Basic
import Mathlib.Logic.Relation

/-!
# The recursive lookup engine

`common_recursive_find_nodes` as a step machine: each `Action` is the code one of its tasks runs
between two trio checkpoints. The routing table, the ENR database, `UNRESPONSIVE_CACHE` and the
clock are `Shared` and may change between any two actions. `adaptive_timeout` is modelled from
the spec; `delivered` and `learned` are ghost fields.
-/

namespace Ddht

namespace Lookup

/-- Where a `do_lookup` task is. -/
inductive TaskPc where
  /-- Awaiting `network.find_nodes`. -/
  | calling
  /-- Awaiting the condition's lock with the ENRs found. -/
  | acquiring (found : List Enr)
  /-- Sending the ENRs whose node ids it added to `received_node_ids`. -/
  | sending (pending : List Enr)
  | returned
  /-- `trio.Cancelled` was raised into it. -/
  | cancelled
  deriving DecidableEq, Repr

/-- A `do_lookup(node_id, send_channel)` started by worker `worker`. -/
structure Task where
  worker : Nat
  nodeId : NodeId
  /-- Started through `adaptive_timeout`; a batch of one is awaited directly. -/
  cancellable : Bool
  pc : TaskPc
  deriving DecidableEq, Repr

/-- The task has not finished. -/
def Task.Running (t : Task) : Prop := t.pc ≠ .returned ∧ t.pc ≠ .cancelled

instance (t : Task) : Decidable t.Running := inferInstanceAs (Decidable (_ ∧ _))

/-- Where a `worker` task is. -/
inductive WorkerPc where
  /-- At the head of its loop. -/
  | top
  /-- In `condition.wait()`. -/
  | waiting
  /-- Holds the lock; `pending` is what is left of its routing-table loop over `batch`. -/
  | announcing (batch pending : List NodeId)
  /-- Awaiting the `do_lookup`s of `batch`. -/
  | lookingUp (batch : List NodeId)
  /-- Left its loop on a closed channel. -/
  | returned
  deriving DecidableEq, Repr

/-- The batch a worker has taken and not yet given back. -/
def WorkerPc.batch : WorkerPc → List NodeId
  | .announcing b _ => b
  | .lookingUp b => b
  | _ => []

/-- Where `_monitor_done` is. -/
inductive MonitorPc where
  /-- Needs the lock to check for the end. -/
  | acquiring
  /-- In `condition.wait()`. -/
  | waiting
  /-- Left its loop and closed the send channel. -/
  | done
  deriving DecidableEq, Repr

/-- The ENR memory channel. -/
inductive ChannelState where
  | open
  /-- `_monitor_done` closed the send side: sends raise `ClosedResourceError`. -/
  | closed
  /-- The consumer closed the receive side: sends raise `BrokenResourceError`. -/
  | broken
  deriving DecidableEq, Repr

/-- The arguments of one lookup. -/
structure Config where
  target : NodeId
  localNodeId : NodeId
  /-- `network.routing_table.bucket_size`. -/
  bucketSize : Nat
  concurrency : Nat

/-- What the lookup shares with the rest of the node. -/
structure Shared where
  /-- The ids in `network.routing_table`. -/
  nodes : List NodeId
  enrDb : EnrDb
  /-- `UNRESPONSIVE_CACHE`: node id ↦ time it last failed. -/
  unresponsiveCache : List (NodeId × Int)
  /-- `trio.current_time()`. -/
  now : Int

/-- The locals of one `common_recursive_find_nodes` call and the pcs of its tasks. -/
structure State where
  queriedNodeIds : List NodeId
  unresponsiveNodeIds : List NodeId
  receivedNodeIds : List NodeId
  inFlight : List NodeId
  workers : Nat → WorkerPc
  /-- Every `do_lookup` started, in order. -/
  tasks : List Task
  monitor : MonitorPc
  /-- The worker holding the condition's lock across a send. -/
  holder : Option Nat
  channel : ChannelState
  delivered : List Enr
  learned : List NodeId
  /-- The exception that escaped a task and ended the lookup. -/
  raised : Option NetError

/-- The start: `local_node_id` and the ids that failed in the last 300 seconds are unresponsive. -/
def init (cfg : Config) (cache : List (NodeId × Int)) (now : Int) : State where
  queriedNodeIds := []
  unresponsiveNodeIds := cfg.localNodeId :: (cache.filter fun p => now - p.2 < 300).map (·.1)
  receivedNodeIds := []
  inFlight := []
  workers := fun _ => .top
  tasks := []
  monitor := .acquiring
  holder := none
  channel := .open
  delivered := []
  learned := []
  raised := none

/-- The `bucket_size` closest known ids to the target that are not unresponsive. -/
def closestResponsive (cfg : Config) (s : State) (nodes : List NodeId) : List NodeId :=
  ((iterClosestNodes cfg.target nodes s.receivedNodeIds).filter
    (· ∉ s.unresponsiveNodeIds)).take cfg.bucketSize

/-- `get_unqueried_node_ids`. -/
def getUnqueriedNodeIds (cfg : Config) (s : State) (nodes : List NodeId) : List NodeId :=
  ((closestResponsive cfg s nodes).filter fun n => n ∉ s.queriedNodeIds ∧ n ∉ s.inFlight).take 3

/-- `condition.notify_all()` wakes every waiting worker and the monitor. -/
def notifyAll (s : State) : State :=
  { s with
    workers := fun k => if s.workers k = .waiting then .top else s.workers k
    monitor := if s.monitor = .waiting then .acquiring else s.monitor }

/-- One step of the lookup. -/
inductive Action where
  /-- Worker `i` takes the lock and calls `get_unqueried_node_ids`. -/
  | workerRound (i : Nat)
  /-- Worker `i` handles the next id of its routing-table loop. -/
  | workerAnnounce (i : Nat)
  /-- Worker `i` releases the lock and starts the `do_lookup`s of its batch. -/
  | workerLaunch (i : Nat)
  /-- Worker `i`'s lookups are over: it drops its batch from `in_flight` and notifies. -/
  | workerFinish (i : Nat)
  /-- `network.find_nodes` of task `j` returns `reply`, the peer's FoundNodes responses. -/
  | respond (j : Nat) (reply : Except NetError (List (List Enr)))
  /-- Task `j` runs its `async with condition` block. -/
  | merge (j : Nat)
  /-- Task `j` sends its next ENR. -/
  | send (j : Nat)
  /-- `adaptive_timeout` cancels task `j`. -/
  | cancel (j : Nat)
  /-- `_monitor_done` holds the lock and checks for the end. -/
  | monitorCheck
  /-- The 60 second failsafe wakes `_monitor_done`. -/
  | monitorTimeout
  /-- The consumer closes the receive channel. -/
  | closeReceiver

/-- The exceptions `do_lookup` catches from `find_nodes`. -/
def caughtByDoLookup (e : NetError) : Prop :=
  e = .tooSlow ∨ e = .missingEndpointFields ∨ e = .validationError

instance (e : NetError) : Decidable (caughtByDoLookup e) := inferInstanceAs (Decidable (_ ∨ _))

/-- What is left of a send loop after one send. -/
def afterSend : List Enr → TaskPc
  | [] => .returned
  | rest => .sending rest

/-- Worker `i` sets its pc. -/
def State.setWorker (s : State) (i : Nat) (w : WorkerPc) : State :=
  { s with workers := Function.update s.workers i w }

/-- Task `j` moves to `pc`. -/
def State.setTask (s : State) (j : Nat) (t : Task) (pc : TaskPc) : State :=
  { s with tasks := s.tasks.set j { t with pc := pc } }

/-- Worker `i` marks `batch` queried and in flight, and keeps the lock for its table loop. -/
def State.takeBatch (s : State) (i : Nat) (batch candidates : List NodeId) : State :=
  { s.setWorker i (.announcing batch batch) with
    queriedNodeIds := batch ++ s.queriedNodeIds
    inFlight := batch ++ s.inFlight
    holder := some i
    learned := candidates ++ s.learned }

/-- The worker's routing-table loop for its next id `x`. -/
def announce (sh : Shared) (s : State) (i : Nat) (batch rest : List NodeId) (x : NodeId) :
    State :=
  if x ∈ s.receivedNodeIds then s.setWorker i (.announcing batch rest) else
  match sh.enrDb.getEnr x with
  | none => { s with raised := some .keyError }
  | some enr =>
    match s.channel with
    | .open =>
      { s.setWorker i (.announcing batch rest) with
        receivedNodeIds := x :: s.receivedNodeIds, delivered := s.delivered ++ [enr] }
    | _ =>
      { s.setWorker i .returned with receivedNodeIds := x :: s.receivedNodeIds, holder := none }

/-- Worker `i` releases the lock and starts a `do_lookup` per id of `batch`; a batch of more
than one runs under `adaptive_timeout`. -/
def State.launchBatch (s : State) (i : Nat) (batch : List NodeId) : State :=
  { s.setWorker i (.lookingUp batch) with
    holder := none
    tasks := s.tasks ++ batch.map fun x => ⟨i, x, batch.length != 1, .calling⟩ }

/-- Worker `i` removes `batch` from `in_flight` and notifies. -/
def State.finishBatch (s : State) (i : Nat) (batch : List NodeId) : State :=
  notifyAll { s.setWorker i .top with inFlight := s.inFlight.filter (· ∉ batch) }

/-- The distance `do_lookup(node_id, ...)` asks `node_id` for. -/
def lookupDistance (cfg : Config) (nodeId : NodeId) : Nat :=
  if nodeId = cfg.target then 0 else computeLogDistance nodeId cfg.target

/-- `do_lookup`'s answer to `find_nodes(node_id, distance)`: the ENRs stored and kept for
the merge, the failure recorded, or the exception that escapes. -/
def respond (cfg : Config) (sh : Shared) (s : State) (j : Nat) (t : Task)
    (reply : Except NetError (List (List Enr))) : State × Shared :=
  match reply >>= findNodesResponses t.nodeId [lookupDistance cfg t.nodeId] with
  | .ok found =>
    (s.setTask j t (.acquiring found), { sh with enrDb := found.foldl EnrDb.store sh.enrDb })
  | .error e =>
    if caughtByDoLookup e then
      ({ s.setTask j t .returned with unresponsiveNodeIds := t.nodeId :: s.unresponsiveNodeIds },
        { sh with unresponsiveCache :=
            (t.nodeId, sh.now) :: sh.unresponsiveCache.filter (·.1 ≠ t.nodeId) })
    else ({ s with raised := some e }, sh)

/-- Task `j`'s `async with condition` block: it records `found`'s new ids, to send their ENRs. -/
def State.mergeFound (s : State) (j : Nat) (t : Task) (found : List Enr) : State :=
  let new := found.filter (·.nodeId ∉ s.receivedNodeIds)
  { s.setTask j t (afterSend new) with receivedNodeIds := new.map (·.nodeId) ++ s.receivedNodeIds }

/-- Task `j` sends `e`, the next of its ENRs. -/
def State.sendNext (s : State) (j : Nat) (t : Task) (e : Enr) (rest : List Enr) : State :=
  match s.channel with
  | .open => { s.setTask j t (afterSend rest) with delivered := s.delivered ++ [e] }
  | _ => s.setTask j t .returned

/-- `trio.Cancelled` is raised into task `j`, whose handler records the node as unresponsive. -/
def State.cancelTask (s : State) (j : Nat) (t : Task) : State :=
  { s.setTask j t .cancelled with
    unresponsiveNodeIds :=
      if t.pc = .calling then t.nodeId :: s.unresponsiveNodeIds else s.unresponsiveNodeIds }

/-- `_monitor_done`'s check under the lock: leave the loop and close the channel, or wait. -/
def checkDone (cfg : Config) (sh : Shared) (s : State) : State :=
  if getUnqueriedNodeIds cfg s sh.nodes = [] ∧ s.inFlight = [] then
    { s with monitor := .done, channel := if s.channel = .open then .closed else s.channel }
  else { s with monitor := .waiting }

/-- The lookup's transition function; `none` when the action is not enabled. -/
def step (cfg : Config) (sh : Shared) (s : State) : Action → Option (State × Shared)
  | .workerRound i =>
    if s.raised = none ∧ i < cfg.concurrency ∧ s.workers i = .top ∧ s.holder = none then
      let batch := getUnqueriedNodeIds cfg s sh.nodes
      if batch = [] then some (s.setWorker i .waiting, sh)
      else some (s.takeBatch i batch (iterClosestNodes cfg.target sh.nodes s.receivedNodeIds), sh)
    else none
  | .workerAnnounce i =>
    match s.workers i with
    | .announcing batch (x :: rest) =>
      if s.raised = none ∧ s.holder = some i then some (announce sh s i batch rest x, sh) else none
    | _ => none
  | .workerLaunch i =>
    match s.workers i with
    | .announcing batch [] =>
      if s.raised = none ∧ s.holder = some i then some (s.launchBatch i batch, sh) else none
    | _ => none
  | .workerFinish i =>
    match s.workers i with
    | .lookingUp batch =>
      if s.raised = none ∧ s.holder = none ∧ ∀ t ∈ s.tasks, t.worker = i → ¬ t.Running then
        some (s.finishBatch i batch, sh)
      else none
    | _ => none
  | .respond j reply =>
    match s.tasks[j]? with
    | some t => if s.raised = none ∧ t.pc = .calling then some (respond cfg sh s j t reply) else none
    | none => none
  | .merge j =>
    match s.tasks[j]? with
    | some t =>
      match t.pc with
      | .acquiring found =>
        if s.raised = none ∧ s.holder = none then some (s.mergeFound j t found, sh) else none
      | _ => none
    | none => none
  | .send j =>
    match s.tasks[j]? with
    | some t =>
      match t.pc with
      | .sending (e :: rest) => if s.raised = none then some (s.sendNext j t e rest, sh) else none
      | _ => none
    | none => none
  | .cancel j =>
    match s.tasks[j]? with
    | some t =>
      if s.raised = none ∧ t.cancellable ∧ t.Running ∧
          ∃ u ∈ s.tasks, u.worker = t.worker ∧ u.nodeId ∈ (s.workers t.worker).batch ∧ ¬ u.Running then
        some (s.cancelTask j t, sh)
      else none
    | none => none
  | .monitorCheck =>
    if s.raised = none ∧ s.monitor = .acquiring ∧ s.holder = none then some (checkDone cfg sh s, sh)
    else none
  | .monitorTimeout =>
    if s.raised = none ∧ s.monitor = .waiting then some ({ s with monitor := .acquiring }, sh)
    else none
  | .closeReceiver =>
    if s.channel = .open then some ({ s with channel := .broken }, sh) else none

section Inversion

/-! One lemma per action says what an enabled step does; the invariants are proved from
these and never unfold `step`. -/

variable {cfg : Config} {sh sh' : Shared} {s s' : State}

theorem step_workerRound {i : Nat} (h : step cfg sh s (.workerRound i) = some (s', sh')) :
    sh' = sh ∧ s.workers i = .top ∧
      (s' = s.setWorker i .waiting ∨
        s' = s.takeBatch i (getUnqueriedNodeIds cfg s sh.nodes)
          (iterClosestNodes cfg.target sh.nodes s.receivedNodeIds)) := by
  simp only [step] at h
  split_ifs at h with hg <;> cases h
  exacts [⟨rfl, hg.2.2.1, .inl rfl⟩, ⟨rfl, hg.2.2.1, .inr rfl⟩]

theorem step_workerAnnounce {i : Nat} (h : step cfg sh s (.workerAnnounce i) = some (s', sh')) :
    sh' = sh ∧ s.raised = none ∧ ∃ b x rest, s.workers i = .announcing b (x :: rest) ∧
      s' = announce sh s i b rest x := by
  simp only [step] at h
  split at h
  · rename_i b x rest hw
    split_ifs at h with hg; cases h; exact ⟨rfl, hg.1, b, x, rest, hw, rfl⟩
  · cases h

theorem step_workerLaunch {i : Nat} (h : step cfg sh s (.workerLaunch i) = some (s', sh')) :
    sh' = sh ∧ ∃ b, s.workers i = .announcing b [] ∧ s' = s.launchBatch i b := by
  simp only [step] at h
  split at h
  · rename_i b hw
    split_ifs at h; cases h; exact ⟨rfl, b, hw, rfl⟩
  · cases h

theorem step_workerFinish {i : Nat} (h : step cfg sh s (.workerFinish i) = some (s', sh')) :
    sh' = sh ∧ ∃ b, s.workers i = .lookingUp b ∧ (∀ t ∈ s.tasks, t.worker = i → ¬ t.Running) ∧
      s' = s.finishBatch i b := by
  simp only [step] at h
  split at h
  · rename_i b hw
    split_ifs at h with hg; cases h; exact ⟨rfl, b, hw, hg.2.2, rfl⟩
  · cases h

theorem step_respond {j : Nat} {reply : Except NetError (List (List Enr))}
    (h : step cfg sh s (.respond j reply) = some (s', sh')) :
    ∃ t, s.tasks[j]? = some t ∧ t.pc = .calling ∧ s' = (respond cfg sh s j t reply).1 ∧
      sh' = (respond cfg sh s j t reply).2 := by
  simp only [step] at h
  split at h
  · rename_i t hj
    split_ifs at h with hg
    refine ⟨t, hj, hg.2, ?_⟩
    rw [Option.some.inj h]
    exact ⟨rfl, rfl⟩
  · cases h

theorem step_merge {j : Nat} (h : step cfg sh s (.merge j) = some (s', sh')) :
    sh' = sh ∧ ∃ t found, s.tasks[j]? = some t ∧ t.pc = .acquiring found ∧
      s' = s.mergeFound j t found := by
  simp only [step] at h
  split at h
  · rename_i t hj
    split at h
    · rename_i found hpc
      split_ifs at h; cases h; exact ⟨rfl, t, found, hj, hpc, rfl⟩
    · cases h
  · cases h

theorem step_send {j : Nat} (h : step cfg sh s (.send j) = some (s', sh')) :
    sh' = sh ∧ ∃ t e rest, s.tasks[j]? = some t ∧ t.pc = .sending (e :: rest) ∧
      s' = s.sendNext j t e rest := by
  simp only [step] at h
  split at h
  · rename_i t hj
    split at h
    · rename_i e rest hpc
      split_ifs at h; cases h; exact ⟨rfl, t, e, rest, hj, hpc, rfl⟩
    · cases h
  · cases h

theorem step_cancel {j : Nat} (h : step cfg sh s (.cancel j) = some (s', sh')) :
    sh' = sh ∧ ∃ t, s.tasks[j]? = some t ∧ t.Running ∧ s' = s.cancelTask j t := by
  simp only [step] at h
  split at h
  · rename_i t hj
    split_ifs at h with hg; cases h; exact ⟨rfl, t, hj, hg.2.2.1, rfl⟩
  · cases h

theorem step_monitorCheck (h : step cfg sh s .monitorCheck = some (s', sh')) :
    sh' = sh ∧ s' = checkDone cfg sh s := by
  simp only [step] at h
  split_ifs at h; cases h; exact ⟨rfl, rfl⟩

theorem step_monitorTimeout (h : step cfg sh s .monitorTimeout = some (s', sh')) :
    sh' = sh ∧ s' = { s with monitor := .acquiring } := by
  simp only [step] at h
  split_ifs at h; cases h; exact ⟨rfl, rfl⟩

theorem step_closeReceiver (h : step cfg sh s .closeReceiver = some (s', sh')) :
    sh' = sh ∧ s' = { s with channel := .broken } := by
  simp only [step] at h
  split_ifs at h; cases h; exact ⟨rfl, rfl⟩

/-- Only `do_lookup`'s handling of an answer changes what the lookup shares. -/
theorem step_shared {a : Action} (h : step cfg sh s a = some (s', sh')) :
    sh' = sh ∨ ∃ j t reply, sh' = (respond cfg sh s j t reply).2 := by
  cases a with
  | respond j reply => obtain ⟨t, -, -, -, rfl⟩ := step_respond h; exact .inr ⟨j, t, reply, rfl⟩
  | workerRound i => exact .inl (step_workerRound h).1
  | workerAnnounce i => exact .inl (step_workerAnnounce h).1
  | workerLaunch i => exact .inl (step_workerLaunch h).1
  | workerFinish i => exact .inl (step_workerFinish h).1
  | merge j => exact .inl (step_merge h).1
  | send j => exact .inl (step_send h).1
  | cancel j => exact .inl (step_cancel h).1
  | monitorCheck => exact .inl (step_monitorCheck h).1
  | monitorTimeout => exact .inl (step_monitorTimeout h).1
  | closeReceiver => exact .inl (step_closeReceiver h).1

end Inversion

/-- A step of the lookup, or of the rest of the node changing what the lookup shares. -/
inductive Step (cfg : Config) : State × Shared → State × Shared → Prop where
  | act {s : State} {sh : Shared} {s' : State} {sh' : Shared} (a : Action) :
      step cfg sh s a = some (s', sh') → Step cfg (s, sh) (s', sh')
  | env {s : State} {sh : Shared} (sh' : Shared) : Step cfg (s, sh) (s, sh')

/-- The states a lookup started at `now`, with the cache `cache`, can reach. -/
def Reachable (cfg : Config) (cache : List (NodeId × Int)) (now : Int) (sh₀ : Shared) :
    State × Shared → Prop :=
  Relation.ReflTransGen (Step cfg) (init cfg cache now, sh₀)

/-- Run a list of actions, with nothing else changing the shared state. -/
def run (cfg : Config) : State × Shared → List Action → Option (State × Shared)
  | p, [] => some p
  | (s, sh), a :: as => (step cfg sh s a).bind fun p => run cfg p as

/-- A run is a sequence of steps, each by one of its actions. -/
theorem run_steps {cfg : Config} :
    ∀ {as : List Action} {p q : State × Shared}, run cfg p as = some q →
      Relation.ReflTransGen (fun p p' => ∃ a ∈ as, step cfg p.2 p.1 a = some p') p q
  | [], _, _, h => Option.some.inj h ▸ .refl
  | a :: as, (_, _), _, h => by
    obtain ⟨_, hs, h'⟩ := Option.bind_eq_some.mp h
    exact .head ⟨a, List.mem_cons_self a as, hs⟩
      ((run_steps h').mono fun _ _ ⟨b, hb, hs'⟩ => ⟨b, List.mem_cons_of_mem a hb, hs'⟩)

/-- Runs of `run` are runs of the lookup. -/
theorem run_reachable {cfg : Config} {cache : List (NodeId × Int)} {now : Int} {sh₀ : Shared}
    {as : List Action} {p q : State × Shared} (hp : Reachable cfg cache now sh₀ p)
    (h : run cfg p as = some q) : Reachable cfg cache now sh₀ q :=
  hp.trans ((run_steps h).mono fun _ _ ⟨a, _, hs⟩ => .act a hs)

end Lookup

end Ddht
