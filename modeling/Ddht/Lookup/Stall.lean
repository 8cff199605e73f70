import Ddht.Lookup.Stored

/-!
# A lookup can wait forever

Only a worker that finishes a batch calls `notify_all`, but `get_unqueried_node_ids` also reads
the routing table, which the rest of the node changes. Once every worker waits and the table
gains a node to query, nothing wakes them, and `_monitor_done`'s failsafe only logs `Deadlock`.
While the table stays as it was, a waiting worker has nothing left to query.
-/

namespace Ddht

namespace Lookup

/-- Every worker waits (or never started), no `do_lookup` runs, no lock is held, `_monitor_done`
is in its loop, and `get_unqueried_node_ids` over the routing table `nodes` is not empty. -/
structure Stalled (cfg : Config) (nodes : List NodeId) (s : State) : Prop where
  raised : s.raised = none
  workers : ∀ i, s.workers i = .waiting ∨ s.workers i = .top ∧ cfg.concurrency ≤ i
  holder : s.holder = none
  tasks : ∀ t ∈ s.tasks, ¬ t.Running
  monitor : s.monitor ≠ .done
  unqueried : getUnqueriedNodeIds cfg s nodes ≠ []

variable {cfg : Config} {nodes : List NodeId} {s s' : State} {sh sh' : Shared}

/-- A worker holding a batch, which calls `notify_all` when its lookups are over. -/
def WorkerPc.Busy : WorkerPc → Prop
  | .announcing _ _ => True
  | .lookingUp _ => True
  | _ => False

/-- `worker`'s round: it waits only when `get_unqueried_node_ids` is empty, else takes a batch. -/
theorem step_workerRound_spec {i : Nat} (h : step cfg sh s (.workerRound i) = some (s', sh')) :
    i < cfg.concurrency ∧
      (getUnqueriedNodeIds cfg s sh.nodes = [] ∧ s' = s.setWorker i .waiting ∨ (s'.workers i).Busy) := by
  simp only [step] at h
  split_ifs at h with hg hb <;> cases h
  · exact ⟨hg.2.1, .inl ⟨hb, rfl⟩⟩
  · exact ⟨hg.2.1, .inr (by simp [State.takeBatch, State.setWorker, WorkerPc.Busy])⟩

theorem Stalled.idle (hs : Stalled cfg nodes s) (i : Nat) :
    s.workers i = .waiting ∨ s.workers i = .top :=
  (hs.workers i).imp_right And.left

theorem Stalled.pc (hs : Stalled cfg nodes s) {j : Nat} {t : Task} (hj : s.tasks[j]? = some t) :
    t.pc = .returned ∨ t.pc = .cancelled := by
  by_contra hne
  exact hs.tasks t (List.getElem?_mem hj) (not_or.mp hne)

theorem Stalled.setMonitor (hs : Stalled cfg nodes s) {m : MonitorPc} (hm : m ≠ .done) :
    Stalled cfg nodes { s with monitor := m } :=
  ⟨hs.raised, hs.workers, hs.holder, hs.tasks, hm, hs.unqueried⟩

/-- From a stalled state only `_monitor_done`'s round of its loop and the consumer's close are
enabled; neither wakes a worker, and the routing table is what `_monitor_done` checks. -/
theorem stalled_step (hs : Stalled cfg nodes s) {a : Action} (h : step cfg sh s a = some (s', sh'))
    (hn : sh'.nodes = nodes) :
    sh' = sh ∧ Stalled cfg nodes s' ∧ s'.queriedNodeIds = s.queriedNodeIds ∧
      s'.delivered = s.delivered := by
  cases a with
  | workerRound i =>
    obtain ⟨-, hw, -⟩ := step_workerRound h
    rcases hs.workers i with hi | ⟨-, hi⟩
    · rw [hi] at hw; cases hw
    · exact absurd (step_workerRound_spec h).1 (not_lt.mpr hi)
  | workerAnnounce i =>
    obtain ⟨-, -, b, x, rest, hw, -⟩ := step_workerAnnounce h
    rcases hs.idle i with hi | hi <;> rw [hi] at hw <;> cases hw
  | workerLaunch i =>
    obtain ⟨-, b, hw, -⟩ := step_workerLaunch h
    rcases hs.idle i with hi | hi <;> rw [hi] at hw <;> cases hw
  | workerFinish i =>
    obtain ⟨-, b, hw, -⟩ := step_workerFinish h
    rcases hs.idle i with hi | hi <;> rw [hi] at hw <;> cases hw
  | respond j reply =>
    obtain ⟨t, hj, hpc, -⟩ := step_respond h
    rcases hs.pc hj with h' | h' <;> rw [h'] at hpc <;> cases hpc
  | merge j =>
    obtain ⟨-, t, found, hj, hpc, -⟩ := step_merge h
    rcases hs.pc hj with h' | h' <;> rw [h'] at hpc <;> cases hpc
  | send j =>
    obtain ⟨-, t, e, rest, hj, hpc, -⟩ := step_send h
    rcases hs.pc hj with h' | h' <;> rw [h'] at hpc <;> cases hpc
  | cancel j =>
    obtain ⟨-, t, hj, hrun, -⟩ := step_cancel h
    exact absurd hrun (hs.tasks t (List.getElem?_mem hj))
  | monitorCheck =>
    obtain ⟨rfl, rfl⟩ := step_monitorCheck h
    unfold checkDone
    rw [if_neg fun h => hs.unqueried (hn ▸ h.1)]
    exact ⟨rfl, hs.setMonitor nofun, rfl, rfl⟩
  | monitorTimeout =>
    obtain ⟨rfl, rfl⟩ := step_monitorTimeout h
    exact ⟨rfl, hs.setMonitor nofun, rfl, rfl⟩
  | closeReceiver =>
    obtain ⟨rfl, rfl⟩ := step_closeReceiver h
    exact ⟨rfl, ⟨hs.raised, hs.workers, hs.holder, hs.tasks, hs.monitor, hs.unqueried⟩, rfl, rfl⟩

theorem stalled_run (hs : Stalled cfg nodes s) {p : State × Shared}
    (h : Relation.ReflTransGen (fun p p' => Step cfg p p' ∧ p'.2.nodes = nodes) (s, sh) p) :
    Stalled cfg nodes p.1 ∧ p.1.monitor ≠ .done ∧ p.1.queriedNodeIds = s.queriedNodeIds ∧
      p.1.delivered = s.delivered := by
  induction h with
  | refl => exact ⟨hs, hs.monitor, rfl, rfl⟩
  | tail _ hstep ih =>
    obtain ⟨hs₁, -, hq, hd⟩ := ih
    obtain ⟨hst, hn⟩ := hstep
    cases hst with
    | act a h =>
      obtain ⟨-, hs₂, hq', hd'⟩ := stalled_step hs₁ h hn
      exact ⟨hs₂, hs₂.monitor, hq'.trans hq, hd'.trans hd⟩
    | env sh' => exact ⟨hs₁, hs₁.monitor, hq, hd⟩

/-- Once every worker waits with nothing in flight while an id is left to query, no run keeping
the routing table wakes a worker, queries or sends anything, or lets `_monitor_done` end. -/
theorem stalled_lookup_never_ends (hs : Stalled cfg nodes s) {p : State × Shared}
    (h : Relation.ReflTransGen (fun p p' => Step cfg p p' ∧ p'.2.nodes = nodes) (s, sh) p) :
    Stalled cfg nodes p.1 ∧ p.1.monitor ≠ .done ∧ p.1.queriedNodeIds = s.queriedNodeIds ∧
      p.1.delivered = s.delivered :=
  stalled_run hs h

/-- A lookup for `0x02` by the node `0x00`, with the default three workers. -/
def stallLookup : Config := ⟨2#256, 0#256, 16, 3⟩

/-- The three workers of `stallLookup` wait on the condition, and so does `_monitor_done`. -/
def stalledState : State :=
  { (((init stallLookup [] 0).setWorker 0 .waiting).setWorker 1 .waiting).setWorker 2 .waiting with
    monitor := .waiting }

/-- Over an empty routing table the three workers find nothing to query and wait. -/
theorem stallLookup_workers_wait (db : EnrDb) :
    run stallLookup (init stallLookup [] 0, ⟨[], db, [], 0⟩)
        [.workerRound 0, .workerRound 1, .workerRound 2] =
      some ((((init stallLookup [] 0).setWorker 0 .waiting).setWorker 1 .waiting).setWorker 2
        .waiting, ⟨[], db, [], 0⟩) := rfl

theorem stalledState_stalled : Stalled stallLookup [1#256] stalledState :=
  ⟨rfl, fun i => by
    simp only [stalledState, State.setWorker, init, Function.update_apply]
    split_ifs <;> first | exact .inl rfl | exact .inr ⟨rfl, show 3 ≤ i by omega⟩,
    rfl, fun _ h => absurd h (List.not_mem_nil _), nofun, by decide⟩

/-- The lookup starts with an empty routing table and its three workers find nothing and wait;
the table gains `0x01`; `_monitor_done` finds it unqueried and waits too. -/
theorem stalled_lookup_after_table_grows :
    Reachable stallLookup [] 0 ⟨[], ⟨[]⟩, [], 0⟩ (stalledState, ⟨[1#256], ⟨[]⟩, [], 0⟩) ∧
      Stalled stallLookup [1#256] stalledState ∧
      ∀ p, Relation.ReflTransGen (fun p p' => Step stallLookup p p' ∧ p'.2.nodes = [1#256])
          (stalledState, ⟨[1#256], ⟨[]⟩, [], 0⟩) p →
        Stalled stallLookup [1#256] p.1 ∧ p.1.monitor ≠ .done ∧
          p.1.queriedNodeIds = stalledState.queriedNodeIds ∧ p.1.delivered = stalledState.delivered :=
  ⟨((run_reachable .refl (stallLookup_workers_wait ⟨[]⟩)).tail (.env ⟨[1#256], ⟨[]⟩, [], 0⟩)).tail
      (.act .monitorCheck rfl), stalledState_stalled,
    fun _ h => stalled_lookup_never_ends stalledState_stalled h⟩

/-! ### Without a change of the routing table -/

/-- With the channel open and no batch held, a waiting worker has nothing to query in `nodes`. -/
def Awake (cfg : Config) (nodes : List NodeId) (s : State) : Prop :=
  s.channel = .open → (∀ k, ¬ (s.workers k).Busy) → (∃ i, s.workers i = .waiting) →
    getUnqueriedNodeIds cfg s nodes = []

theorem Awake.of_busy (k : Nat) (hk : (s.workers k).Busy) : Awake cfg nodes s :=
  fun _ hidle _ => absurd hk (hidle k)

theorem Awake.frame (ha : Awake cfg nodes s) (hw : s'.workers = s.workers)
    (hu : getUnqueriedNodeIds cfg s' nodes = getUnqueriedNodeIds cfg s nodes)
    (hc : s'.channel = .open → s.channel = .open) : Awake cfg nodes s' :=
  fun ho hidle hwait => hu ▸ ha (hc ho) (hw ▸ hidle) (hw ▸ hwait)

theorem notifyAll_not_waiting (s : State) (i : Nat) : (notifyAll s).workers i ≠ .waiting := by
  unfold notifyAll
  dsimp only
  split_ifs with h
  exacts [nofun, h]

/-- The worker of a running `do_lookup` holds its batch. -/
theorem Inv.busy_of_running {u₀ : List NodeId} (hi : Inv u₀ s) {j : Nat} {t : Task}
    (hj : s.tasks[j]? = some t) (hr : t.Running) : (s.workers t.worker).Busy := by
  obtain ⟨b, hb, -⟩ := hi.running_batch t (List.getElem?_mem hj) hr
  rw [hb]
  trivial

theorem respond_workers {j : Nat} {t : Task} (reply : Except NetError (List (List Enr))) :
    (respond cfg sh s j t reply).1.workers = s.workers := by
  unfold respond
  split
  · rfl
  · split_ifs <;> rfl

theorem sendNext_workers {j : Nat} {t : Task} (e : Enr) (rest : List Enr) :
    (s.sendNext j t e rest).workers = s.workers := by
  unfold State.sendNext
  split <;> rfl

/-- The routing-table loop keeps the worker's batch, unless the channel is no longer open. -/
theorem announce_busy {i : Nat} {b rest : List NodeId} {x : NodeId} (hw : s.workers i = .announcing b (x :: rest)) :
    ((announce sh s i b rest x).workers i).Busy ∨ (announce sh s i b rest x).channel ≠ .open := by
  unfold announce
  split_ifs
  · exact .inl (by simp [State.setWorker, WorkerPc.Busy])
  · split
    · exact .inl (by rw [hw]; trivial)
    · split
      · exact .inl (by simp [State.setWorker, WorkerPc.Busy])
      · rename_i hne
        exact .inr hne

/-- Each step keeps `Awake`, when the step leaves the routing table `nodes`. -/
theorem awake_step {u₀ : List NodeId} (hi : Inv u₀ s) (ha : Awake cfg nodes s) {a : Action}
    (h : step cfg sh s a = some (s', sh')) (hn : sh'.nodes = nodes) : Awake cfg nodes s' := by
  have hn' : sh.nodes = nodes := (step_shared_grows h).1 ▸ hn
  cases a with
  | workerRound i =>
    rcases (step_workerRound_spec h).2 with ⟨hu, rfl⟩ | hb
    · exact fun _ _ _ => hn' ▸ hu
    · exact .of_busy i hb
  | workerAnnounce i =>
    obtain ⟨-, -, b, x, rest, hw, rfl⟩ := step_workerAnnounce h
    rcases announce_busy hw with hb | hc
    · exact .of_busy i hb
    · exact fun ho => absurd ho hc
  | workerLaunch i =>
    obtain ⟨-, b, -, rfl⟩ := step_workerLaunch h
    exact .of_busy i (by simp [State.launchBatch, State.setWorker, WorkerPc.Busy])
  | workerFinish i =>
    obtain ⟨-, b, -, -, rfl⟩ := step_workerFinish h
    exact fun _ _ ⟨k, hk⟩ => absurd hk (notifyAll_not_waiting _ k)
  | respond j reply =>
    obtain ⟨t, hj, hpc, rfl, -⟩ := step_respond h
    have hb := hi.busy_of_running hj (running_of_pc hpc nofun nofun)
    exact .of_busy t.worker ((respond_workers reply).symm ▸ hb)
  | merge j =>
    obtain ⟨-, t, found, hj, hpc, rfl⟩ := step_merge h
    exact .of_busy t.worker (hi.busy_of_running hj (running_of_pc hpc nofun nofun))
  | send j =>
    obtain ⟨-, t, e, rest, hj, hpc, rfl⟩ := step_send h
    have hb := hi.busy_of_running hj (running_of_pc hpc nofun nofun)
    exact .of_busy t.worker ((sendNext_workers e rest).symm ▸ hb)
  | cancel j =>
    obtain ⟨-, t, hj, hr, rfl⟩ := step_cancel h
    exact .of_busy t.worker (hi.busy_of_running hj hr)
  | monitorCheck =>
    obtain ⟨-, rfl⟩ := step_monitorCheck h
    unfold checkDone
    split_ifs with hd hc
    · exact fun ho => absurd ho nofun
    · exact fun ho => absurd ho hc
    · exact ha.frame rfl rfl id
  | monitorTimeout =>
    obtain ⟨-, rfl⟩ := step_monitorTimeout h
    exact ha.frame rfl rfl id
  | closeReceiver =>
    obtain ⟨-, rfl⟩ := step_closeReceiver h
    exact fun ho => absurd ho nofun

/-- A lookup stays `Awake` over every run whose every step leaves the routing table `nodes`. -/
theorem awake_run {cache : List (NodeId × Int)} {now : Int} {sh₀ : Shared} {p : State × Shared}
    (h : Relation.ReflTransGen (fun p p' => Step cfg p p' ∧ p'.2.nodes = nodes)
      (init cfg cache now, sh₀) p) : Awake cfg nodes p.1 := by
  induction h with
  | refl => exact fun _ _ ⟨_, hw⟩ => absurd hw nofun
  | tail h₁ hstep ih =>
    obtain ⟨hst, hn⟩ := hstep
    have hi := inv_reachable (h₁.mono fun _ _ h => h.1)
    cases hst with
    | act a hs => exact awake_step hi ih hs hn
    | env sh' => exact ih

/-- An awake lookup with a worker and its channel open is not stalled: its stalled workers all
wait or are not started, and none holds a batch. -/
theorem Awake.not_stalled (ha : Awake cfg nodes s) (hc : 0 < cfg.concurrency)
    (ho : s.channel = .open) : ¬ Stalled cfg nodes s := fun hs =>
  hs.unqueried <| ha ho (fun k hk => by rcases hs.idle k with hw | hw <;> rw [hw] at hk <;> exact hk)
    ⟨0, (hs.workers 0).resolve_right fun ⟨_, hw⟩ => absurd hw (by omega)⟩

/-- Over every run keeping the routing table it started with, a worker waits with the channel
open only when nothing is left to query or another worker holds a batch: it never stalls. -/
theorem lookup_stalls_only_after_table_changes {cache : List (NodeId × Int)} {now : Int}
    {sh₀ : Shared} {p : State × Shared}
    (h : Relation.ReflTransGen (fun p p' => Step cfg p p' ∧ p'.2.nodes = sh₀.nodes)
      (init cfg cache now, sh₀) p) :
    (p.1.channel = .open → (∀ k, ¬ (p.1.workers k).Busy) → (∃ i, p.1.workers i = .waiting) →
        getUnqueriedNodeIds cfg p.1 sh₀.nodes = []) ∧
      (0 < cfg.concurrency → p.1.channel = .open → ¬ Stalled cfg sh₀.nodes p.1) :=
  ⟨awake_run h, (awake_run h).not_stalled⟩

/-- A run of actions leaves the routing table's ids as they are. -/
theorem run_kept {as : List Action} {p q : State × Shared} (hn : p.2.nodes = nodes)
    (h : run cfg p as = some q) :
    Relation.ReflTransGen (fun p p' => Step cfg p p' ∧ p'.2.nodes = nodes) p q := by
  suffices Relation.ReflTransGen (fun p p' => Step cfg p p' ∧ p'.2.nodes = nodes) p q ∧
    q.2.nodes = nodes from this.1
  have hs := run_steps h
  clear h
  induction hs with
  | refl => exact ⟨.refl, hn⟩
  | tail _ hs ih =>
    obtain ⟨a, -, hs⟩ := hs
    have hn' := (step_shared_grows hs).1.trans ih.2
    exact ⟨ih.1.tail ⟨.act a hs, hn'⟩, hn'⟩

/-- After both rounds of `dropAndRepeat`, worker 0 finds nothing left to query and waits. -/
theorem lookup_stalls_only_after_table_changes_after_two_rounds :
    ∃ p, Relation.ReflTransGen (fun p p' => Step soloLookup p p' ∧ p'.2.nodes = twoPeers.nodes)
        (init soloLookup [] 0, twoPeers) p ∧
      p.1.channel = .open ∧ p.1.workers 0 = .waiting ∧
      (p.1.channel = .open → (∀ k, ¬ (p.1.workers k).Busy) → (∃ i, p.1.workers i = .waiting) →
          getUnqueriedNodeIds soloLookup p.1 twoPeers.nodes = []) ∧
        (0 < soloLookup.concurrency → p.1.channel = .open →
          ¬ Stalled soloLookup twoPeers.nodes p.1) :=
  have h := run_kept rfl (rfl : run soloLookup (init soloLookup [] 0, twoPeers)
    (dropAndRepeat.dropLast ++ [.workerRound 0]) = some _)
  ⟨_, h, by decide, by decide, lookup_stalls_only_after_table_changes h⟩

end Lookup

end Ddht
