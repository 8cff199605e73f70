import Ddht.Lookup.Machine

/-!
# What every interleaving of a lookup keeps

`Inv`: the workers' batches are disjoint and in flight, `in_flight` lies inside
`queried_node_ids`, no two `do_lookup`s share a node id, and a running `do_lookup` belongs to a
batch in flight.
-/

namespace Ddht

namespace Lookup

variable {cfg : Config} {s s' : State} {sh sh' : Shared} {nodes : List NodeId}

@[simp] theorem setWorker_workers (s : State) (i : Nat) (w : WorkerPc) :
    (s.setWorker i w).workers = Function.update s.workers i w := rfl

@[simp] theorem setTask_tasks (s : State) (j : Nat) (t : Task) (pc : TaskPc) :
    (s.setTask j t pc).tasks = s.tasks.set j { t with pc := pc } := rfl

@[simp] theorem takeBatch_workers (s : State) (i : Nat) (b c : List NodeId) :
    (s.takeBatch i b c).workers = Function.update s.workers i (.announcing b b) := rfl

@[simp] theorem launchBatch_workers (s : State) (i : Nat) (b : List NodeId) :
    (s.launchBatch i b).workers = Function.update s.workers i (.lookingUp b) := rfl

@[simp] theorem launchBatch_tasks (s : State) (i : Nat) (b : List NodeId) :
    (s.launchBatch i b).tasks = s.tasks ++ b.map fun x => ⟨i, x, b.length != 1, .calling⟩ := rfl

theorem mem_closestResponsive {x : NodeId} (h : x ∈ closestResponsive cfg s nodes) :
    x ∈ iterClosestNodes cfg.target nodes s.receivedNodeIds ∧ x ∉ s.unresponsiveNodeIds := by
  have h := List.mem_filter.mp (List.mem_of_mem_take h)
  exact ⟨h.1, by simpa using h.2⟩

theorem mem_getUnqueriedNodeIds {x : NodeId} (h : x ∈ getUnqueriedNodeIds cfg s nodes) :
    x ∈ closestResponsive cfg s nodes ∧ x ∉ s.queriedNodeIds ∧ x ∉ s.inFlight := by
  have h := List.mem_filter.mp (List.mem_of_mem_take h)
  exact ⟨h.1, by simpa using h.2⟩

theorem nodup_getUnqueriedNodeIds : (getUnqueriedNodeIds cfg s nodes).Nodup :=
  (List.take_sublist _ _).nodup <| ((List.take_sublist _ _).nodup <|
    (nodup_iterClosestNodes _ _ _).filter _).filter _

/-- An empty `get_unqueried_node_ids`: each closest responsive id is queried or in flight. -/
theorem getUnqueriedNodeIds_eq_nil (h : getUnqueriedNodeIds cfg s nodes = []) {x : NodeId}
    (hx : x ∈ closestResponsive cfg s nodes) : x ∈ s.queriedNodeIds ∨ x ∈ s.inFlight := by
  rw [getUnqueriedNodeIds, List.take_eq_nil_iff, List.filter_eq_nil_iff] at h
  simp only [OfNat.ofNat_ne_zero, false_or] at h
  by_contra hn
  exact h x hx (by simpa [not_or] using hn)

/-- What every reachable state of a lookup keeps; `u₀` is its initial `unresponsive_node_ids`. -/
structure Inv (u₀ : List NodeId) (s : State) : Prop where
  unresponsive_mono : ∀ x ∈ u₀, x ∈ s.unresponsiveNodeIds
  queried_responsive : ∀ x ∈ s.queriedNodeIds, x ∉ u₀
  queried_learned : ∀ x ∈ s.queriedNodeIds, x ∈ s.learned
  inFlight_queried : ∀ x ∈ s.inFlight, x ∈ s.queriedNodeIds
  task_queried : ∀ t ∈ s.tasks, t.nodeId ∈ s.queriedNodeIds
  task_nodup : (s.tasks.map (·.nodeId)).Nodup
  announcing_fresh : ∀ i b p, s.workers i = .announcing b p → ∀ x ∈ b, ∀ t ∈ s.tasks, t.nodeId ≠ x
  batch_nodup : ∀ i, (s.workers i).batch.Nodup
  batch_disjoint : ∀ i j, i ≠ j → ∀ x ∈ (s.workers i).batch, x ∉ (s.workers j).batch
  batch_inFlight : ∀ i, ∀ x ∈ (s.workers i).batch, x ∈ s.inFlight
  running_batch : ∀ t ∈ s.tasks, t.Running → ∃ b, s.workers t.worker = .lookingUp b ∧ t.nodeId ∈ b

theorem inv_init (cfg : Config) (cache : List (NodeId × Int)) (now : Int) :
    Inv (init cfg cache now).unresponsiveNodeIds (init cfg cache now) := by
  constructor <;> simp [init, WorkerPc.batch]

/-! ### Steps that take no batch -/

/-- How a worker moves without taking, launching or giving back a batch: on through its
routing-table loop, out of it on a closed channel, into `condition.wait()`, or woken. -/
inductive WorkerPc.KeepsBatch : WorkerPc → WorkerPc → Prop
  | refl (w : WorkerPc) : KeepsBatch w w
  | announce (b p p' : List NodeId) : KeepsBatch (.announcing b p) (.announcing b p')
  | leave (b p : List NodeId) : KeepsBatch (.announcing b p) .returned
  | wait : KeepsBatch .top .waiting
  | wake : KeepsBatch .waiting .top

theorem WorkerPc.KeepsBatch.batch {w w' : WorkerPc} (h : w.KeepsBatch w') :
    w'.batch = w.batch ∨ w'.batch = [] := by
  cases h <;> simp [WorkerPc.batch]

theorem WorkerPc.KeepsBatch.announcing {w : WorkerPc} {b p : List NodeId}
    (h : w.KeepsBatch (.announcing b p)) : ∃ p', w = .announcing b p' := by
  cases h with
  | refl => exact ⟨p, rfl⟩
  | announce _ p' _ => exact ⟨p', rfl⟩

theorem WorkerPc.KeepsBatch.lookingUp {w' : WorkerPc} {b : List NodeId}
    (h : (WorkerPc.lookingUp b).KeepsBatch w') : w' = .lookingUp b := by
  cases h; rfl

theorem keepsBatch_update {f : Nat → WorkerPc} {i : Nat} {w : WorkerPc} (h : (f i).KeepsBatch w)
    (k : Nat) : (f k).KeepsBatch (Function.update f i w k) := by
  by_cases hk : k = i
  · subst hk; rwa [Function.update_same]
  · rw [Function.update_noteq hk]; exact .refl _

/-- What a step that takes no batch changes: ids only join `unresponsive_node_ids`, every
worker keeps its batch or drops it, and a task keeps its id and can only stop. -/
structure Frame (s s' : State) : Prop where
  queried : s'.queriedNodeIds = s.queriedNodeIds
  inFlight : s'.inFlight = s.inFlight
  learned : s'.learned = s.learned
  unresponsive : ∀ x ∈ s.unresponsiveNodeIds, x ∈ s'.unresponsiveNodeIds
  workers : ∀ i, (s.workers i).KeepsBatch (s'.workers i)
  task_ids : s'.tasks.map (·.nodeId) = s.tasks.map (·.nodeId)
  task_running : ∀ t' ∈ s'.tasks, t'.Running →
    ∃ t ∈ s.tasks, t.Running ∧ t.worker = t'.worker ∧ t.nodeId = t'.nodeId
  /-- Only `_monitor_done`'s own check ends its loop. -/
  monitor_done : s'.monitor = .done → s.monitor = .done

theorem Frame.mem_task_ids (hf : Frame s s') {t : Task} (ht : t ∈ s'.tasks) :
    ∃ u ∈ s.tasks, u.nodeId = t.nodeId :=
  List.mem_map.mp (hf.task_ids ▸ List.mem_map_of_mem (·.nodeId) ht)

theorem Frame.mem_batch (hf : Frame s s') {i : Nat} {x : NodeId}
    (hx : x ∈ (s'.workers i).batch) : x ∈ (s.workers i).batch := by
  rcases (hf.workers i).batch with h | h <;> rw [h] at hx
  · exact hx
  · simp at hx

theorem Inv.frame (hi : Inv u₀ s) (hf : Frame s s') : Inv u₀ s' where
  unresponsive_mono x hx := hf.unresponsive x (hi.unresponsive_mono x hx)
  queried_responsive x hx := hi.queried_responsive x (hf.queried ▸ hx)
  queried_learned x hx := hf.learned ▸ hi.queried_learned x (hf.queried ▸ hx)
  inFlight_queried x hx := hf.queried ▸ hi.inFlight_queried x (hf.inFlight ▸ hx)
  task_queried t ht := by
    obtain ⟨u, hu, he⟩ := hf.mem_task_ids ht
    exact hf.queried ▸ he ▸ hi.task_queried u hu
  task_nodup := hf.task_ids ▸ hi.task_nodup
  announcing_fresh i b p hw x hx t ht := by
    obtain ⟨p', hw'⟩ := (hw ▸ hf.workers i).announcing
    obtain ⟨u, hu, he⟩ := hf.mem_task_ids ht
    exact he ▸ hi.announcing_fresh i b p' hw' x hx u hu
  batch_nodup i := by
    rcases (hf.workers i).batch with h | h <;> rw [h]
    exacts [hi.batch_nodup i, List.nodup_nil]
  batch_disjoint i j hij x hx hy := hi.batch_disjoint i j hij x (hf.mem_batch hx) (hf.mem_batch hy)
  batch_inFlight i x hx := hf.inFlight ▸ hi.batch_inFlight i x (hf.mem_batch hx)
  running_batch t' ht' hr := by
    obtain ⟨t, ht, hr, hw, hn⟩ := hf.task_running t' ht' hr
    obtain ⟨b, hb, hx⟩ := hi.running_batch t ht hr
    exact ⟨b, hw ▸ (hb ▸ hf.workers t.worker).lookingUp, hn ▸ hx⟩

/-- Only the fields outside the frame change. -/
theorem frame_of_eq (hq : s'.queriedNodeIds = s.queriedNodeIds) (hf : s'.inFlight = s.inFlight)
    (hl : s'.learned = s.learned) (hu : s'.unresponsiveNodeIds = s.unresponsiveNodeIds)
    (hw : s'.workers = s.workers) (ht : s'.tasks = s.tasks)
    (hm : s'.monitor = .done → s.monitor = .done) : Frame s s' :=
  ⟨hq, hf, hl, fun _ hx => hu ▸ hx, fun _ => hw ▸ .refl _, ht ▸ rfl,
    fun t h hr => ⟨t, ht ▸ h, hr, rfl, rfl⟩, hm⟩

theorem map_nodeId_set {tasks : List Task} {j : Nat} {t : Task} (h : tasks[j]? = some t)
    (pc : TaskPc) : (tasks.set j { t with pc := pc }).map (·.nodeId) = tasks.map (·.nodeId) := by
  ext n : 1
  rw [List.getElem?_map, List.getElem?_map, List.getElem?_set]
  split_ifs with hj hl
  · subst hj; simp [h]
  · subst hj; rw [List.getElem?_eq_none (by omega)] at h; cases h
  · rfl

/-- Task `j`, running, moves to `pc`; `unresponsive_node_ids` may grow, the rest may change. -/
theorem frame_setTask {j : Nat} {t : Task} (h : s.tasks[j]? = some t) (hr : t.Running)
    {pc : TaskPc} (hu : ∀ x ∈ s.unresponsiveNodeIds, x ∈ s'.unresponsiveNodeIds)
    (hq : s'.queriedNodeIds = s.queriedNodeIds) (hf : s'.inFlight = s.inFlight)
    (hl : s'.learned = s.learned) (hw : s'.workers = s.workers)
    (ht : s'.tasks = s.tasks.set j { t with pc := pc }) (hm : s'.monitor = s.monitor) :
    Frame s s' where
  queried := hq
  inFlight := hf
  learned := hl
  unresponsive := hu
  workers _ := hw ▸ .refl _
  task_ids := ht ▸ map_nodeId_set h pc
  task_running t' ht' hr' := by
    rcases List.mem_or_eq_of_mem_set (ht ▸ ht') with ht' | rfl
    · exact ⟨t', ht', hr', rfl, rfl⟩
    · exact ⟨t, List.getElem?_mem h, hr, rfl, rfl⟩
  monitor_done := hm ▸ id

theorem frame_notifyAll (s : State) : Frame s (notifyAll s) where
  queried := rfl
  inFlight := rfl
  learned := rfl
  unresponsive _ hx := hx
  workers k := by
    simp only [notifyAll]; split_ifs with h
    · exact h ▸ .wake
    · exact .refl _
  task_ids := rfl
  task_running t h hr := ⟨t, h, hr, rfl, rfl⟩
  monitor_done h := by simp only [notifyAll] at h; split_ifs at h; exact h

theorem frame_announce {sh : Shared} {i : Nat} {b rest : List NodeId} {x : NodeId}
    (hw : s.workers i = .announcing b (x :: rest)) : Frame s (announce sh s i b rest x) := by
  have hk : ∀ w, (s.workers i).KeepsBatch w → ∀ rcv dlv h,
      Frame s { s.setWorker i w with receivedNodeIds := rcv, delivered := dlv, holder := h } :=
    fun w hw' _ _ _ => ⟨rfl, rfl, rfl, fun _ hx => hx, keepsBatch_update hw', rfl,
      fun t h hr => ⟨t, h, hr, rfl, rfl⟩, id⟩
  unfold announce
  split_ifs
  · exact hk _ (hw ▸ .announce b _ rest) s.receivedNodeIds s.delivered s.holder
  · split
    · exact frame_of_eq rfl rfl rfl rfl rfl rfl id
    · split
      · exact hk _ (hw ▸ .announce b _ rest) _ _ s.holder
      · exact hk _ (hw ▸ .leave b _) _ s.delivered _

theorem frame_respond {j : Nat} {t : Task} (hj : s.tasks[j]? = some t) (hr : t.Running)
    (reply : Except NetError (List (List Enr))) : Frame s (respond cfg sh s j t reply).1 := by
  unfold respond
  split
  · exact frame_setTask hj hr (fun _ hx => hx) rfl rfl rfl rfl rfl rfl
  · split_ifs
    · exact frame_setTask hj hr (fun _ hx => List.mem_cons_of_mem _ hx) rfl rfl rfl rfl rfl rfl
    · exact frame_of_eq rfl rfl rfl rfl rfl rfl id

theorem frame_sendNext {j : Nat} {t : Task} (hj : s.tasks[j]? = some t) (hr : t.Running)
    (e : Enr) (rest : List Enr) : Frame s (s.sendNext j t e rest) := by
  unfold State.sendNext
  split <;> exact frame_setTask hj hr (fun _ hx => hx) rfl rfl rfl rfl rfl rfl

theorem frame_cancelTask {j : Nat} {t : Task} (hj : s.tasks[j]? = some t) (hr : t.Running) :
    Frame s (s.cancelTask j t) := by
  refine frame_setTask hj hr (fun x hx => ?_) rfl rfl rfl rfl rfl rfl
  dsimp only [State.cancelTask]
  split_ifs
  exacts [List.mem_cons_of_mem _ hx, hx]

theorem running_of_pc {t : Task} {pc : TaskPc} (h : t.pc = pc) (hr : pc ≠ .returned)
    (hc : pc ≠ .cancelled) : t.Running :=
  ⟨h ▸ hr, h ▸ hc⟩

/-! ### Taking, launching and giving back a batch -/

theorem batch_update_ne {f : Nat → WorkerPc} {i k : Nat} (w : WorkerPc) (hk : k ≠ i) :
    (Function.update f i w k).batch = (f k).batch := by
  rw [Function.update_noteq hk]

/-- Worker `i`, at the head of its loop, takes `batch`: ids among its `candidates` that are
responsive, neither queried nor in flight, and none twice. -/
theorem Inv.take (hi : Inv u₀ s) {i : Nat} (hw : s.workers i = .top)
    {batch candidates : List NodeId}
    (hb : ∀ x ∈ batch, x ∈ candidates ∧ x ∉ s.unresponsiveNodeIds ∧ x ∉ s.queriedNodeIds ∧
      x ∉ s.inFlight)
    (hn : batch.Nodup) : Inv u₀ (s.takeBatch i batch candidates) where
  unresponsive_mono := hi.unresponsive_mono
  queried_responsive x hx := by
    rcases List.mem_append.mp hx with hx | hx
    · exact fun h0 => (hb x hx).2.1 (hi.unresponsive_mono x h0)
    · exact hi.queried_responsive x hx
  queried_learned x hx := by
    rcases List.mem_append.mp hx with hx | hx
    · exact List.mem_append_left _ (hb x hx).1
    · exact List.mem_append_right _ (hi.queried_learned x hx)
  inFlight_queried x hx := by
    rcases List.mem_append.mp hx with hx | hx
    · exact List.mem_append_left _ hx
    · exact List.mem_append_right _ (hi.inFlight_queried x hx)
  task_queried t ht := List.mem_append_right _ (hi.task_queried t ht)
  task_nodup := hi.task_nodup
  announcing_fresh k b p hk x hx t ht := by
    by_cases hki : k = i
    · subst hki
      obtain ⟨rfl, -⟩ := WorkerPc.announcing.inj (by simpa using hk.symm)
      exact fun he => (hb x hx).2.2.1 (he ▸ hi.task_queried t ht)
    · rw [takeBatch_workers, Function.update_noteq hki] at hk
      exact hi.announcing_fresh k b p hk x hx t ht
  batch_nodup k := by
    by_cases hki : k = i
    · subst hki; simpa [WorkerPc.batch] using hn
    · simpa [batch_update_ne _ hki] using hi.batch_nodup k
  batch_disjoint k l hkl x hx hy := by
    have fresh : ∀ m ≠ i, x ∈ batch → x ∈ (s.workers m).batch → False :=
      fun m _ hb' hm => (hb x hb').2.2.2 (hi.batch_inFlight m x hm)
    by_cases hki : k = i
    · subst hki
      rw [takeBatch_workers, batch_update_ne _ (Ne.symm hkl)] at hy
      exact fresh l (Ne.symm hkl) (by simpa [WorkerPc.batch] using hx) hy
    · rw [takeBatch_workers, batch_update_ne _ hki] at hx
      by_cases hli : l = i
      · subst hli; exact fresh k hki (by simpa [WorkerPc.batch] using hy) hx
      · rw [takeBatch_workers, batch_update_ne _ hli] at hy
        exact hi.batch_disjoint k l hkl x hx hy
  batch_inFlight k x hx := by
    by_cases hki : k = i
    · subst hki; exact List.mem_append_left _ (by simpa [WorkerPc.batch] using hx)
    · rw [takeBatch_workers, batch_update_ne _ hki] at hx
      exact List.mem_append_right _ (hi.batch_inFlight k x hx)
  running_batch t ht hr := by
    obtain ⟨b, hb, hx⟩ := hi.running_batch t ht hr
    have hti : t.worker ≠ i := fun he => by rw [he, hw] at hb; cases hb
    exact ⟨b, by rw [takeBatch_workers, Function.update_noteq hti, hb], hx⟩

/-- Launching keeps every worker's batch: `lookingUp b` holds the `b` it announced. -/
theorem batch_launchBatch {i : Nat} {b p : List NodeId} (hw : s.workers i = .announcing b p)
    (m : Nat) : ((s.launchBatch i b).workers m).batch = (s.workers m).batch := by
  by_cases hm : m = i
  · subst hm; simp [hw, WorkerPc.batch]
  · exact batch_update_ne _ hm

/-- Worker `i`, done announcing `b`, starts one `do_lookup` per id of `b`. -/
theorem Inv.launch (hi : Inv u₀ s) {i : Nat} {b : List NodeId}
    (hw : s.workers i = .announcing b []) : Inv u₀ (s.launchBatch i b) where
  unresponsive_mono := hi.unresponsive_mono
  queried_responsive := hi.queried_responsive
  queried_learned := hi.queried_learned
  inFlight_queried := hi.inFlight_queried
  task_queried t ht := by
    rcases List.mem_append.mp ht with ht | ht
    · exact hi.task_queried t ht
    · obtain ⟨x, hx, rfl⟩ := List.mem_map.mp ht
      exact hi.inFlight_queried x (hi.batch_inFlight i x (by rw [hw]; exact hx))
  task_nodup := by
    rw [launchBatch_tasks, List.map_append, List.map_map]
    refine List.nodup_append.mpr ⟨hi.task_nodup, ?_, fun x hx hy => ?_⟩
    · simpa [Function.comp_def] using (hw ▸ hi.batch_nodup i : (WorkerPc.batch _).Nodup)
    · obtain ⟨t, ht, rfl⟩ := List.mem_map.mp hx
      exact hi.announcing_fresh i b [] hw _ (by simpa [Function.comp_def] using hy) t ht rfl
  announcing_fresh k b' p hk x hx t ht := by
    have hki : k ≠ i := fun he => by subst he; simp at hk
    rw [launchBatch_workers, Function.update_noteq hki] at hk
    rcases List.mem_append.mp ht with ht | ht
    · exact hi.announcing_fresh k b' p hk x hx t ht
    · obtain ⟨y, hy, rfl⟩ := List.mem_map.mp ht
      rintro rfl
      exact hi.batch_disjoint k i hki _ (by rw [hk]; exact hx) (by rw [hw]; exact hy)
  batch_nodup k := batch_launchBatch hw k ▸ hi.batch_nodup k
  batch_disjoint k l hkl x hx hy :=
    hi.batch_disjoint k l hkl x (batch_launchBatch hw k ▸ hx) (batch_launchBatch hw l ▸ hy)
  batch_inFlight k x hx := hi.batch_inFlight k x (batch_launchBatch hw k ▸ hx)
  running_batch t ht hr := by
    rcases List.mem_append.mp ht with ht | ht
    · obtain ⟨b', hb, hx⟩ := hi.running_batch t ht hr
      have hti : t.worker ≠ i := fun he => by rw [he, hw] at hb; cases hb
      exact ⟨b', by rw [launchBatch_workers, Function.update_noteq hti, hb], hx⟩
    · obtain ⟨x, hx, rfl⟩ := List.mem_map.mp ht
      exact ⟨b, by simp, hx⟩

/-- Worker `i`, whose `do_lookup`s have all stopped, removes its batch from `in_flight`. -/
theorem Inv.finish (hi : Inv u₀ s) {i : Nat} {b : List NodeId} (hw : s.workers i = .lookingUp b)
    (hd : ∀ t ∈ s.tasks, t.worker = i → ¬ t.Running) :
    Inv u₀ { s.setWorker i .top with inFlight := s.inFlight.filter (· ∉ b) } where
  unresponsive_mono := hi.unresponsive_mono
  queried_responsive := hi.queried_responsive
  queried_learned := hi.queried_learned
  inFlight_queried x hx := hi.inFlight_queried x (List.mem_of_mem_filter hx)
  task_queried := hi.task_queried
  task_nodup := hi.task_nodup
  announcing_fresh k b' p hk := by
    have hki : k ≠ i := fun he => by subst he; simp at hk
    rw [setWorker_workers, Function.update_noteq hki] at hk
    exact hi.announcing_fresh k b' p hk
  batch_nodup k := by
    by_cases hki : k = i
    · subst hki; simp [WorkerPc.batch]
    · simpa [batch_update_ne _ hki] using hi.batch_nodup k
  batch_disjoint k l hkl x hx hy := by
    by_cases hki : k = i
    · subst hki; simp [WorkerPc.batch] at hx
    · by_cases hli : l = i
      · subst hli; simp [WorkerPc.batch] at hy
      · rw [setWorker_workers, batch_update_ne _ hki] at hx
        rw [setWorker_workers, batch_update_ne _ hli] at hy
        exact hi.batch_disjoint k l hkl x hx hy
  batch_inFlight k x hx := by
    by_cases hki : k = i
    · subst hki; simp [WorkerPc.batch] at hx
    · rw [setWorker_workers, batch_update_ne _ hki] at hx
      have hb : x ∉ b := by simpa [hw, WorkerPc.batch] using hi.batch_disjoint k i hki x hx
      exact List.mem_filter.mpr ⟨hi.batch_inFlight k x hx, by simpa using hb⟩
  running_batch t ht hr := by
    obtain ⟨b', hb, hx⟩ := hi.running_batch t ht hr
    have hti : t.worker ≠ i := fun he => hd t ht he hr
    exact ⟨b', by rw [setWorker_workers, Function.update_noteq hti, hb], hx⟩

/-! ### Every reachable state -/

theorem inv_step (hi : Inv u₀ s) {a : Action} (h : step cfg sh s a = some (s', sh')) :
    Inv u₀ s' := by
  cases a with
  | workerRound i =>
    obtain ⟨-, hw, rfl | rfl⟩ := step_workerRound h
    · exact hi.frame ⟨rfl, rfl, rfl, fun _ hx => hx, keepsBatch_update (hw ▸ .wait), rfl,
        fun t h hr => ⟨t, h, hr, rfl, rfl⟩, id⟩
    · refine hi.take hw (fun x hx => ?_) nodup_getUnqueriedNodeIds
      obtain ⟨hc, hq, hf⟩ := mem_getUnqueriedNodeIds hx
      exact ⟨(mem_closestResponsive hc).1, (mem_closestResponsive hc).2, hq, hf⟩
  | workerAnnounce i =>
    obtain ⟨-, -, b, x, rest, hw, rfl⟩ := step_workerAnnounce h
    exact hi.frame (frame_announce hw)
  | workerLaunch i =>
    obtain ⟨-, b, hw, rfl⟩ := step_workerLaunch h
    exact hi.launch hw
  | workerFinish i =>
    obtain ⟨-, b, hw, hd, rfl⟩ := step_workerFinish h
    exact (hi.finish hw hd).frame (frame_notifyAll _)
  | respond j reply =>
    obtain ⟨t, hj, hc, rfl, -⟩ := step_respond h
    exact hi.frame (frame_respond hj (running_of_pc hc nofun nofun) reply)
  | merge j =>
    obtain ⟨-, t, found, hj, hpc, rfl⟩ := step_merge h
    exact hi.frame (frame_setTask hj (running_of_pc hpc nofun nofun) (fun _ hx => hx)
      rfl rfl rfl rfl rfl rfl)
  | send j =>
    obtain ⟨-, t, e, rest, hj, hpc, rfl⟩ := step_send h
    exact hi.frame (frame_sendNext hj (running_of_pc hpc nofun nofun) e rest)
  | cancel j =>
    obtain ⟨-, t, hj, hr, rfl⟩ := step_cancel h
    exact hi.frame (frame_cancelTask hj hr)
  | monitorCheck =>
    obtain ⟨-, rfl⟩ := step_monitorCheck h
    unfold checkDone; split_ifs <;> exact { hi with }
  | monitorTimeout => obtain ⟨-, rfl⟩ := step_monitorTimeout h; exact { hi with }
  | closeReceiver => obtain ⟨-, rfl⟩ := step_closeReceiver h; exact { hi with }

theorem inv_reachable {cache : List (NodeId × Int)} {now : Int} {sh₀ : Shared}
    {p : State × Shared} (h : Reachable cfg cache now sh₀ p) :
    Inv (init cfg cache now).unresponsiveNodeIds p.1 := by
  induction h with
  | refl => exact inv_init cfg cache now
  | tail _ hs ih =>
    cases hs with
    | act a h => exact inv_step ih h
    | env _ => exact ih

/-- A lookup queries neither the local node nor one unresponsive in the 300 seconds before it. -/
theorem Inv.queried_fresh {cache : List (NodeId × Int)} {now : Int}
    (hi : Inv (init cfg cache now).unresponsiveNodeIds s) :
    ∀ x ∈ s.queriedNodeIds, x ≠ cfg.localNodeId ∧ ∀ p ∈ cache, now - p.2 < 300 → x ≠ p.1 := by
  intro x hx
  have hu := hi.queried_responsive x hx
  simp only [init, List.mem_cons, List.mem_map, List.mem_filter, decide_eq_true_eq, not_or,
    not_exists, not_and] at hu
  exact ⟨hu.1, fun p hp hn he => hu.2 p ⟨hp, hn⟩ he.symm⟩

/-- The `do_lookup`s are for distinct learned ids, so there are no more of them than ids learned. -/
theorem Inv.tasks_length_le {u₀ : List NodeId} (hi : Inv u₀ s) :
    s.tasks.length ≤ s.learned.dedup.length := by
  have hsub : s.tasks.map (·.nodeId) ⊆ s.learned.dedup := fun x hx => by
    obtain ⟨t, ht, rfl⟩ := List.mem_map.mp hx
    exact List.mem_dedup.mpr (hi.queried_learned _ (hi.task_queried t ht))
  simpa using (List.subperm_of_subset hi.task_nodup hsub).length_le

/-- Every reachable state of a lookup: no node id goes to two `do_lookup`s, the next batch is
fresh, the local and recently unresponsive nodes are never queried, `in_flight` lies inside
`queried_node_ids`, and there are no more `do_lookup`s than distinct learned ids. -/
theorem lookup_queries_each_node_once {cache : List (NodeId × Int)} {now : Int} {sh₀ : Shared}
    (hr : Reachable cfg cache now sh₀ (s, sh)) :
    (s.tasks.map (·.nodeId)).Nodup ∧
      (∀ nodes, (getUnqueriedNodeIds cfg s nodes).Nodup ∧
        ∀ x ∈ getUnqueriedNodeIds cfg s nodes, x ∉ s.queriedNodeIds ∧ x ∉ s.inFlight) ∧
      (∀ x ∈ s.queriedNodeIds, x ≠ cfg.localNodeId ∧ ∀ p ∈ cache, now - p.2 < 300 → x ≠ p.1) ∧
      (∀ x ∈ s.inFlight, x ∈ s.queriedNodeIds) ∧
      s.tasks.length ≤ s.learned.dedup.length := by
  have hi : Inv _ s := inv_reachable hr
  exact ⟨hi.task_nodup, fun _ => ⟨nodup_getUnqueriedNodeIds, fun x hx => (mem_getUnqueriedNodeIds hx).2⟩,
    hi.queried_fresh, hi.inFlight_queried, hi.tasks_length_le⟩

/-- A lookup for `0x10` from `0x00` with one worker and buckets of 16. -/
def soloLookup : Config := ⟨16#256, 0#256, 16, 1⟩

/-- The node knows `0x14` and `0x18`, and their ENRs. -/
def twoPeers : Shared :=
  ⟨[20#256, 24#256], ⟨[⟨20#256, 1, []⟩, ⟨24#256, 1, []⟩]⟩, [], 0⟩

/-- Round one takes `0x14` and `0x18`: `0x18` answers `0x12` twice, both sent; `0x14` answers
`0x11`, recorded, and is cancelled before sending it. Round two takes `0x11` and `0x12`, both
time out, and `_monitor_done` ends the lookup. -/
def dropAndRepeat : List Action :=
  [.monitorCheck, .workerRound 0, .workerAnnounce 0, .workerAnnounce 0, .workerLaunch 0,
   .respond 1 (.ok [[⟨18#256, 1, []⟩, ⟨18#256, 2, []⟩]]), .merge 1, .send 1, .send 1,
   .respond 0 (.ok [[⟨17#256, 1, []⟩]]), .merge 0, .cancel 0, .workerFinish 0,
   .workerRound 0, .workerAnnounce 0, .workerAnnounce 0, .workerLaunch 0,
   .respond 2 (.error .tooSlow), .respond 3 (.error .tooSlow), .workerFinish 0, .monitorCheck]

/-- The lookup `dropAndRepeat` runs, before `_monitor_done`'s last check: both rounds are over,
with four ids queried and nothing in flight. -/
def settledLookup : State × Shared :=
  (run soloLookup (init soloLookup [] 0, twoPeers) dropAndRepeat.dropLast).getD
    (init soloLookup [] 0, twoPeers)

theorem settledLookup_reachable :
    Reachable soloLookup [] 0 twoPeers (settledLookup.1, settledLookup.2) :=
  run_reachable .refl (rfl : run soloLookup (init soloLookup [] 0, twoPeers)
    dropAndRepeat.dropLast = some settledLookup)

theorem lookup_queries_each_node_once_after_two_rounds :
    Reachable soloLookup [] 0 twoPeers (settledLookup.1, settledLookup.2) ∧
      settledLookup.1.queriedNodeIds = [17#256, 18#256, 20#256, 24#256] ∧
      (settledLookup.1.tasks.map (·.nodeId)).Nodup ∧
      (∀ nodes, (getUnqueriedNodeIds soloLookup settledLookup.1 nodes).Nodup ∧
        ∀ x ∈ getUnqueriedNodeIds soloLookup settledLookup.1 nodes,
          x ∉ settledLookup.1.queriedNodeIds ∧ x ∉ settledLookup.1.inFlight) ∧
      (∀ x ∈ settledLookup.1.queriedNodeIds, x ≠ soloLookup.localNodeId ∧
        ∀ p ∈ ([] : List (NodeId × Int)), 0 - p.2 < 300 → x ≠ p.1) ∧
      (∀ x ∈ settledLookup.1.inFlight, x ∈ settledLookup.1.queriedNodeIds) ∧
      settledLookup.1.tasks.length ≤ settledLookup.1.learned.dedup.length :=
  ⟨settledLookup_reachable, by decide, lookup_queries_each_node_once settledLookup_reachable⟩

/-- `_monitor_done` leaves its loop only by its own check, when `get_unqueried_node_ids` is
empty and nothing is in flight, and it closes the channel. -/
theorem step_monitor_done {a : Action} (h : step cfg sh s a = some (s', sh'))
    (hm : s.monitor ≠ .done) (hm' : s'.monitor = .done) :
    getUnqueriedNodeIds cfg s sh.nodes = [] ∧ s.inFlight = [] ∧ s'.channel ≠ .open := by
  have frame : Frame s s' → False := fun hf => hm (hf.monitor_done hm')
  cases a with
  | workerRound i =>
    obtain ⟨-, -, rfl | rfl⟩ := step_workerRound h <;> exact absurd hm' hm
  | workerAnnounce i =>
    obtain ⟨-, -, b, x, rest, hw, rfl⟩ := step_workerAnnounce h
    exact (frame (frame_announce hw)).elim
  | workerLaunch i => obtain ⟨-, b, -, rfl⟩ := step_workerLaunch h; exact absurd hm' hm
  | workerFinish i =>
    obtain ⟨-, b, -, -, rfl⟩ := step_workerFinish h
    exact absurd ((frame_notifyAll _).monitor_done hm') hm
  | respond j reply =>
    obtain ⟨t, hj, hc, rfl, -⟩ := step_respond h
    exact (frame (frame_respond hj (running_of_pc hc nofun nofun) reply)).elim
  | merge j => obtain ⟨-, t, found, -, -, rfl⟩ := step_merge h; exact absurd hm' hm
  | send j =>
    obtain ⟨-, t, e, rest, hj, hpc, rfl⟩ := step_send h
    exact (frame (frame_sendNext hj (running_of_pc hpc nofun nofun) e rest)).elim
  | cancel j => obtain ⟨-, t, -, -, rfl⟩ := step_cancel h; exact absurd hm' hm
  | monitorCheck =>
    obtain ⟨-, rfl⟩ := step_monitorCheck h
    unfold checkDone at hm' ⊢
    split_ifs at hm' ⊢ with hd hc
    · exact ⟨hd.1, hd.2, nofun⟩
    · exact ⟨hd.1, hd.2, hc⟩
  | monitorTimeout => obtain ⟨-, rfl⟩ := step_monitorTimeout h; cases hm'
  | closeReceiver => obtain ⟨-, rfl⟩ := step_closeReceiver h; exact absurd hm' hm

/-- `_monitor_done` closes the ENR channel only when nothing is in flight, no `do_lookup` runs,
and each of the `bucket_size` closest responsive known ids is queried. -/
theorem monitor_exits_only_when_settled {cache : List (NodeId × Int)} {now : Int}
    {sh₀ : Shared} (hr : Reachable cfg cache now sh₀ (s, sh)) {a : Action}
    (h : step cfg sh s a = some (s', sh')) (hm : s.monitor ≠ .done) (hm' : s'.monitor = .done) :
    s'.channel ≠ .open ∧ s.inFlight = [] ∧ (∀ t ∈ s.tasks, ¬ t.Running) ∧
      ∀ x ∈ closestResponsive cfg s sh.nodes, x ∈ s.queriedNodeIds := by
  obtain ⟨hu, hf, hc⟩ := step_monitor_done h hm hm'
  have hi : Inv _ s := inv_reachable hr
  refine ⟨hc, hf, fun t ht hrun => ?_, fun x hx => ?_⟩
  · obtain ⟨b, hb, hx⟩ := hi.running_batch t ht hrun
    have := hi.batch_inFlight t.worker t.nodeId (by simpa [hb, WorkerPc.batch] using hx)
    simp [hf] at this
  · simpa [hf] using getUnqueriedNodeIds_eq_nil hu hx

theorem monitor_exits_only_when_settled_after_two_rounds :
    Reachable soloLookup [] 0 twoPeers (settledLookup.1, settledLookup.2) ∧
      settledLookup.1.queriedNodeIds = [17#256, 18#256, 20#256, 24#256] ∧
      step soloLookup settledLookup.2 settledLookup.1 .monitorCheck =
        some ({ settledLookup.1 with monitor := .done, channel := .closed }, settledLookup.2) ∧
      settledLookup.1.monitor ≠ .done ∧
      ({ settledLookup.1 with monitor := .done, channel := .closed } : State).monitor = .done ∧
      ChannelState.closed ≠ .open ∧ settledLookup.1.inFlight = [] ∧
      (∀ t ∈ settledLookup.1.tasks, ¬ t.Running) ∧
      ∀ x ∈ closestResponsive soloLookup settledLookup.1 settledLookup.2.nodes,
        x ∈ settledLookup.1.queriedNodeIds :=
  have hstep : step soloLookup settledLookup.2 settledLookup.1 .monitorCheck =
      some ({ settledLookup.1 with monitor := .done, channel := .closed }, settledLookup.2) := rfl
  ⟨settledLookup_reachable, by decide, hstep, by decide, rfl,
    monitor_exits_only_when_settled settledLookup_reachable hstep (by decide) rfl⟩

end Lookup

end Ddht
