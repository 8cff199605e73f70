import Ddht.Lookup.Delivery

/-!
# What a lookup reads from the ENR database

`Stored db s`: every id the worker's routing-table loop may still read has a record, so that
read raises no `KeyError`. It holds while the routing table's ids have records.
-/

namespace Ddht

namespace Lookup

variable {cfg : Config} {s s' : State} {sh sh' : Shared} {db db' : EnrDb}

/-- Everything the lookup may read from `db` is there. -/
structure Stored (db : EnrDb) (s : State) : Prop where
  received : ∀ x ∈ s.receivedNodeIds, db.Has x
  found : ∀ t ∈ s.tasks, ∀ found, t.pc = .acquiring found → ∀ e ∈ found, db.Has e.nodeId
  pending : ∀ i b p, s.workers i = .announcing b p → ∀ x ∈ p, db.Has x

theorem stored_init (db : EnrDb) (cfg : Config) (cache : List (NodeId × Int)) (now : Int) :
    Stored db (init cfg cache now) :=
  ⟨nofun, nofun, fun _ _ _ h => by cases h⟩

theorem Stored.mono (hs : Stored db s) (h : ∀ x, db.Has x → db'.Has x) : Stored db' s :=
  ⟨fun x hx => h x (hs.received x hx), fun t ht f hf e he => h _ (hs.found t ht f hf e he),
    fun i b p hw x hx => h x (hs.pending i b p hw x hx)⟩

theorem announcing_of_update {f : Nat → WorkerPc} {i k : Nat} {w : WorkerPc}
    {b p : List NodeId} (h : Function.update f i w k = .announcing b p) :
    (k = i ∧ w = .announcing b p) ∨ f k = .announcing b p := by
  by_cases hk : k = i
  · subst hk; exact .inl ⟨rfl, by simpa using h⟩
  · exact .inr (by simpa [Function.update_noteq hk] using h)

/-- Worker `i` moves to `w`, whose ids left to announce, if any, have records. -/
theorem Stored.setWorker (hs : Stored db s) {i : Nat} {w : WorkerPc}
    (hw : ∀ b p, w = .announcing b p → ∀ x ∈ p, db.Has x)
    (hws : s'.workers = Function.update s.workers i w) (ht : s'.tasks = s.tasks)
    (hrcv : ∀ x ∈ s'.receivedNodeIds, x ∈ s.receivedNodeIds ∨ db.Has x) : Stored db s' where
  received x hx := (hrcv x hx).elim (hs.received x) id
  found := ht ▸ hs.found
  pending k b p hk := by
    rcases announcing_of_update (hws ▸ hk) with ⟨-, hw'⟩ | hk
    · exact hw b p hw'
    · exact hs.pending k b p hk

/-- Task `j` moves to `pc`, which holds no ENRs to merge but stored ones. -/
theorem Stored.setTask (hs : Stored db s) {j : Nat} {t : Task} {pc : TaskPc}
    (hrcv : ∀ x ∈ s'.receivedNodeIds, x ∈ s.receivedNodeIds ∨ db.Has x)
    (hw : s'.workers = s.workers) (ht : s'.tasks = s.tasks.set j { t with pc := pc })
    (hpc : ∀ found, pc = .acquiring found → ∀ e ∈ found, db.Has e.nodeId) : Stored db s' where
  received x hx := (hrcv x hx).elim (hs.received x) id
  found u hu f hf e he := by
    rcases List.mem_or_eq_of_mem_set (ht ▸ hu) with hu | rfl
    · exact hs.found u hu f hf e he
    · exact hpc f hf e he
  pending i b p hk := hs.pending i b p (hw ▸ hk)

theorem stored_announce (hs : Stored sh.enrDb s) {i : Nat} {b rest : List NodeId} {x : NodeId}
    (hw : s.workers i = .announcing b (x :: rest)) : Stored sh.enrDb (announce sh s i b rest x) := by
  have hb : ∀ b' p, WorkerPc.announcing b rest = .announcing b' p → ∀ y ∈ p, sh.enrDb.Has y :=
    fun b' p h y hy => by cases h; exact hs.pending i b _ hw y (.tail _ hy)
  unfold announce
  split_ifs
  · exact hs.setWorker hb rfl rfl fun _ hx => .inl hx
  · split
    · exact ⟨hs.received, hs.found, hs.pending⟩
    · rename_i enr hget
      have hx : sh.enrDb.Has x := EnrDb.has_of_getEnr hget
      have hrcv : ∀ y ∈ x :: s.receivedNodeIds, y ∈ s.receivedNodeIds ∨ sh.enrDb.Has y :=
        fun y hy => (List.mem_cons.mp hy).elim (fun h => .inr (h ▸ hx)) .inl
      split
      · exact hs.setWorker hb rfl rfl hrcv
      · exact hs.setWorker (fun _ _ h => by cases h) rfl rfl hrcv

/-- The worker's routing-table loop raises no `KeyError` while the ids left are stored. -/
theorem announce_raised (hs : Stored sh.enrDb s) {i : Nat} {b rest : List NodeId} {x : NodeId}
    (hw : s.workers i = .announcing b (x :: rest)) : (announce sh s i b rest x).raised = s.raised := by
  unfold announce
  split_ifs
  · rfl
  · split
    · rename_i hget
      have := hs.pending i b _ hw x (.head _)
      simp [EnrDb.Has, hget] at this
    · split <;> rfl

theorem stored_respond (hs : Stored sh.enrDb s) {j : Nat} {t : Task}
    (reply : Except NetError (List (List Enr))) :
    Stored (respond cfg sh s j t reply).2.enrDb (respond cfg sh s j t reply).1 := by
  unfold respond
  split
  · rename_i found _
    have grow : ∀ x, sh.enrDb.Has x → (found.foldl EnrDb.store sh.enrDb).Has x :=
      fun x hx => EnrDb.has_foldl_store.mpr (.inr hx)
    refine (hs.mono grow).setTask (fun x hx => .inl hx) rfl rfl fun f hf e he => ?_
    cases hf
    exact EnrDb.has_foldl_store.mpr (.inl ⟨e, he, rfl⟩)
  · split_ifs
    · exact hs.setTask (fun x hx => .inl hx) rfl rfl nofun
    · exact ⟨hs.received, hs.found, hs.pending⟩

/-- A merge records only ids whose ENRs the `do_lookup` stored. -/
theorem stored_mergeFound (hs : Stored db s) {j : Nat} {t : Task} {found : List Enr}
    (hj : s.tasks[j]? = some t) (hpc : t.pc = .acquiring found) :
    Stored db (s.mergeFound j t found) := by
  have hf := hs.found t (List.getElem?_mem hj) found hpc
  refine hs.setTask (fun x hx => ?_) rfl rfl fun f hf' => absurd hf' (afterSend_ne_acquiring _ f)
  rcases List.mem_append.mp hx with hx | hx
  · obtain ⟨e, he, rfl⟩ := List.mem_map.mp hx
    exact .inr (hf e (List.mem_of_mem_filter he))
  · exact .inl hx

/-- Answer handling keeps the routing table's ids and the clock, and only adds records. -/
theorem respond_shared {j : Nat} {t : Task} (reply : Except NetError (List (List Enr))) :
    (respond cfg sh s j t reply).2.nodes = sh.nodes ∧ (respond cfg sh s j t reply).2.now = sh.now ∧
      ∀ x, sh.enrDb.Has x → (respond cfg sh s j t reply).2.enrDb.Has x := by
  unfold respond
  split
  · exact ⟨rfl, rfl, fun x hx => EnrDb.has_foldl_store.mpr (.inr hx)⟩
  · split_ifs
    · exact ⟨rfl, rfl, fun _ hx => hx⟩
    · exact ⟨rfl, rfl, fun _ hx => hx⟩

/-- A lookup step keeps the routing table's ids and the clock, and only adds records. -/
theorem step_shared_grows {a : Action} (h : step cfg sh s a = some (s', sh')) :
    sh'.nodes = sh.nodes ∧ sh'.now = sh.now ∧ ∀ x, sh.enrDb.Has x → sh'.enrDb.Has x := by
  rcases step_shared h with rfl | ⟨j, t, reply, rfl⟩
  · exact ⟨rfl, rfl, fun _ hx => hx⟩
  · exact respond_shared reply

/-- A lookup step drops no record and takes none back to an older sequence number. -/
theorem step_newer {a : Action} (h : step cfg sh s a = some (s', sh')) :
    sh.enrDb.Newer sh'.enrDb := by
  rcases step_shared h with rfl | ⟨j, t, reply, rfl⟩
  · exact .refl _
  · unfold respond
    split
    · exact EnrDb.newer_foldl_store _ _
    · split_ifs <;> exact .refl _

/-- Every step keeps what the lookup may read in the database, when table ids have records. -/
theorem stored_step (hn : ∀ x ∈ sh.nodes, sh.enrDb.Has x) (hs : Stored sh.enrDb s) {a : Action}
    (h : step cfg sh s a = some (s', sh')) : Stored sh'.enrDb s' := by
  cases a with
  | workerRound i =>
    obtain ⟨rfl, -, rfl | rfl⟩ := step_workerRound h
    · exact hs.setWorker (fun _ _ h => by cases h) rfl rfl fun _ hx => .inl hx
    · refine hs.setWorker (fun b p hb x hx => ?_) rfl rfl fun _ hx => .inl hx
      cases hb
      have hc := (mem_closestResponsive (mem_getUnqueriedNodeIds hx).1).1
      rcases mem_iterClosestNodes.mp hc with hc | hc
      exacts [hn x hc, hs.received x hc]
  | workerAnnounce i =>
    obtain ⟨rfl, -, b, x, rest, hw, rfl⟩ := step_workerAnnounce h
    exact stored_announce hs hw
  | workerLaunch i =>
    obtain ⟨rfl, b, -, rfl⟩ := step_workerLaunch h
    refine ⟨hs.received, fun u hu f hf => ?_, fun k b' p hk => ?_⟩
    · rcases List.mem_append.mp hu with hu | hu
      · exact hs.found u hu f hf
      · obtain ⟨x, -, rfl⟩ := List.mem_map.mp hu; cases hf
    · rcases announcing_of_update hk with ⟨-, hw⟩ | hk
      · cases hw
      · exact hs.pending k b' p hk
  | workerFinish i =>
    obtain ⟨rfl, b, -, -, rfl⟩ := step_workerFinish h
    refine ⟨hs.received, hs.found, fun k b' p hk => ?_⟩
    simp only [State.finishBatch, notifyAll] at hk
    split_ifs at hk
    rcases announcing_of_update hk with ⟨-, hw⟩ | hk
    · cases hw
    · exact hs.pending k b' p hk
  | respond j reply =>
    obtain ⟨t, -, -, rfl, rfl⟩ := step_respond h
    exact stored_respond hs reply
  | merge j =>
    obtain ⟨rfl, t, found, hj, hpc, rfl⟩ := step_merge h
    exact stored_mergeFound hs hj hpc
  | send j =>
    obtain ⟨rfl, t, e, rest, -, -, rfl⟩ := step_send h
    unfold State.sendNext
    split
    · exact hs.setTask (fun x hx => .inl hx) rfl rfl fun f hf => absurd hf (afterSend_ne_acquiring _ f)
    · exact hs.setTask (fun x hx => .inl hx) rfl rfl nofun
  | cancel j =>
    obtain ⟨rfl, t, -, -, rfl⟩ := step_cancel h
    exact hs.setTask (fun x hx => .inl hx) rfl rfl nofun
  | monitorCheck =>
    obtain ⟨rfl, rfl⟩ := step_monitorCheck h
    unfold checkDone; split_ifs <;> exact ⟨hs.received, hs.found, hs.pending⟩
  | monitorTimeout =>
    obtain ⟨rfl, rfl⟩ := step_monitorTimeout h; exact ⟨hs.received, hs.found, hs.pending⟩
  | closeReceiver =>
    obtain ⟨rfl, rfl⟩ := step_closeReceiver h; exact ⟨hs.received, hs.found, hs.pending⟩

end Lookup

end Ddht
