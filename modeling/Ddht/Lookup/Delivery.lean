import Ddht.Lookup.Safety

/-!
# What a lookup puts on the channel

Every ENR sent is recorded in `received_node_ids` first (`Recorded`). The converse fails: a
response naming a node twice sends it twice, and a `do_lookup` cancelled after its merge leaves
recorded ids unsent. Without repeated names, each node's ENR is sent at most once.
-/

namespace Ddht

namespace Lookup

variable {cfg : Config} {s s' : State} {sh sh' : Shared}

/-- Every ENR on the channel, or still to be sent by a `do_lookup`, has a recorded node id. -/
structure Recorded (s : State) : Prop where
  delivered : ∀ e ∈ s.delivered, e.nodeId ∈ s.receivedNodeIds
  pending : ∀ t ∈ s.tasks, ∀ p, t.pc = .sending p → ∀ e ∈ p, e.nodeId ∈ s.receivedNodeIds

theorem afterSend_eq_sending {l p : List Enr} (h : afterSend l = .sending p) : p = l := by
  unfold afterSend at h; split at h <;> cases h; rfl

/-- After a send the task sends on or returns; it never waits for a merge again. -/
theorem afterSend_ne_acquiring (l found : List Enr) : afterSend l ≠ .acquiring found := by
  unfold afterSend; split <;> nofun

theorem recorded_init (cfg : Config) (cache : List (NodeId × Int)) (now : Int) :
    Recorded (init cfg cache now) :=
  ⟨nofun, nofun⟩

/-- Task `j` moves to `pc`, the recorded ids only grow, and what is newly sent is recorded. -/
theorem Recorded.setTask (hr : Recorded s) {j : Nat} {t : Task} {pc : TaskPc}
    (hrcv : ∀ x ∈ s.receivedNodeIds, x ∈ s'.receivedNodeIds)
    (hdel : ∀ e ∈ s'.delivered, e ∈ s.delivered ∨ e.nodeId ∈ s'.receivedNodeIds)
    (ht : s'.tasks = s.tasks.set j { t with pc := pc })
    (hpc : ∀ p, pc = .sending p → ∀ e ∈ p, e.nodeId ∈ s'.receivedNodeIds) : Recorded s' where
  delivered e he := (hdel e he).elim (fun he => hrcv _ (hr.delivered e he)) id
  pending u hu p hp e he := by
    rcases List.mem_or_eq_of_mem_set (ht ▸ hu) with hu | rfl
    · exact hrcv _ (hr.pending u hu p hp e he)
    · exact hpc p hp e he

theorem recorded_announce (hr : Recorded s) {sh : Shared} {i : Nat} {b rest : List NodeId}
    {x : NodeId} : Recorded (announce sh s i b rest x) := by
  unfold announce
  split_ifs
  · exact ⟨hr.delivered, hr.pending⟩
  · split
    · exact ⟨hr.delivered, hr.pending⟩
    · rename_i enr hget
      have hx : enr.nodeId = x := EnrDb.getEnr_nodeId hget
      split
      · refine ⟨fun e he => ?_, fun u hu p hp e he => .tail _ (hr.pending u hu p hp e he)⟩
        rcases List.mem_append.mp he with he | he
        · exact .tail _ (hr.delivered e he)
        · rw [List.mem_singleton.mp he, hx]; exact .head _
      · exact ⟨fun e he => .tail _ (hr.delivered e he),
          fun u hu p hp e he => .tail _ (hr.pending u hu p hp e he)⟩

theorem recorded_respond (hr : Recorded s) {cfg : Config} {sh : Shared} {j : Nat} {t : Task}
    (reply : Except NetError (List (List Enr))) : Recorded (respond cfg sh s j t reply).1 := by
  unfold respond
  split
  · exact hr.setTask (fun _ hx => hx) (fun e he => .inl he) rfl nofun
  · split_ifs
    · exact hr.setTask (fun _ hx => hx) (fun e he => .inl he) rfl nofun
    · exact ⟨hr.delivered, hr.pending⟩

/-- What a merge records covers what it keeps to send. -/
theorem recorded_mergeFound (hr : Recorded s) {j : Nat} {t : Task} (found : List Enr) :
    Recorded (s.mergeFound j t found) := by
  refine hr.setTask (fun _ hx => List.mem_append_right _ hx) (fun e he => .inl he) rfl ?_
  intro p hp e he
  exact List.mem_append_left _ (List.mem_map_of_mem _ (afterSend_eq_sending hp ▸ he))

/-- A send moves a recorded ENR from the task's pending list to the channel. -/
theorem recorded_sendNext (hr : Recorded s) {j : Nat} {t : Task} {e : Enr} {rest : List Enr}
    (hj : s.tasks[j]? = some t) (hpc : t.pc = .sending (e :: rest)) :
    Recorded (s.sendNext j t e rest) := by
  have hsent := hr.pending t (List.getElem?_mem hj) _ hpc
  unfold State.sendNext
  split
  · refine hr.setTask (fun _ hx => hx) (fun e' he' => ?_) rfl ?_
    · rcases List.mem_append.mp he' with he' | he'
      · exact .inl he'
      · exact .inr (List.mem_singleton.mp he' ▸ hsent e (.head _))
    · intro p hp e' he'
      exact hsent e' (.tail _ (afterSend_eq_sending hp ▸ he'))
  · exact hr.setTask (fun _ hx => hx) (fun e he => .inl he) rfl nofun

/-- Every step keeps the sent and pending ENRs recorded. -/
theorem recorded_step (hr : Recorded s) {a : Action} (h : step cfg sh s a = some (s', sh')) :
    Recorded s' := by
  cases a with
  | workerRound i =>
    obtain ⟨-, -, rfl | rfl⟩ := step_workerRound h <;> exact ⟨hr.delivered, hr.pending⟩
  | workerAnnounce i =>
    obtain ⟨-, -, b, x, rest, -, rfl⟩ := step_workerAnnounce h
    exact recorded_announce hr
  | workerLaunch i =>
    obtain ⟨-, b, -, rfl⟩ := step_workerLaunch h
    refine ⟨hr.delivered, fun u hu p hp => ?_⟩
    rcases List.mem_append.mp hu with hu | hu
    · exact hr.pending u hu p hp
    · obtain ⟨x, -, rfl⟩ := List.mem_map.mp hu; cases hp
  | workerFinish i =>
    obtain ⟨-, b, -, -, rfl⟩ := step_workerFinish h
    exact ⟨hr.delivered, hr.pending⟩
  | respond j reply =>
    obtain ⟨t, -, -, rfl, -⟩ := step_respond h
    exact recorded_respond hr reply
  | merge j =>
    obtain ⟨-, t, found, -, -, rfl⟩ := step_merge h
    exact recorded_mergeFound hr found
  | send j =>
    obtain ⟨-, t, e, rest, hj, hpc, rfl⟩ := step_send h
    exact recorded_sendNext hr hj hpc
  | cancel j =>
    obtain ⟨-, t, -, -, rfl⟩ := step_cancel h
    exact hr.setTask (fun _ hx => hx) (fun e he => .inl he) rfl nofun
  | monitorCheck =>
    obtain ⟨-, rfl⟩ := step_monitorCheck h
    unfold checkDone; split_ifs <;> exact ⟨hr.delivered, hr.pending⟩
  | monitorTimeout => obtain ⟨-, rfl⟩ := step_monitorTimeout h; exact ⟨hr.delivered, hr.pending⟩
  | closeReceiver => obtain ⟨-, rfl⟩ := step_closeReceiver h; exact ⟨hr.delivered, hr.pending⟩

/-- Every ENR a lookup has put on the channel belongs to a node id in `received_node_ids`. -/
theorem delivered_recorded {cache : List (NodeId × Int)} {now : Int} {sh₀ : Shared}
    {p : State × Shared} (h : Reachable cfg cache now sh₀ p) :
    ∀ e ∈ p.1.delivered, e.nodeId ∈ p.1.receivedNodeIds := by
  suffices Recorded p.1 from this.delivered
  induction h with
  | refl => exact recorded_init cfg cache now
  | tail _ hs ih =>
    cases hs with
    | act a h => exact recorded_step ih h
    | env _ => exact ih

theorem delivered_recorded_after_two_rounds :
    Reachable soloLookup [] 0 twoPeers (settledLookup.1, settledLookup.2) ∧
      settledLookup.1.delivered.map (·.nodeId) = [20#256, 24#256, 18#256, 18#256] ∧
      ∀ e ∈ settledLookup.1.delivered, e.nodeId ∈ settledLookup.1.receivedNodeIds :=
  ⟨settledLookup_reachable, by decide, delivered_recorded settledLookup_reachable⟩

/-! ### Each node at most once when no reply names a node twice -/

/-- The ENRs a `do_lookup` still has to send. -/
def TaskPc.pending : TaskPc → List Enr
  | .sending p => p
  | _ => []

/-- The node ids of the ENRs on the channel and of those the `do_lookup`s still have to send. -/
def State.outgoing (s : State) : List NodeId :=
  s.delivered.map (·.nodeId) ++ s.tasks.flatMap fun t => t.pc.pending.map (·.nodeId)

/-- The FoundNodes replies an action hands to `do_lookup` name no node twice. -/
def Action.RepliesDistinct : Action → Prop
  | .respond _ (.ok rs) => (rs.flatten.map (·.nodeId)).Nodup
  | _ => True

/-- The states a lookup reaches when no peer's FoundNodes replies name a node twice. -/
def ReachableDistinct (cfg : Config) (cache : List (NodeId × Int)) (now : Int) (sh₀ : Shared) :
    State × Shared → Prop :=
  Relation.ReflTransGen
    (fun p q => (∃ a, a.RepliesDistinct ∧ step cfg p.2 p.1 a = some q) ∨ q.1 = p.1)
    (init cfg cache now, sh₀)

/-- No node id is on the channel twice, or on it and still to be sent, or still to be sent
twice; and every list of found ENRs waiting for the merge names each node once. -/
structure SentOnce (s : State) : Prop where
  outgoing : s.outgoing.Nodup
  found : ∀ t ∈ s.tasks, ∀ found, t.pc = .acquiring found → (found.map (·.nodeId)).Nodup

@[simp] theorem TaskPc.pending_sending (p : List Enr) : (TaskPc.sending p).pending = p := rfl

theorem pending_afterSend (l : List Enr) : (afterSend l).pending = l := by
  cases l <;> rfl

theorem TaskPc.mem_pending {pc : TaskPc} {e : Enr} (h : e ∈ pc.pending) :
    ∃ p, pc = .sending p ∧ e ∈ p := by
  cases pc <;> first | exact ⟨_, rfl, h⟩ | cases h

/-- Replacing one task moves its part of a `flatMap` and nothing else. -/
theorem flatMap_set_perm {f : Task → List NodeId} (u : Task) :
    ∀ {l : List Task} {j : Nat} {t : Task}, l[j]? = some t →
      ((l.set j u).flatMap f ++ f t).Perm (l.flatMap f ++ f u)
  | [], _, _, h => by cases h
  | x :: xs, 0, t, h => by
    obtain rfl : x = t := by simpa using h
    rw [List.perm_iff_count]; intro a
    simp only [List.set_cons_zero, List.flatMap_cons, List.count_append]; omega
  | x :: xs, j + 1, t, h => by
    simp only [List.set_cons_succ, List.flatMap_cons, List.append_assoc]
    exact (flatMap_set_perm (f := f) u (by simpa using h)).append_left (f x)

/-- What is sent or still to be sent is recorded. -/
theorem Recorded.outgoing (hr : Recorded s) : ∀ x ∈ s.outgoing, x ∈ s.receivedNodeIds := by
  intro x hx
  rcases List.mem_append.mp hx with hx | hx
  · obtain ⟨e, he, rfl⟩ := List.mem_map.mp hx
    exact hr.delivered e he
  · obtain ⟨t, ht, hx⟩ := List.mem_flatMap.mp hx
    obtain ⟨e, he, rfl⟩ := List.mem_map.mp hx
    obtain ⟨p, hpc, he⟩ := TaskPc.mem_pending he
    exact hr.pending t ht p hpc e he

/-- Task `j` moves to `pc`, the channel unchanged: what `pc` leaves to send must be new. -/
theorem SentOnce.setTask (ho : SentOnce s) {j : Nat} {t : Task} {pc : TaskPc}
    (hj : s.tasks[j]? = some t) (ht : s'.tasks = s.tasks.set j { t with pc := pc })
    (hd : s'.delivered = s.delivered) (hnd : (s.outgoing ++ pc.pending.map (·.nodeId)).Nodup)
    (hf : ∀ found, pc = .acquiring found → (found.map (·.nodeId)).Nodup) : SentOnce s' where
  outgoing := by
    have hp := flatMap_set_perm (f := fun t => t.pc.pending.map (·.nodeId)) { t with pc := pc } hj
    have : (s'.outgoing ++ t.pc.pending.map (·.nodeId)).Perm
        (s.outgoing ++ pc.pending.map (·.nodeId)) := by
      unfold State.outgoing
      rw [ht, hd, List.append_assoc, List.append_assoc]
      exact hp.append_left _
    exact (List.nodup_append.mp (this.nodup_iff.mpr hnd)).1
  found u hu found hpc := by
    rcases List.mem_or_eq_of_mem_set (ht ▸ hu) with hu | rfl
    · exact ho.found u hu found hpc
    · exact hf found hpc

/-- A task that ends, or waits for the merge, leaves nothing to send. -/
theorem SentOnce.setTask_idle (ho : SentOnce s) {j : Nat} {t : Task} {pc : TaskPc}
    (hj : s.tasks[j]? = some t) (ht : s'.tasks = s.tasks.set j { t with pc := pc })
    (hd : s'.delivered = s.delivered) (hp : pc.pending = [])
    (hf : ∀ found, pc = .acquiring found → (found.map (·.nodeId)).Nodup) : SentOnce s' :=
  ho.setTask hj ht hd (by rw [hp, List.map_nil, List.append_nil]; exact ho.outgoing) hf

theorem sentOnce_announce (hr : Recorded s) (ho : SentOnce s) {sh : Shared} {i : Nat}
    {b rest : List NodeId} {x : NodeId} : SentOnce (announce sh s i b rest x) := by
  unfold announce
  split_ifs with hx
  · exact ⟨ho.outgoing, ho.found⟩
  · split
    · exact ⟨ho.outgoing, ho.found⟩
    · rename_i enr hget
      have hid : enr.nodeId = x := EnrDb.getEnr_nodeId hget
      split
      · refine ⟨?_, ho.found⟩
        show ((s.delivered ++ [enr]).map (·.nodeId) ++ _).Nodup
        rw [List.map_append, List.map_singleton, List.append_assoc, List.singleton_append]
        exact List.nodup_middle.mpr (List.nodup_cons.mpr
          ⟨fun hm => hx (hid ▸ hr.outgoing _ hm), ho.outgoing⟩)
      · exact ⟨ho.outgoing, ho.found⟩

/-- A merge keeps to send only ids not yet recorded, each once. -/
theorem sentOnce_mergeFound (hr : Recorded s) (ho : SentOnce s) {j : Nat} {t : Task}
    {found : List Enr} (hj : s.tasks[j]? = some t) (hpc : t.pc = .acquiring found) :
    SentOnce (s.mergeFound j t found) := by
  have hfound := ho.found t (List.getElem?_mem hj) found hpc
  refine ho.setTask hj rfl rfl ?_ fun f h => absurd h (afterSend_ne_acquiring _ f)
  rw [pending_afterSend, List.nodup_append]
  refine ⟨ho.outgoing, ((List.filter_sublist found).map _).nodup hfound, fun x hx hx' => ?_⟩
  obtain ⟨e, he, rfl⟩ := List.mem_map.mp hx'
  exact (of_decide_eq_true (List.mem_filter.mp he).2) (hr.outgoing _ hx)

/-- A send moves one id from a task's pending list to the channel. -/
theorem sentOnce_sendNext (ho : SentOnce s) {j : Nat} {t : Task} {e : Enr} {rest : List Enr}
    (hj : s.tasks[j]? = some t) (hpc : t.pc = .sending (e :: rest)) :
    SentOnce (s.sendNext j t e rest) := by
  unfold State.sendNext
  split
  · refine ⟨?_, ?_⟩
    · have hp := flatMap_set_perm (f := fun t => t.pc.pending.map (·.nodeId))
        { t with pc := afterSend rest } hj
      simp only [hpc, pending_afterSend, TaskPc.pending_sending, List.map_cons] at hp
      have hmove : ((s.tasks.set j { t with pc := afterSend rest }).flatMap
          (fun t => t.pc.pending.map (·.nodeId)) ++ [e.nodeId]).Perm
          (s.tasks.flatMap fun t => t.pc.pending.map (·.nodeId)) :=
        (List.perm_append_right_iff _).mp (by simpa only [List.append_assoc, List.singleton_append] using hp)
      show ((s.delivered ++ [e]).map (·.nodeId) ++ _).Nodup
      rw [List.map_append, List.map_singleton, List.append_assoc]
      exact (List.perm_append_comm.append_left _ |>.trans (hmove.append_left _)).nodup_iff.mpr
        ho.outgoing
    · intro u hu found h
      rcases List.mem_or_eq_of_mem_set hu with hu | rfl
      · exact ho.found u hu found h
      · exact absurd h (afterSend_ne_acquiring rest found)
  · exact ho.setTask_idle hj rfl rfl rfl nofun

/-- Every step whose replies name no node twice keeps each id sent at most once. -/
theorem sentOnce_step (hr : Recorded s) (ho : SentOnce s) {a : Action} (ha : a.RepliesDistinct)
    (h : step cfg sh s a = some (s', sh')) : SentOnce s' := by
  cases a with
  | workerRound i =>
    obtain ⟨-, -, rfl | rfl⟩ := step_workerRound h <;> exact ⟨ho.outgoing, ho.found⟩
  | workerAnnounce i =>
    obtain ⟨-, -, b, x, rest, -, rfl⟩ := step_workerAnnounce h
    exact sentOnce_announce hr ho
  | workerLaunch i =>
    obtain ⟨-, b, -, rfl⟩ := step_workerLaunch h
    refine ⟨?_, fun u hu found hpc => ?_⟩
    · have hnew : (b.map fun x => (⟨i, x, b.length != 1, .calling⟩ : Task)).flatMap
          (fun t => t.pc.pending.map (·.nodeId)) = [] := by
        simp [TaskPc.pending]
      simpa only [State.outgoing, State.launchBatch, State.setWorker, List.flatMap_append, hnew,
        List.append_nil] using ho.outgoing
    · rcases List.mem_append.mp hu with hu | hu
      · exact ho.found u hu found hpc
      · obtain ⟨x, -, rfl⟩ := List.mem_map.mp hu; cases hpc
  | workerFinish i =>
    obtain ⟨-, b, -, -, rfl⟩ := step_workerFinish h
    exact ⟨ho.outgoing, ho.found⟩
  | respond j reply =>
    obtain ⟨t, hj, -, rfl, -⟩ := step_respond h
    unfold respond
    split
    · rename_i found hf
      refine ho.setTask_idle hj rfl rfl rfl fun _ h => ?_
      cases h
      cases reply with
      | error e => cases hf
      | ok rs => exact (findNodesResponses_ok hf).1 ▸ ha
    · split_ifs
      · exact ho.setTask_idle hj rfl rfl rfl nofun
      · exact ⟨ho.outgoing, ho.found⟩
  | merge j =>
    obtain ⟨-, t, found, hj, hpc, rfl⟩ := step_merge h
    exact sentOnce_mergeFound hr ho hj hpc
  | send j =>
    obtain ⟨-, t, e, rest, hj, hpc, rfl⟩ := step_send h
    exact sentOnce_sendNext ho hj hpc
  | cancel j =>
    obtain ⟨-, t, hj, -, rfl⟩ := step_cancel h
    exact ho.setTask_idle hj rfl rfl rfl nofun
  | monitorCheck =>
    obtain ⟨-, rfl⟩ := step_monitorCheck h
    unfold checkDone; split_ifs <;> exact ⟨ho.outgoing, ho.found⟩
  | monitorTimeout => obtain ⟨-, rfl⟩ := step_monitorTimeout h; exact ⟨ho.outgoing, ho.found⟩
  | closeReceiver => obtain ⟨-, rfl⟩ := step_closeReceiver h; exact ⟨ho.outgoing, ho.found⟩

/-- When no peer's FoundNodes replies name a node twice, a lookup puts each node's ENR on the
channel at most once, whatever the interleaving and whatever the rest of the node does. -/
theorem delivered_once_of_distinct_replies {cache : List (NodeId × Int)} {now : Int}
    {sh₀ : Shared} {p : State × Shared} (h : ReachableDistinct cfg cache now sh₀ p) :
    (p.1.delivered.map (·.nodeId)).Nodup := by
  suffices Recorded p.1 ∧ SentOnce p.1 from (List.nodup_append.mp this.2.outgoing).1
  induction h with
  | refl => exact ⟨recorded_init cfg cache now, List.nodup_nil, nofun⟩
  | tail _ hs ih =>
    rcases hs with ⟨a, ha, hs⟩ | hs
    · exact ⟨recorded_step ih.1 hs, sentOnce_step ih.1 ih.2 ha hs⟩
    · exact hs ▸ ih

theorem reachableDistinct_run {cache : List (NodeId × Int)} {now : Int} {sh₀ : Shared}
    {as : List Action} {p q : State × Shared} (has : ∀ a ∈ as, a.RepliesDistinct)
    (hp : ReachableDistinct cfg cache now sh₀ p) (h : run cfg p as = some q) :
    ReachableDistinct cfg cache now sh₀ q :=
  hp.trans ((run_steps h).mono fun _ _ ⟨a, ha, hs⟩ => .inl ⟨a, has a ha, hs⟩)

/-- Worker 0 takes `0x14` and `0x18` and streams their ENRs; `0x18` answers with the ENR of
`0x12`, `0x14` with that of `0x11`, and each `do_lookup` sends what it found. -/
def twoAnswers : List Action :=
  [.workerRound 0, .workerAnnounce 0, .workerAnnounce 0, .workerLaunch 0,
   .respond 1 (.ok [[⟨18#256, 1, []⟩]]), .merge 1, .send 1,
   .respond 0 (.ok [[⟨17#256, 1, []⟩]]), .merge 0, .send 0]

theorem delivered_once_of_distinct_replies_after_two_answers :
    ∃ q, ReachableDistinct soloLookup [] 0 twoPeers q ∧
      q.1.delivered.map (·.nodeId) = [20#256, 24#256, 18#256, 17#256] ∧
      (q.1.delivered.map (·.nodeId)).Nodup :=
  have hd : ∀ a ∈ twoAnswers, a.RepliesDistinct := by
    simp only [twoAnswers, List.forall_mem_cons]
    exact ⟨trivial, trivial, trivial, trivial, List.nodup_singleton _, trivial, trivial,
      List.nodup_singleton _, trivial, trivial, nofun⟩
  have hq := reachableDistinct_run hd .refl
    (rfl : run soloLookup (init soloLookup [] 0, twoPeers) twoAnswers = some _)
  ⟨_, hq, by decide, delivered_once_of_distinct_replies hq⟩

/-- A lookup whose consumer keeps reading ends with `0x11` never sent and `0x12` sent twice. -/
theorem lookup_drops_and_repeats_deliveries :
    ∃ q, Reachable soloLookup [] 0 twoPeers q ∧ q.1.monitor = .done ∧ q.1.channel = .closed ∧
      17#256 ∈ q.1.receivedNodeIds ∧ (q.1.delivered.map (·.nodeId)).count 17#256 = 0 ∧
      (q.1.delivered.map (·.nodeId)).count 18#256 = 2 := by
  refine ⟨_, run_reachable .refl (rfl : run soloLookup (init soloLookup [] 0, twoPeers) dropAndRepeat = some _), ?_⟩
  decide

end Lookup

end Ddht
