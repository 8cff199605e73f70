import Ddht.Lookup.Delivery

/-!
# Lookups move toward the target

`find_nodes` validates every response against the distance `do_lookup` asked for, so every ENR
a `do_lookup` holds is the target's own or strictly closer to the target than the node asked.
-/

namespace Ddht

namespace Lookup

/-- The ENRs a `do_lookup` task holds of its answer: to merge, or still to send. -/
def TaskPc.held : TaskPc → List Enr
  | .acquiring found => found
  | .sending pending => pending
  | _ => []

/-- Every ENR a task holds passed `validate_found_nodes_distances` for the distance it asked. -/
def Answered (cfg : Config) (s : State) : Prop :=
  ∀ t ∈ s.tasks, ∀ e ∈ t.pc.held,
    computeLogDistance t.nodeId e.nodeId = lookupDistance cfg t.nodeId

variable {cfg : Config} {s s' : State} {sh sh' : Shared}

theorem held_afterSend {l : List Enr} {e : Enr} (h : e ∈ (afterSend l).held) : e ∈ l := by
  unfold afterSend at h
  split at h
  · cases h
  · exact h

theorem announce_tasks {i : Nat} {b rest : List NodeId} {x : NodeId} :
    (announce sh s i b rest x).tasks = s.tasks := by
  unfold announce
  split_ifs
  · rfl
  · split
    · rfl
    · split <;> rfl

theorem answered_init (cfg : Config) (cache : List (NodeId × Int)) (now : Int) :
    Answered cfg (init cfg cache now) :=
  fun _ h => absurd h (List.not_mem_nil _)

/-- Task `j` moves from `t` to a pc holding only what `t`'s answer allows. -/
theorem Answered.setTask (ha : Answered cfg s) {j : Nat} {t : Task} {pc : TaskPc}
    (hpc : ∀ e ∈ pc.held, computeLogDistance t.nodeId e.nodeId = lookupDistance cfg t.nodeId)
    (ht : s'.tasks = s.tasks.set j { t with pc := pc }) : Answered cfg s' := fun u hu e he => by
  rcases List.mem_or_eq_of_mem_set (ht ▸ hu) with hu | rfl
  · exact ha u hu e he
  · exact hpc e he

/-- What `find_nodes` lets through is at the distance asked. -/
theorem answered_respond (ha : Answered cfg s) {j : Nat} {t : Task}
    (reply : Except NetError (List (List Enr))) : Answered cfg (respond cfg sh s j t reply).1 := by
  unfold respond
  split
  · rename_i found hf
    refine ha.setTask (fun e he => ?_) rfl
    cases reply with
    | error err => cases hf
    | ok rs => exact List.mem_singleton.mp ((findNodesResponses_ok hf).2 e he)
  · split_ifs
    · exact ha.setTask (fun _ h => absurd h (List.not_mem_nil _)) rfl
    · exact ha

/-- Every step keeps what the tasks hold validated. -/
theorem answered_step (ha : Answered cfg s) {a : Action} (h : step cfg sh s a = some (s', sh')) :
    Answered cfg s' := by
  cases a with
  | workerRound i => obtain ⟨-, -, rfl | rfl⟩ := step_workerRound h <;> exact ha
  | workerAnnounce i =>
    obtain ⟨-, -, b, x, rest, -, rfl⟩ := step_workerAnnounce h
    intro u hu; exact ha u (announce_tasks ▸ hu)
  | workerLaunch i =>
    obtain ⟨-, b, -, rfl⟩ := step_workerLaunch h
    intro u hu e he
    rcases List.mem_append.mp hu with hu | hu
    · exact ha u hu e he
    · obtain ⟨x, -, rfl⟩ := List.mem_map.mp hu; cases he
  | workerFinish i => obtain ⟨-, b, -, -, rfl⟩ := step_workerFinish h; exact ha
  | respond j reply =>
    obtain ⟨t, -, -, rfl, -⟩ := step_respond h
    exact answered_respond ha reply
  | merge j =>
    obtain ⟨-, t, found, hj, hpc, rfl⟩ := step_merge h
    have hfound := ha t (List.getElem?_mem hj)
    rw [hpc] at hfound
    exact ha.setTask (fun e he => hfound e (List.mem_of_mem_filter (held_afterSend he))) rfl
  | send j =>
    obtain ⟨-, t, e, rest, hj, hpc, rfl⟩ := step_send h
    have hheld := ha t (List.getElem?_mem hj)
    rw [hpc] at hheld
    unfold State.sendNext
    split
    · exact ha.setTask (fun e' he' => hheld e' (.tail _ (held_afterSend he'))) rfl
    · exact ha.setTask (fun _ h => absurd h (List.not_mem_nil _)) rfl
  | cancel j =>
    obtain ⟨-, t, -, -, rfl⟩ := step_cancel h
    exact ha.setTask (fun _ h => absurd h (List.not_mem_nil _)) rfl
  | monitorCheck =>
    obtain ⟨-, rfl⟩ := step_monitorCheck h
    unfold checkDone; split_ifs <;> exact ha
  | monitorTimeout => obtain ⟨-, rfl⟩ := step_monitorTimeout h; exact ha
  | closeReceiver => obtain ⟨-, rfl⟩ := step_closeReceiver h; exact ha

theorem answered_reachable {cache : List (NodeId × Int)} {now : Int} {sh₀ : Shared}
    {p : State × Shared} (h : Reachable cfg cache now sh₀ p) : Answered cfg p.1 := by
  induction h with
  | refl => exact answered_init cfg cache now
  | tail _ hs ih =>
    cases hs with
    | act a hstep => exact answered_step ih hstep
    | env sh' => exact ih

/-- In every reachable state of a lookup, under any interleaving and any answers, each ENR a
`do_lookup` holds is the target's own or strictly closer to the target than the node it asked. -/
theorem lookup_answers_approach_target {cache : List (NodeId × Int)} {now : Int}
    {sh₀ : Shared} (h : Reachable cfg cache now sh₀ (s, sh)) :
    ∀ t ∈ s.tasks, ∀ e ∈ t.pc.held,
      (t.nodeId = cfg.target ∧ e.nodeId = cfg.target) ∨
        computeLogDistance e.nodeId cfg.target < computeLogDistance t.nodeId cfg.target := by
  intro t ht e he
  have hd := answered_reachable h t ht e he
  unfold lookupDistance at hd
  split_ifs at hd with htarget
  · exact .inl ⟨htarget, (computeLogDistance_eq_zero_iff.mp hd).symm.trans htarget⟩
  · exact .inr (computeLogDistance_lt_of_eq htarget hd)

/-- After `0x18` answers the first round, its `do_lookup` holds the two ENRs of `0x12`. -/
theorem lookup_answers_approach_target_after_answer :
    ∃ s sh, Reachable soloLookup [] 0 twoPeers (s, sh) ∧
      (s.tasks.flatMap (·.pc.held)).map (·.nodeId) = [18#256, 18#256] ∧
      ∀ t ∈ s.tasks, ∀ e ∈ t.pc.held,
        (t.nodeId = soloLookup.target ∧ e.nodeId = soloLookup.target) ∨
          computeLogDistance e.nodeId soloLookup.target <
            computeLogDistance t.nodeId soloLookup.target :=
  have h := run_reachable .refl
    (rfl : run soloLookup (init soloLookup [] 0, twoPeers) (dropAndRepeat.take 6) = some _)
  ⟨_, _, h, by decide, lookup_answers_approach_target h⟩

end Lookup

end Ddht
