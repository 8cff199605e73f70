import Ddht.Enr

/-!
# Serving LOCATE requests

One `serve_request` task per LOCATE request: it waits for one of `concurrency` permits, sends the
first 32 advertisements the databases give, and gives the permit back; `move_on_after(10)` may
cancel it anywhere. A database is the function its `query` computes, and it may change between
any two steps.
-/

namespace Ddht

namespace Alexandria

/-- `MAX_RESPONSE_ADVERTISEMENTS`. -/
def maxResponseAdvertisements : Nat := 32

/-- What `serve_request` reads of an `InboundMessage[LocateMessage]`. -/
structure LocateRequest where
  senderNodeId : NodeId
  senderEndpoint : Endpoint
  requestId : List UInt8
  contentKey : List UInt8
  deriving DecidableEq, Repr

/-- The arguments of `send_locations(node_id, endpoint, advertisements=..., request_id=...)`. -/
structure Locations (α : Type) where
  nodeId : NodeId
  endpoint : Endpoint
  advertisements : List α
  requestId : List UInt8
  deriving DecidableEq, Repr

variable {α : Type}

/-- `_source_advertisements(content_key)`: each database's answers, database by database. -/
def sourceAdvertisements (advertisementDbs : List (List UInt8 → List α)) (contentKey : List UInt8) :
    List α :=
  advertisementDbs.flatMap fun advertisementDb => advertisementDb contentKey

/-- What `serve_request` sends for `request`. -/
def locationsFor (advertisementDbs : List (List UInt8 → List α)) (request : LocateRequest) :
    Locations α :=
  ⟨request.senderNodeId, request.senderEndpoint,
    (sourceAdvertisements advertisementDbs request.contentKey).take maxResponseAdvertisements,
    request.requestId⟩

/-- The answer holds at most `MAX_RESPONSE_ADVERTISEMENTS` advertisements, the first ones the
databases give, and all of them when there are no more. -/
theorem locationsFor_advertisements (advertisementDbs : List (List UInt8 → List α))
    (request : LocateRequest) :
    (locationsFor advertisementDbs request).advertisements.length ≤ maxResponseAdvertisements ∧
      (locationsFor advertisementDbs request).advertisements <+:
        sourceAdvertisements advertisementDbs request.contentKey ∧
      ((sourceAdvertisements advertisementDbs request.contentKey).length ≤
          maxResponseAdvertisements →
        (locationsFor advertisementDbs request).advertisements =
          sourceAdvertisements advertisementDbs request.contentKey) :=
  ⟨List.length_take_le _ _, List.take_prefix _ _, List.take_of_length_le⟩

/-- Where a `serve_request` task is. -/
inductive ServePc where
  /-- Waiting in `async with self._concurrency_lock`. -/
  | acquiring
  /-- Holding a permit; `send_locations` has not sent. -/
  | holding
  /-- Holding a permit; `send_locations` has sent. -/
  | sent
  /-- Out of the `async with`, its permit given back. -/
  | released
  /-- Cancelled by `move_on_after(10)`, a held permit given back. -/
  | cancelled
  deriving DecidableEq, Repr

namespace ServePc

/-- The task holds a permit. -/
def holdsPermit : ServePc → Bool
  | .holding | .sent => true
  | _ => false

/-- The task may have sent its answer. -/
def mayHaveSent : ServePc → Bool
  | .acquiring | .holding => false
  | _ => true

/-- `serve_request` ran to its end or is about to. -/
def finished : ServePc → Bool
  | .sent | .released => true
  | _ => false

end ServePc

/-- One `serve_request(request)` task. -/
structure ServeTask where
  request : LocateRequest
  pc : ServePc
  deriving DecidableEq, Repr

/-- The state of an `AdvertisementProvider`. -/
structure AdvertisementProvider (α : Type) where
  advertisementDbs : List (List UInt8 → List α)
  /-- The value of `_concurrency_lock`. -/
  available : Nat
  /-- `_ready` is set. -/
  ready : Bool
  /-- Every `serve_request` started, in order. -/
  tasks : List ServeTask
  /-- Every `send_locations`, with the index of the task that made it. -/
  sent : List (Nat × Locations α)

namespace AdvertisementProvider

/-- `AdvertisementProvider(client, advertisement_dbs, concurrency)` before `run`. -/
def init (concurrency : Nat) (advertisementDbs : List (List UInt8 → List α)) :
    AdvertisementProvider α :=
  ⟨advertisementDbs, concurrency, false, [], []⟩

/-- A step of `run` or of one of its tasks, or a change of the databases. -/
inductive Action (α : Type) where
  /-- `run` has subscribed to LOCATE and sets `_ready`. -/
  | subscribe
  /-- The subscription yields `request`; `run` starts `serve_request(request)`. -/
  | arrive (request : LocateRequest)
  /-- Task `k` takes a permit. -/
  | acquire (k : Nat)
  /-- Task `k` reads the databases and `send_locations` sends. -/
  | send (k : Nat)
  /-- Task `k` leaves the `async with`. -/
  | release (k : Nat)
  /-- `move_on_after(10)` cancels task `k`. -/
  | timeout (k : Nat)
  /-- The databases change. -/
  | setDbs (advertisementDbs : List (List UInt8 → List α))

/-- The provider's transition function; `none` when the action is not enabled. -/
def step (p : AdvertisementProvider α) : Action α → Option (AdvertisementProvider α)
  | .subscribe => if p.ready then none else some { p with ready := true }
  | .arrive request =>
    if p.ready then some { p with tasks := p.tasks ++ [⟨request, .acquiring⟩] } else none
  | .acquire k =>
    match p.tasks[k]? with
    | some t =>
      if t.pc = .acquiring ∧ 0 < p.available then
        some { p with available := p.available - 1, tasks := p.tasks.set k ⟨t.request, .holding⟩ }
      else none
    | none => none
  | .send k =>
    match p.tasks[k]? with
    | some t =>
      if t.pc = .holding then
        some { p with
          tasks := p.tasks.set k ⟨t.request, .sent⟩
          sent := p.sent ++ [(k, locationsFor p.advertisementDbs t.request)] }
      else none
    | none => none
  | .release k =>
    match p.tasks[k]? with
    | some t =>
      if t.pc = .sent then
        some { p with available := p.available + 1, tasks := p.tasks.set k ⟨t.request, .released⟩ }
      else none
    | none => none
  | .timeout k =>
    match p.tasks[k]? with
    | some t =>
      if t.pc = .acquiring then some { p with tasks := p.tasks.set k ⟨t.request, .cancelled⟩ }
      else if t.pc.holdsPermit then
        some { p with available := p.available + 1, tasks := p.tasks.set k ⟨t.request, .cancelled⟩ }
      else none
    | none => none
  | .setDbs advertisementDbs => some { p with advertisementDbs := advertisementDbs }

/-- The states reachable from `p₀`. -/
def Reachable (p₀ : AdvertisementProvider α) : AdvertisementProvider α → Prop :=
  Relation.ReflTransGen (fun p p' => ∃ a, p.step a = some p') p₀

/-- Run a list of actions, nothing else happening in between. -/
def run (p : AdvertisementProvider α) : List (Action α) → Option (AdvertisementProvider α)
  | [] => some p
  | a :: as => (p.step a).bind fun p' => p'.run as

theorem run_reachable : ∀ {p q : AdvertisementProvider α} {as : List (Action α)},
    p.run as = some q → Reachable p q
  | _, _, [], h => Option.some.inj h ▸ .refl
  | _, _, a :: _, h => by
    obtain ⟨_, hs, h'⟩ := Option.bind_eq_some.mp h
    exact .head ⟨a, hs⟩ (run_reachable h')

section Inversion

variable {p p' : AdvertisementProvider α} {k : Nat}

theorem step_acquire (h : p.step (.acquire k) = some p') :
    ∃ t, p.tasks[k]? = some t ∧ t.pc = .acquiring ∧ 0 < p.available ∧
      p' = { p with available := p.available - 1, tasks := p.tasks.set k ⟨t.request, .holding⟩ } := by
  simp only [step] at h
  split at h
  · rename_i t hk
    split_ifs at h with hg
    exact ⟨t, hk, hg.1, hg.2, (Option.some.inj h).symm⟩
  · cases h

theorem step_send (h : p.step (.send k) = some p') :
    ∃ t, p.tasks[k]? = some t ∧ t.pc = .holding ∧
      p' = { p with
        tasks := p.tasks.set k ⟨t.request, .sent⟩
        sent := p.sent ++ [(k, locationsFor p.advertisementDbs t.request)] } := by
  simp only [step] at h
  split at h
  · rename_i t hk
    split_ifs at h with hg
    exact ⟨t, hk, hg, (Option.some.inj h).symm⟩
  · cases h

theorem step_release (h : p.step (.release k) = some p') :
    ∃ t, p.tasks[k]? = some t ∧ t.pc = .sent ∧
      p' = { p with available := p.available + 1, tasks := p.tasks.set k ⟨t.request, .released⟩ } := by
  simp only [step] at h
  split at h
  · rename_i t hk
    split_ifs at h with hg
    exact ⟨t, hk, hg, (Option.some.inj h).symm⟩
  · cases h

theorem step_timeout (h : p.step (.timeout k) = some p') :
    ∃ t, p.tasks[k]? = some t ∧
      (t.pc = .acquiring ∧ p' = { p with tasks := p.tasks.set k ⟨t.request, .cancelled⟩ } ∨
        t.pc.holdsPermit ∧ p' = { p with
          available := p.available + 1
          tasks := p.tasks.set k ⟨t.request, .cancelled⟩ }) := by
  simp only [step] at h
  split at h
  · rename_i t hk
    split_ifs at h with hg hh
    · exact ⟨t, hk, .inl ⟨hg, (Option.some.inj h).symm⟩⟩
    · exact ⟨t, hk, .inr ⟨hh, (Option.some.inj h).symm⟩⟩
  · cases h

end Inversion

/-- What every reachable provider satisfies, for `concurrency` permits. -/
structure Inv (concurrency : Nat) (p : AdvertisementProvider α) : Prop where
  /-- Free permits and held permits add up to `concurrency`. -/
  permits : p.available + p.tasks.countP (·.pc.holdsPermit) = concurrency
  /-- Every answer is a task's, sent once that task may have sent, and is what
  `serve_request` sends for its request from some state of the databases. -/
  answered : ∀ m ∈ p.sent, ∃ t, p.tasks[m.1]? = some t ∧ t.pc.mayHaveSent ∧
    ∃ advertisementDbs, m.2 = locationsFor advertisementDbs t.request
  answered_once : (p.sent.map (·.1)).Nodup
  /-- A task that has not reached `send_locations` has not answered. -/
  unanswered : ∀ k t, p.tasks[k]? = some t → t.pc.mayHaveSent = false → k ∉ p.sent.map (·.1)
  /-- A task that got past `send_locations` has answered. -/
  finished : ∀ k t, p.tasks[k]? = some t → t.pc.finished → k ∈ p.sent.map (·.1)

theorem inv_init (concurrency : Nat) (advertisementDbs : List (List UInt8 → List α)) :
    Inv concurrency (init concurrency advertisementDbs) where
  permits := rfl
  answered _ hm := absurd hm (List.not_mem_nil _)
  answered_once := List.nodup_nil
  unanswered _ _ h := absurd h (by simp [init])
  finished _ _ h := absurd h (by simp [init])

section Preservation

variable {c : Nat} {p : AdvertisementProvider α}

theorem Inv.lt_length (hi : Inv c p) {m : Nat × Locations α} (hm : m ∈ p.sent) :
    m.1 < p.tasks.length := by
  obtain ⟨t, ht, -⟩ := hi.answered m hm
  exact (List.getElem?_eq_some_iff.mp ht).1

/-- Replacing task `k` moves its permit, if any, in or out of the count of held permits. -/
theorem countP_set_task {tasks : List ServeTask} {k : Nat} {t : ServeTask}
    (hk : tasks[k]? = some t) (t' : ServeTask) :
    (tasks.set k t').countP (·.pc.holdsPermit) + (if t.pc.holdsPermit then 1 else 0) =
      tasks.countP (·.pc.holdsPermit) + (if t'.pc.holdsPermit then 1 else 0) := by
  obtain ⟨hlen, hget⟩ := List.getElem?_eq_some_iff.mp hk
  have hcount := List.countP_set (·.pc.holdsPermit) tasks k t' hlen
  have hle := List.boole_getElem_le_countP (·.pc.holdsPermit) tasks k hlen
  rw [hget] at hcount hle
  omega

/-- After replacing task `k`, task `k` is the new one and every other task is as it was. -/
theorem getElem?_set_task {tasks : List ServeTask} {k j : Nat} {t' u : ServeTask}
    (hlen : k < tasks.length) (h : (tasks.set k t')[j]? = some u) :
    j = k ∧ u = t' ∨ j ≠ k ∧ tasks[j]? = some u := by
  by_cases hjk : j = k
  · subst hjk
    rw [List.getElem?_set_self hlen] at h
    exact .inl ⟨rfl, (Option.some.inj h).symm⟩
  · rw [List.getElem?_set_ne (Ne.symm hjk)] at h
    exact .inr ⟨hjk, h⟩

/-- Replacing task `k` by one with the same request, at a place that may have sent if the old
one may have and is finished only if the old one was, with the permit moved to `available`. -/
theorem Inv.setTask (hi : Inv c p) {k : Nat} {t : ServeTask} (hk : p.tasks[k]? = some t)
    (t' : ServeTask) (hreq : t'.request = t.request) (hsent : t.pc.mayHaveSent → t'.pc.mayHaveSent)
    (hfin : t'.pc.finished → t.pc.finished) {available : Nat}
    (hperm : available + (if t'.pc.holdsPermit then 1 else 0) =
      p.available + (if t.pc.holdsPermit then 1 else 0)) :
    Inv c { p with available := available, tasks := p.tasks.set k t' } := by
  have hlen := (List.getElem?_eq_some_iff.mp hk).1
  refine ⟨?_, fun m hm => ?_, hi.answered_once, fun j u hj hus => ?_, fun j u hj hfu => ?_⟩
  · have := countP_set_task hk t'
    have := hi.permits
    dsimp only
    omega
  · obtain ⟨u, hu, hus, hloc⟩ := hi.answered m hm
    by_cases hmk : m.1 = k
    · rw [hmk] at hu ⊢
      obtain rfl := Option.some.inj (hk.symm.trans hu)
      exact ⟨t', List.getElem?_set_self hlen, hsent hus, hreq ▸ hloc⟩
    · exact ⟨u, (List.getElem?_set_ne (Ne.symm hmk)).trans hu, hus, hloc⟩
  · rcases getElem?_set_task hlen hj with ⟨rfl, rfl⟩ | ⟨-, hj⟩
    · exact hi.unanswered j t hk (Bool.eq_false_iff.mpr fun h => by simpa [hus] using hsent h)
    · exact hi.unanswered j u hj hus
  · rcases getElem?_set_task hlen hj with ⟨rfl, rfl⟩ | ⟨-, hj⟩
    · exact hi.finished j t hk (hfin hfu)
    · exact hi.finished j u hj hfu

theorem Inv.arrive (hi : Inv c p) (request : LocateRequest) :
    Inv c { p with tasks := p.tasks ++ [⟨request, .acquiring⟩] } := by
  -- the new task is the last one, and every other task is as it was
  have hat : ∀ {j u}, (p.tasks ++ [⟨request, .acquiring⟩])[j]? = some u →
      p.tasks[j]? = some u ∨ j = p.tasks.length ∧ u = ⟨request, .acquiring⟩ := fun {j u} h => by
    rcases Nat.lt_or_ge j p.tasks.length with hj | hj
    · rw [List.getElem?_append_left hj] at h
      exact .inl h
    · rw [List.getElem?_append_right hj] at h
      obtain ⟨hj', hu⟩ := List.getElem?_eq_some_iff.mp h
      simp only [List.length_singleton] at hj'
      refine .inr ⟨by omega, ?_⟩
      rw [← hu]
      simp
  refine ⟨?_, fun m hm => ?_, hi.answered_once, fun j u hj hus => ?_, fun j u hj hfu => ?_⟩
  · simpa [List.countP_append, ServePc.holdsPermit] using hi.permits
  · obtain ⟨u, hu, hrest⟩ := hi.answered m hm
    exact ⟨u, by rw [List.getElem?_append_left (List.getElem?_eq_some_iff.mp hu).1, hu], hrest⟩
  · rcases hat hj with hj | ⟨rfl, -⟩
    · exact hi.unanswered j u hj hus
    · intro hmem
      obtain ⟨m, hm, he⟩ := List.mem_map.mp hmem
      exact absurd (he ▸ hi.lt_length hm) (lt_irrefl _)
  · rcases hat hj with hj | ⟨-, rfl⟩
    · exact hi.finished j u hj hfu
    · cases hfu

theorem Inv.send (hi : Inv c p) {k : Nat} {t : ServeTask} (hk : p.tasks[k]? = some t)
    (hpc : t.pc = .holding) :
    Inv c { p with
      tasks := p.tasks.set k ⟨t.request, .sent⟩
      sent := p.sent ++ [(k, locationsFor p.advertisementDbs t.request)] } := by
  have hlen := (List.getElem?_eq_some_iff.mp hk).1
  have hfresh : k ∉ p.sent.map (·.1) := hi.unanswered k t hk (by rw [hpc]; rfl)
  refine ⟨?_, fun m hm => ?_, ?_, fun j u hj hus => ?_, fun j u hj hfu => ?_⟩
  · have := countP_set_task hk ⟨t.request, .sent⟩
    have := hi.permits
    rw [hpc] at *
    dsimp only [ServePc.holdsPermit] at *
    omega
  · rcases List.mem_append.mp hm with hm | hm
    · obtain ⟨u, hu, hrest⟩ := hi.answered m hm
      have hmk : k ≠ m.1 := fun he => hfresh (he ▸ List.mem_map_of_mem _ hm)
      exact ⟨u, (List.getElem?_set_ne hmk).trans hu, hrest⟩
    · obtain rfl := List.mem_singleton.mp hm
      exact ⟨_, List.getElem?_set_self hlen, rfl, _, rfl⟩
  · rw [List.map_append, List.nodup_append]
    exact ⟨hi.answered_once, List.nodup_singleton _, List.disjoint_singleton.mpr hfresh⟩
  · rcases getElem?_set_task hlen hj with ⟨-, rfl⟩ | ⟨hjk, hj⟩
    · cases hus
    · rw [List.map_append, List.mem_append, not_or]
      exact ⟨hi.unanswered j u hj hus, by simpa using hjk⟩
  · rw [List.map_append, List.mem_append]
    rcases getElem?_set_task hlen hj with ⟨rfl, -⟩ | ⟨-, hj⟩
    · exact .inr (List.mem_singleton_self _)
    · exact .inl (hi.finished j u hj hfu)

theorem inv_step (hi : Inv c p) {a : Action α} {p' : AdvertisementProvider α}
    (h : p.step a = some p') : Inv c p' := by
  cases a with
  | subscribe =>
    simp only [step] at h
    split_ifs at h
    cases h
    exact ⟨hi.permits, hi.answered, hi.answered_once, hi.unanswered, hi.finished⟩
  | arrive request =>
    simp only [step] at h
    split_ifs at h
    cases h
    exact hi.arrive request
  | acquire k =>
    obtain ⟨t, hk, hpc, hpos, rfl⟩ := step_acquire h
    refine hi.setTask hk ⟨t.request, .holding⟩ rfl (fun h => by rw [hpc] at h; cases h) nofun ?_
    rw [hpc]
    show p.available - 1 + 1 = p.available + 0
    omega
  | send k =>
    obtain ⟨t, hk, hpc, rfl⟩ := step_send h
    exact hi.send hk hpc
  | release k =>
    obtain ⟨t, hk, hpc, rfl⟩ := step_release h
    exact hi.setTask hk ⟨t.request, .released⟩ rfl (fun _ => rfl) (fun _ => by rw [hpc]; rfl)
      (by rw [hpc]; rfl)
  | timeout k =>
    obtain ⟨t, hk, ⟨hpc, rfl⟩ | ⟨hpc, rfl⟩⟩ := step_timeout h <;>
      exact hi.setTask hk ⟨t.request, .cancelled⟩ rfl (fun _ => rfl) nofun (by rw [hpc]; rfl)
  | setDbs advertisementDbs =>
    cases h
    exact ⟨hi.permits, hi.answered, hi.answered_once, hi.unanswered, hi.finished⟩

theorem inv_reachable {advertisementDbs : List (List UInt8 → List α)}
    (h : Reachable (init c advertisementDbs) p) : Inv c p := by
  induction h with
  | refl => exact inv_init c advertisementDbs
  | tail _ hs ih =>
    obtain ⟨a, hs⟩ := hs
    exact inv_step ih hs

end Preservation

section Answers

variable {p₀ p p' : AdvertisementProvider α}

/-- Replacing task `k` by one with its request keeps the request at every index. -/
theorem getElem?_set_request {tasks : List ServeTask} {k j : Nat} {t u : ServeTask}
    (hk : tasks[k]? = some t) (hj : tasks[j]? = some u) (pc : ServePc) :
    ∃ u', (tasks.set k ⟨t.request, pc⟩)[j]? = some u' ∧ u'.request = u.request := by
  by_cases hjk : k = j
  · subst hjk
    obtain rfl := Option.some.inj (hk.symm.trans hj)
    exact ⟨_, List.getElem?_set_self (List.getElem?_eq_some_iff.mp hk).1, rfl⟩
  · exact ⟨u, (List.getElem?_set_ne hjk).trans hj, rfl⟩

/-- No step changes the request of a started task. -/
theorem step_request {a : Action α} (h : p.step a = some p') {j : Nat} {u : ServeTask}
    (hj : p.tasks[j]? = some u) : ∃ u', p'.tasks[j]? = some u' ∧ u'.request = u.request := by
  cases a with
  | subscribe => simp only [step] at h; split_ifs at h; cases h; exact ⟨u, hj, rfl⟩
  | arrive request =>
    simp only [step] at h; split_ifs at h; cases h
    exact ⟨u, by rw [List.getElem?_append_left (List.getElem?_eq_some_iff.mp hj).1, hj], rfl⟩
  | acquire k => obtain ⟨t, hk, -, -, rfl⟩ := step_acquire h; exact getElem?_set_request hk hj _
  | send k => obtain ⟨t, hk, -, rfl⟩ := step_send h; exact getElem?_set_request hk hj _
  | release k => obtain ⟨t, hk, -, rfl⟩ := step_release h; exact getElem?_set_request hk hj _
  | timeout k =>
    obtain ⟨t, hk, ⟨-, rfl⟩ | ⟨-, rfl⟩⟩ := step_timeout h <;> exact getElem?_set_request hk hj _
  | setDbs advertisementDbs => cases h; exact ⟨u, hj, rfl⟩

theorem request_reachable (h : Reachable p₀ p) {j : Nat} {u : ServeTask}
    (hj : p₀.tasks[j]? = some u) : ∃ u', p.tasks[j]? = some u' ∧ u'.request = u.request := by
  induction h with
  | refl => exact ⟨u, hj, rfl⟩
  | tail _ hs ih =>
    obtain ⟨a, hs⟩ := hs
    obtain ⟨u₁, hu₁, hreq⟩ := ih
    obtain ⟨u', hu', hreq'⟩ := step_request hs hu₁
    exact ⟨u', hu', hreq'.trans hreq⟩

/-- Only `send_locations` sends, with what the databases give at that step. -/
theorem step_sent {a : Action α} (h : p.step a = some p') :
    p'.sent = p.sent ∨ ∃ k t, p.tasks[k]? = some t ∧ t.pc = .holding ∧
      p'.sent = p.sent ++ [(k, locationsFor p.advertisementDbs t.request)] := by
  cases a with
  | subscribe => simp only [step] at h; split_ifs at h; cases h; exact .inl rfl
  | arrive request => simp only [step] at h; split_ifs at h; cases h; exact .inl rfl
  | acquire k => obtain ⟨t, -, -, -, rfl⟩ := step_acquire h; exact .inl rfl
  | send k => obtain ⟨t, hk, hpc, rfl⟩ := step_send h; exact .inr ⟨k, t, hk, hpc, rfl⟩
  | release k => obtain ⟨t, -, -, rfl⟩ := step_release h; exact .inl rfl
  | timeout k => obtain ⟨t, -, ⟨-, rfl⟩ | ⟨-, rfl⟩⟩ := step_timeout h <;> exact .inl rfl
  | setDbs advertisementDbs => cases h; exact .inl rfl

/-- Every answer sent on a run was sent at a state of the run, by a task holding a permit, with
what the databases of that state gave. -/
theorem sent_reachable (h : Reachable p₀ p) :
    ∀ m ∈ p.sent, m ∈ p₀.sent ∨ ∃ q t, Reachable p₀ q ∧ Reachable q p ∧
      q.tasks[m.1]? = some t ∧ t.pc = .holding ∧ m.2 = locationsFor q.advertisementDbs t.request := by
  induction h with
  | refl => exact fun m hm => .inl hm
  | @tail b c hb hs ih =>
    obtain ⟨a, hs⟩ := hs
    -- what was sent before stays sent, from a state the longer run also passes
    have old : ∀ m ∈ b.sent, m ∈ p₀.sent ∨ ∃ q t, Reachable p₀ q ∧ Reachable q c ∧
        q.tasks[m.1]? = some t ∧ t.pc = .holding ∧
          m.2 = locationsFor q.advertisementDbs t.request := fun m hm =>
      (ih m hm).imp_right fun ⟨q, t, hq, hqb, hrest⟩ => ⟨q, t, hq, hqb.tail ⟨a, hs⟩, hrest⟩
    rcases step_sent hs with he | ⟨k, t, hk, hpc, he⟩
    · exact he ▸ old
    · intro m hm
      rw [he] at hm
      rcases List.mem_append.mp hm with hm | hm
      · exact old m hm
      · obtain rfl := List.mem_singleton.mp hm
        exact .inr ⟨b, t, hb, .single ⟨a, hs⟩, hk, hpc, rfl⟩

end Answers

/-- Every state an `AdvertisementProvider` reaches serves at most `concurrency` requests at once;
each LOCATIONS message answers its own started request, to its sender, with the first 32
advertisements the databases gave while its task held a permit; each request past
`send_locations` is answered. -/
theorem serveRequest_reachable {concurrency : Nat} {advertisementDbs : List (List UInt8 → List α)}
    {p : AdvertisementProvider α} (h : Reachable (init concurrency advertisementDbs) p) :
    p.tasks.countP (·.pc.holdsPermit) ≤ concurrency ∧
      (p.sent.map (·.1)).Nodup ∧
      (∀ m ∈ p.sent, ∃ t, p.tasks[m.1]? = some t ∧
        ∃ q, Reachable (init concurrency advertisementDbs) q ∧ Reachable q p ∧
          q.tasks[m.1]? = some ⟨t.request, .holding⟩ ∧
          m.2 = locationsFor q.advertisementDbs t.request) ∧
      ∀ k t, p.tasks[k]? = some t → t.pc.finished → k ∈ p.sent.map (·.1) := by
  have hi := inv_reachable h
  refine ⟨by have := hi.permits; omega, hi.answered_once, fun m hm => ?_, hi.finished⟩
  rcases sent_reachable h m hm with hm | ⟨q, t, hq, hqp, hk, hpc, hloc⟩
  · exact absurd hm (List.not_mem_nil _)
  · obtain ⟨u, hu, hreq⟩ := request_reachable hqp hk
    exact ⟨u, hu, q, hq, hqp, by rw [hk, hreq, ← hpc], hreq ▸ hloc⟩

/-- With one permit, a second request waits while the first is served. -/
example :
    ((init (α := Nat) 1 []).step .subscribe >>= (·.step (.arrive ⟨0#256, ⟨.int 0, .int 0⟩, [], []⟩))
      >>= (·.step (.arrive ⟨0#256, ⟨.int 0, .int 0⟩, [], []⟩)) >>= (·.step (.acquire 0))
      >>= (·.step (.acquire 1))).isNone := by
  decide

/-- A provider over one database that gives `7` and `8` answers one request. -/
theorem serveRequest_reachable_after_answer :
    ∃ p, Reachable (init (α := Nat) 3 [fun _ => [7, 8]]) p ∧
      p.sent.map (·.2.advertisements) = [[7, 8]] ∧
      (p.tasks.countP (·.pc.holdsPermit) ≤ 3 ∧
        (p.sent.map (·.1)).Nodup ∧
        (∀ m ∈ p.sent, ∃ t, p.tasks[m.1]? = some t ∧
          ∃ q, Reachable (init (α := Nat) 3 [fun _ => [7, 8]]) q ∧ Reachable q p ∧
            q.tasks[m.1]? = some ⟨t.request, .holding⟩ ∧
            m.2 = locationsFor q.advertisementDbs t.request) ∧
        ∀ k t, p.tasks[k]? = some t → t.pc.finished → k ∈ p.sent.map (·.1)) :=
  have h := run_reachable (rfl : (init (α := Nat) 3 [fun _ => [7, 8]]).run
    [.subscribe, .arrive ⟨1#256, ⟨.int 0, .int 30301⟩, [1], [2]⟩, .acquire 0, .send 0] = some _)
  ⟨_, h, rfl, serveRequest_reachable h⟩

end AdvertisementProvider

end Alexandria

end Ddht
