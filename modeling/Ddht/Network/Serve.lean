import Ddht.Network.Basic

/-!
# What `_serve_find_nodes` answers

When every routing-table entry has a record, `_serve_find_nodes` never raises, ignores exactly
the malformed requests, and answers the others with the ENRs owed, each once.
-/

namespace Ddht

namespace Network

variable {net : Network}

/-- The node ids whose ENRs `_serve_find_nodes` sends for distance `d`. -/
def idsAtDistance (net : Network) (d : Nat) : List NodeId :=
  if d = 0 then [net.localNodeId] else net.routingTable.getNodesAtLogDistance d

/-- `e` is owed for `distances`: it is the local ENR and 0 is asked for, or it is the stored
record of a routing-table entry at an asked distance. -/
def Owed (net : Network) (distances : List Nat) (e : Enr) : Prop :=
  (0 ∈ distances ∧ e = net.localEnr) ∨
    ∃ d ∈ distances, 0 < d ∧
      ∃ x ∈ net.routingTable.getNodesAtLogDistance d, net.enrDb.getEnr x = some e

theorem owed_cons {d : Nat} {ds : List Nat} {e : Enr} :
    net.Owed (d :: ds) e ↔ net.Owed [d] e ∨ net.Owed ds e := by
  simp only [Owed, List.mem_cons, List.mem_singleton, List.not_mem_nil, or_false,
    exists_eq_or_imp, exists_eq_left]
  constructor
  · rintro (⟨h0 | h0, rfl⟩ | h | h)
    · exact .inl (.inl ⟨h0, rfl⟩)
    · exact .inr (.inl ⟨h0, rfl⟩)
    · exact .inl (.inr h)
    · exact .inr (.inr h)
  · rintro ((⟨h0, rfl⟩ | h) | (⟨h0, rfl⟩ | h))
    · exact .inl ⟨.inl h0, rfl⟩
    · exact .inr (.inl h)
    · exact .inl ⟨.inr h0, rfl⟩
    · exact .inr (.inr h)

/-- The ids sent for an asked distance lie at that log distance from the local node. -/
theorem logDistance_of_mem_idsAtDistance {d : Nat} {x : NodeId} (h : x ∈ net.idsAtDistance d) :
    computeLogDistance net.localNodeId x = d := by
  unfold idsAtDistance at h
  split_ifs at h with hd
  · rw [List.mem_singleton.mp h, hd, computeLogDistance_eq_zero_iff]
  · rw [localNodeId, ← net.center]
    exact (KademliaRoutingTable.mem_getNodesAtLogDistance net.valid (Nat.pos_of_ne_zero hd) h).2

theorem nodup_idsAtDistance (d : Nat) : (net.idsAtDistance d).Nodup := by
  unfold idsAtDistance KademliaRoutingTable.getNodesAtLogDistance
  split_ifs
  · exact List.nodup_singleton _
  · exact net.valid.bucket_nodup _
  · exact List.nodup_nil

/-- With every id stored, `[get_enr(x) for x in ids]` is the stored records, one per id. -/
theorem getEnrs_ok {db : EnrDb} :
    ∀ {ids : List NodeId}, (∀ x ∈ ids, db.Has x) →
      ∃ enrs, getEnrs db ids = .ok enrs ∧ enrs.map (·.nodeId) = ids ∧
        ∀ e ∈ enrs, db.getEnr e.nodeId = some e
  | [], _ => ⟨[], rfl, rfl, nofun⟩
  | x :: xs, h => by
    obtain ⟨e, he⟩ := Option.isSome_iff_exists.mp (h x (.head _))
    obtain ⟨enrs, hg, hm, hs⟩ := getEnrs_ok fun y hy => h y (.tail _ hy)
    refine ⟨e :: enrs, by simp [getEnrs, he, hg, Except.map], ?_, ?_⟩
    · rw [List.map_cons, hm, EnrDb.getEnr_nodeId he]
    · rintro e' (_ | ⟨_, he'⟩)
      · rwa [EnrDb.getEnr_nodeId he]
      · exact hs e' he'

/-- The stored records of `ids`, found one per id, are the ENRs stored under `ids`. -/
theorem mem_of_getEnrs {db : EnrDb} {ids : List NodeId} {enrs : List Enr}
    (hm : enrs.map (·.nodeId) = ids) (hs : ∀ e ∈ enrs, db.getEnr e.nodeId = some e) (e : Enr) :
    e ∈ enrs ↔ ∃ x ∈ ids, db.getEnr x = some e := by
  constructor
  · intro he
    exact ⟨e.nodeId, hm ▸ List.mem_map_of_mem _ he, hs e he⟩
  · rintro ⟨x, hx, hget⟩
    obtain ⟨e', he', rfl⟩ := List.mem_map.mp (hm ▸ hx)
    rwa [← Option.some.inj ((hs e' he').symm.trans hget)]

/-- One distance of the loop: the ENRs of `idsAtDistance`, which are those owed. -/
theorem enrsAtDistance_ok (hcov : ∀ x ∈ net.routingTable.nodes, net.enrDb.Has x) {d : Nat}
    (hd : d ≤ numBuckets) :
    ∃ enrs, enrsAtDistance net d = .ok enrs ∧ enrs.map (·.nodeId) = net.idsAtDistance d ∧
      ∀ e, e ∈ enrs ↔ net.Owed [d] e := by
  unfold enrsAtDistance idsAtDistance
  split_ifs with h0
  · subst h0
    refine ⟨[net.localEnr], rfl, rfl, fun e => ?_⟩
    simp [Owed]
  · have hpos : 0 < d := Nat.pos_of_ne_zero h0
    obtain ⟨enrs, hg, hm, hs⟩ := getEnrs_ok fun x hx =>
      hcov x (KademliaRoutingTable.mem_getNodesAtLogDistance net.valid hpos hx).1
    refine ⟨enrs, hg, hm, fun e => ?_⟩
    rw [mem_of_getEnrs hm hs]
    simp [Owed, hpos, Ne.symm h0]

/-- The loop over the asked distances. -/
theorem collectEnrs_ok (hcov : ∀ x ∈ net.routingTable.nodes, net.enrDb.Has x) :
    ∀ {ds : List Nat}, (∀ d ∈ ds, d ≤ numBuckets) →
      ∃ enrs, collectEnrs net ds = .ok enrs ∧ enrs.map (·.nodeId) = ds.flatMap net.idsAtDistance ∧
        ∀ e, e ∈ enrs ↔ net.Owed ds e
  | [], _ => ⟨[], rfl, rfl, fun e => by simp [Owed]⟩
  | d :: ds, hds => by
    obtain ⟨enrs, he, hm, hmem⟩ := enrsAtDistance_ok hcov (hds d (.head _))
    obtain ⟨rest, hr, hm', hmem'⟩ := collectEnrs_ok hcov fun d' h => hds d' (.tail _ h)
    refine ⟨enrs ++ rest, by simp [collectEnrs, he, hr, bind, Except.bind, pure, Except.pure],
      by rw [List.map_append, hm, hm', List.flatMap_cons], fun e => ?_⟩
    rw [List.mem_append]
    exact (or_congr (hmem e) (hmem' e)).trans owed_cons.symm

/-- Every ENR `_serve_find_nodes` sends lies at an asked log distance from the local node. -/
theorem logDistance_of_flatMap {ds : List Nat} {x : NodeId}
    (h : x ∈ ds.flatMap net.idsAtDistance) : computeLogDistance net.localNodeId x ∈ ds := by
  obtain ⟨d, hd, hx⟩ := List.mem_flatMap.mp h
  exact logDistance_of_mem_idsAtDistance hx ▸ hd

/-- Distinct asked distances give disjoint sets of ids, each without repeats. -/
theorem nodup_flatMap_idsAtDistance {ds : List Nat} (h : ds.Nodup) :
    (ds.flatMap net.idsAtDistance).Nodup := by
  refine List.nodup_flatMap.mpr ⟨fun d _ => nodup_idsAtDistance d, h.imp fun hne x hx hy => ?_⟩
  exact hne ((logDistance_of_mem_idsAtDistance hx).symm.trans (logDistance_of_mem_idsAtDistance hy))

/-- `_serve_find_nodes` when every entry has a record: it never raises, ignores exactly the
malformed requests, and answers the rest with the owed ENRs, once each, at asked distances. -/
theorem serveFindNodes_ok (hcov : ∀ x ∈ net.routingTable.nodes, net.enrDb.Has x)
    (req : FindNodeMessage) :
    ∃ out, serveFindNodes net req = .ok out ∧
      (out = none ↔ req.distances.dedup.length ≠ req.distances.length ∨ req.distances = [] ∨
        ∃ d ∈ req.distances, numBuckets < d) ∧
      ∀ rid enrs, out = some (rid, enrs) →
        rid = req.requestId ∧ (∀ e, e ∈ enrs ↔ net.Owed req.distances e) ∧
          (enrs.map (·.nodeId)).Nodup ∧
          validateFoundNodesDistances enrs net.localNodeId req.distances = .ok () := by
  unfold serveFindNodes
  simp only [ne_eq, List.dedup_eq_nil, List.mem_dedup]
  by_cases hl : req.distances.dedup.length = req.distances.length
  · rw [if_neg (not_not.mpr hl)]
    by_cases he : req.distances = []
    · rw [if_pos he]; exact ⟨none, rfl, iff_of_true rfl (.inr (.inl he)), nofun⟩
    rw [if_neg he]
    by_cases hb : ∃ d ∈ req.distances, numBuckets < d
    · rw [if_pos hb]; exact ⟨none, rfl, iff_of_true rfl (.inr (.inr hb)), nofun⟩
    rw [if_neg hb]
    have hnd : req.distances.Nodup := List.dedup_eq_self.mp ((List.dedup_sublist _).eq_of_length hl)
    obtain ⟨enrs, hc, hm, hmem⟩ := collectEnrs_ok hcov fun d hd => not_lt.mp fun h => hb ⟨d, hd, h⟩
    refine ⟨some (req.requestId, enrs), by simp [hc, Except.map],
      iff_of_false nofun (by rintro (h | h | h) <;> contradiction), ?_⟩
    rintro rid enrs' ⟨⟩
    refine ⟨rfl, hmem, hm ▸ nodup_flatMap_idsAtDistance hnd, if_pos fun e he => ?_⟩
    exact logDistance_of_flatMap (hm ▸ List.mem_map_of_mem (·.nodeId) he)
  · rw [if_pos hl]; exact ⟨none, rfl, iff_of_true rfl (.inl hl), nofun⟩

end Network

end Ddht
