import Ddht.Enr
import Mathlib.Data.List.Sort
import Mathlib.Data.List.FinRange

/-!
# The Kademlia routing table

Modelled from the spec, since `ddht.kademlia` is not under `src/`: bucket `i` holds the ids at
log distance `i + 1` from the center, least recently seen first, with a replacement cache that
refills it after a removal.
-/

namespace Ddht

/-- `routing_table.num_buckets`. -/
def numBuckets : Nat := 256

/-- Modelled from the spec: `KademliaRoutingTable`. -/
structure KademliaRoutingTable where
  centerNodeId : NodeId
  bucketSize : Nat
  buckets : Fin 256 → List NodeId
  replacementCaches : Fin 256 → List NodeId

namespace KademliaRoutingTable

/-- A table with no entries, as `Network.__init__` builds it. -/
def empty (centerNodeId : NodeId) (bucketSize : Nat) : KademliaRoutingTable :=
  ⟨centerNodeId, bucketSize, fun _ => [], fun _ => []⟩

/-- The bucket of `n`: index `log_distance(center, n) - 1`. -/
def bucketIndex (t : KademliaRoutingTable) (n : NodeId) : Fin 256 :=
  ⟨computeLogDistance t.centerNodeId n - 1, by
    have := computeLogDistance_le t.centerNodeId n; omega⟩

/-- Modelled from the spec: `update(node_id)`, returning the table and the eviction candidate. -/
def update (t : KademliaRoutingTable) (n : NodeId) : KademliaRoutingTable × Option NodeId :=
  if n = t.centerNodeId then (t, none) else
  let i := t.bucketIndex n
  let bucket := t.buckets i
  if n ∈ bucket then
    ({ t with buckets := Function.update t.buckets i (bucket.erase n ++ [n]) }, none)
  else if bucket.length < t.bucketSize then
    ({ t with buckets := Function.update t.buckets i (bucket ++ [n]) }, none)
  else
    let cache := (n :: (t.replacementCaches i).erase n).take t.bucketSize
    ({ t with replacementCaches := Function.update t.replacementCaches i cache }, bucket.head?)

/-- Modelled from the spec: `remove(node_id)`. -/
def remove (t : KademliaRoutingTable) (n : NodeId) : KademliaRoutingTable :=
  let i := t.bucketIndex n
  if n ∈ t.buckets i then
    match t.replacementCaches i with
    | [] => { t with buckets := Function.update t.buckets i ((t.buckets i).erase n) }
    | r :: rs =>
      { t with
        buckets := Function.update t.buckets i ((t.buckets i).erase n ++ [r])
        replacementCaches := Function.update t.replacementCaches i rs }
  else t

/-- `get_nodes_at_log_distance(d)`, for `1 ≤ d ≤ 256`: bucket `d - 1`. -/
def getNodesAtLogDistance (t : KademliaRoutingTable) (d : Nat) : List NodeId :=
  if h : d - 1 < 256 then t.buckets ⟨d - 1, h⟩ else []

/-- Every id in a main bucket, bucket by bucket. -/
@[irreducible] def nodes (t : KademliaRoutingTable) : List NodeId :=
  (List.finRange 256).flatMap t.buckets

/-- Every id the table holds, replacement caches included. -/
@[irreducible] def allIds (t : KademliaRoutingTable) : List NodeId :=
  (List.finRange 256).flatMap fun i => t.buckets i ++ t.replacementCaches i

@[simp] theorem update_centerNodeId (t : KademliaRoutingTable) (n : NodeId) :
    (t.update n).1.centerNodeId = t.centerNodeId := by
  unfold update; dsimp only; split_ifs <;> rfl

@[simp] theorem remove_centerNodeId (t : KademliaRoutingTable) (n : NodeId) :
    (t.remove n).centerNodeId = t.centerNodeId := by
  unfold remove; dsimp only; split
  · split <;> rfl
  · rfl

@[simp] theorem update_bucketSize (t : KademliaRoutingTable) (n : NodeId) :
    (t.update n).1.bucketSize = t.bucketSize := by
  unfold update; dsimp only; split_ifs <;> rfl

@[simp] theorem remove_bucketSize (t : KademliaRoutingTable) (n : NodeId) :
    (t.remove n).bucketSize = t.bucketSize := by
  unfold remove; dsimp only; split
  · split <;> rfl
  · rfl

theorem mem_nodes {t : KademliaRoutingTable} {n : NodeId} : n ∈ t.nodes ↔ ∃ i, n ∈ t.buckets i := by
  simp [nodes]

theorem mem_allIds {t : KademliaRoutingTable} {n : NodeId} :
    n ∈ t.allIds ↔ ∃ i, n ∈ t.buckets i ∨ n ∈ t.replacementCaches i := by
  simp [allIds]

theorem nodes_subset_allIds (t : KademliaRoutingTable) : t.nodes ⊆ t.allIds := fun _ h => by
  obtain ⟨i, hi⟩ := mem_nodes.mp h
  exact mem_allIds.mpr ⟨i, .inl hi⟩

/-- Concatenating, over indices each listed once, slots that are all empty but one's. -/
theorem flatMap_update_nil {i : Fin 256} {l : List NodeId} :
    ∀ {xs : List (Fin 256)}, xs.Nodup → i ∈ xs →
      xs.flatMap (Function.update (fun _ => []) i l) = l
  | [], _, h => absurd h (List.not_mem_nil _)
  | x :: xs, hnd, h => by
    have hx : x ∉ xs := (List.nodup_cons.mp hnd).1
    rw [List.flatMap_cons]
    by_cases hxi : x = i
    · subst hxi
      have hrest : xs.flatMap (Function.update (fun _ => []) x l) = [] :=
        List.flatMap_eq_nil_iff.mpr fun y hy =>
          Function.update_noteq (fun h : y = x => hx (h ▸ hy)) _ _
      rw [Function.update_same, hrest, List.append_nil]
    · rw [Function.update_noteq hxi, List.nil_append]
      exact flatMap_update_nil (List.nodup_cons.mp hnd).2 ((List.mem_cons.mp h).resolve_left (Ne.symm hxi))

theorem nodes_empty (c : NodeId) (k : Nat) : (empty c k).nodes = [] := by
  unfold nodes
  exact List.flatMap_eq_nil_iff.mpr fun _ _ => rfl

/-- The table an empty one becomes when it takes one node. -/
theorem nodes_update_empty {c n : NodeId} {k : Nat} (hn : n ≠ c) (hk : 0 < k) :
    ((empty c k).update n).1.nodes = [n] := by
  unfold nodes
  simp only [update, empty, if_neg hn, List.not_mem_nil, if_false, List.length_nil, if_pos hk,
    List.nil_append]
  exact flatMap_update_nil (List.nodup_finRange 256) (List.mem_finRange _)

theorem mem_update_slot {f : Fin 256 → List NodeId} {i j : Fin 256} {l : List NodeId}
    {x : NodeId} (h : x ∈ Function.update f i l j) : (j = i ∧ x ∈ l) ∨ x ∈ f j := by
  by_cases hj : j = i
  · subst hj; exact .inl ⟨rfl, by simpa using h⟩
  · exact .inr (by simpa [Function.update_noteq hj] using h)

theorem mem_update_buckets {t : KademliaRoutingTable} {n x : NodeId} {j : Fin 256}
    (h : x ∈ (t.update n).1.buckets j) :
    x ∈ t.buckets j ∨ (x = n ∧ n ≠ t.centerNodeId ∧ j = t.bucketIndex n) := by
  unfold update at h
  dsimp only at h
  split_ifs at h with hc <;> dsimp only at h
  · exact .inl h
  · rcases mem_update_slot h with ⟨rfl, hl⟩ | hf
    · simp only [List.mem_append, List.mem_singleton] at hl
      exact hl.imp List.mem_of_mem_erase fun e => ⟨e, hc, rfl⟩
    · exact .inl hf
  · rcases mem_update_slot h with ⟨rfl, hl⟩ | hf
    · simp only [List.mem_append, List.mem_singleton] at hl
      exact hl.imp id fun e => ⟨e, hc, rfl⟩
    · exact .inl hf
  · exact .inl h

theorem mem_update_caches {t : KademliaRoutingTable} {n x : NodeId} {j : Fin 256}
    (h : x ∈ (t.update n).1.replacementCaches j) :
    x ∈ t.replacementCaches j ∨ (x = n ∧ n ≠ t.centerNodeId ∧ j = t.bucketIndex n) := by
  unfold update at h
  dsimp only at h
  split_ifs at h with hc <;> dsimp only at h
  · exact .inl h
  · exact .inl h
  · exact .inl h
  · rcases mem_update_slot h with ⟨rfl, hl⟩ | hf
    · rcases List.mem_cons.mp (List.mem_of_mem_take hl) with rfl | he
      · exact .inr ⟨rfl, hc, rfl⟩
      · exact .inl (List.mem_of_mem_erase he)
    · exact .inl hf

theorem mem_remove_buckets {t : KademliaRoutingTable} {n x : NodeId} {j : Fin 256}
    (h : x ∈ (t.remove n).buckets j) : x ∈ t.buckets j ∨ x ∈ t.replacementCaches j := by
  unfold remove at h
  dsimp only at h
  split at h
  · split at h <;> dsimp only at h
    · rcases mem_update_slot h with ⟨rfl, hl⟩ | hf
      · exact .inl (List.mem_of_mem_erase hl)
      · exact .inl hf
    · rename_i r rs hrs
      rcases mem_update_slot h with ⟨rfl, hl⟩ | hf
      · rcases List.mem_append.mp hl with he | hr
        · exact .inl (List.mem_of_mem_erase he)
        · rw [List.mem_singleton.mp hr, hrs]; exact .inr (List.mem_cons_self r rs)
      · exact .inl hf
  · exact .inl h

theorem mem_remove_caches {t : KademliaRoutingTable} {n x : NodeId} {j : Fin 256}
    (h : x ∈ (t.remove n).replacementCaches j) : x ∈ t.replacementCaches j := by
  unfold remove at h
  dsimp only at h
  split at h
  · split at h <;> dsimp only at h
    · exact h
    · rename_i r rs hrs
      rcases mem_update_slot h with ⟨rfl, hl⟩ | hf
      · rw [hrs]; exact List.mem_cons_of_mem r hl
      · exact hf
  · exact h

/-- `update n` adds no id but `n`. -/
theorem allIds_update {t : KademliaRoutingTable} {n x : NodeId} (h : x ∈ (t.update n).1.allIds) :
    x = n ∨ x ∈ t.allIds := by
  obtain ⟨j, hj | hj⟩ := mem_allIds.mp h
  · rcases mem_update_buckets hj with hx | hx
    · exact .inr (mem_allIds.mpr ⟨j, .inl hx⟩)
    · exact .inl hx.1
  · rcases mem_update_caches hj with hx | hx
    · exact .inr (mem_allIds.mpr ⟨j, .inr hx⟩)
    · exact .inl hx.1

/-- `remove` adds no id. -/
theorem allIds_remove {t : KademliaRoutingTable} {n x : NodeId} (h : x ∈ (t.remove n).allIds) :
    x ∈ t.allIds := by
  obtain ⟨j, hj | hj⟩ := mem_allIds.mp h
  · exact mem_allIds.mpr ⟨j, mem_remove_buckets hj⟩
  · exact mem_allIds.mpr ⟨j, .inr (mem_remove_caches hj)⟩

theorem bucketIndex_succ {t : KademliaRoutingTable} {n : NodeId} (h : n ≠ t.centerNodeId) :
    computeLogDistance t.centerNodeId n = (t.bucketIndex n : Nat) + 1 := by
  have : computeLogDistance t.centerNodeId n ≠ 0 := by
    rw [Ne, computeLogDistance_eq_zero_iff]; exact Ne.symm h
  simp only [bucketIndex]; omega

/-- What every table `update` and `remove` build satisfies. -/
structure Valid (t : KademliaRoutingTable) : Prop where
  bucket_distance : ∀ i, ∀ x ∈ t.buckets i, computeLogDistance t.centerNodeId x = i + 1
  cache_distance : ∀ i, ∀ x ∈ t.replacementCaches i, computeLogDistance t.centerNodeId x = i + 1
  bucket_nodup : ∀ i, (t.buckets i).Nodup
  cache_nodup : ∀ i, (t.replacementCaches i).Nodup
  bucket_length : ∀ i, (t.buckets i).length ≤ t.bucketSize
  cache_full : ∀ i, t.replacementCaches i ≠ [] → (t.buckets i).length = t.bucketSize
  cache_disjoint : ∀ i, ∀ x ∈ t.replacementCaches i, x ∉ t.buckets i

theorem empty_valid (c : NodeId) (k : Nat) : (empty c k).Valid := by
  constructor <;> simp [empty]

/-- Replacing one slot keeps a table valid when the new slot is valid on its own. -/
theorem valid_set {t : KademliaRoutingTable} (hv : t.Valid) (i : Fin 256) (l c : List NodeId)
    (hl : ∀ x ∈ l, computeLogDistance t.centerNodeId x = i + 1)
    (hc : ∀ x ∈ c, computeLogDistance t.centerNodeId x = i + 1)
    (hln : l.Nodup) (hcn : c.Nodup) (hlen : l.length ≤ t.bucketSize)
    (hfull : c ≠ [] → l.length = t.bucketSize) (hdisj : ∀ x ∈ c, x ∉ l) :
    ({ t with buckets := Function.update t.buckets i l,
              replacementCaches := Function.update t.replacementCaches i c } :
      KademliaRoutingTable).Valid := by
  constructor <;> intro j <;> by_cases hj : j = i <;>
    simp only [Function.update_apply, hj, if_true, if_false, eq_self_iff_true]
  -- each field: slot `i` from the new slot's fact, every other slot from `hv`
  exacts [hl, hv.bucket_distance j, hc, hv.cache_distance j, hln, hv.bucket_nodup j, hcn,
    hv.cache_nodup j, hlen, hv.bucket_length j, hfull, hv.cache_full j, hdisj,
    hv.cache_disjoint j]

theorem update_valid {t : KademliaRoutingTable} (hv : t.Valid) (n : NodeId) :
    (t.update n).1.Valid := by
  unfold update
  dsimp only
  split_ifs with hc hm hl
  · exact hv
  · -- moving `n` to the tail permutes the bucket
    have hp : ((t.buckets (t.bucketIndex n)).erase n ++ [n]).Perm (t.buckets (t.bucketIndex n)) :=
      (List.perm_append_singleton _ _).trans (List.perm_cons_erase hm).symm
    have h := valid_set hv (t.bucketIndex n) _ (t.replacementCaches (t.bucketIndex n))
      (fun x hx => hv.bucket_distance _ x (hp.mem_iff.mp hx)) (hv.cache_distance _)
      (hp.nodup_iff.mpr (hv.bucket_nodup _)) (hv.cache_nodup _)
      (hp.length_eq ▸ hv.bucket_length _) (fun hne => hp.length_eq ▸ hv.cache_full _ hne)
      (fun x hx hx' => hv.cache_disjoint _ x hx (hp.mem_iff.mp hx'))
    rwa [Function.update_eq_self] at h
  · have hnil : t.replacementCaches (t.bucketIndex n) = [] := by
      by_contra hne; have := hv.cache_full _ hne; omega
    have h := valid_set hv (t.bucketIndex n) (t.buckets (t.bucketIndex n) ++ [n])
      (t.replacementCaches (t.bucketIndex n))
      (List.forall_mem_append.mpr
        ⟨hv.bucket_distance _, List.forall_mem_singleton.mpr (bucketIndex_succ hc)⟩)
      (hv.cache_distance _)
      ((hv.bucket_nodup _).append (List.nodup_singleton n) (List.disjoint_singleton.mpr hm))
      (hv.cache_nodup _) (by rw [List.length_append, List.length_singleton]; omega)
      (by simp [hnil]) (by simp [hnil])
    rwa [Function.update_eq_self] at h
  · have hcache : ∀ x ∈ (n :: (t.replacementCaches (t.bucketIndex n)).erase n).take t.bucketSize,
        x ∈ t.replacementCaches (t.bucketIndex n) ∨ x = n := fun x hx => by
      rcases List.mem_cons.mp (List.mem_of_mem_take hx) with rfl | hx
      · exact .inr rfl
      · exact .inl (List.mem_of_mem_erase hx)
    have h := valid_set hv (t.bucketIndex n) (t.buckets (t.bucketIndex n))
      ((n :: (t.replacementCaches (t.bucketIndex n)).erase n).take t.bucketSize)
      (hv.bucket_distance _)
      (fun x hx => (hcache x hx).elim (hv.cache_distance _ x) fun hx => by
        subst hx; exact bucketIndex_succ hc)
      (hv.bucket_nodup _)
      ((List.take_sublist _ _).nodup
        (List.nodup_cons.mpr ⟨(hv.cache_nodup _).not_mem_erase, (hv.cache_nodup _).erase n⟩))
      (hv.bucket_length _) (fun _ => le_antisymm (hv.bucket_length _) (not_lt.mp hl))
      (fun x hx => (hcache x hx).elim (hv.cache_disjoint _ x) fun hx => hx ▸ hm)
    rwa [Function.update_eq_self] at h

theorem remove_valid {t : KademliaRoutingTable} (hv : t.Valid) (n : NodeId) :
    (t.remove n).Valid := by
  unfold remove
  dsimp only
  split
  · rename_i hm
    have hlen := List.length_erase_of_mem hm
    have hpos := List.length_pos_of_mem hm
    split
    · rename_i hnil
      have h := valid_set hv (t.bucketIndex n) ((t.buckets (t.bucketIndex n)).erase n) []
        (fun x hx => hv.bucket_distance _ x (List.mem_of_mem_erase hx)) (by simp)
        ((hv.bucket_nodup _).erase n) List.nodup_nil
        (by have := hv.bucket_length (t.bucketIndex n); omega) (by simp) (by simp)
      rwa [← hnil, Function.update_eq_self] at h
    · rename_i r rs hrs
      have hcache : ∀ x ∈ r :: rs, x ∈ t.replacementCaches (t.bucketIndex n) := fun x hx =>
        hrs ▸ hx
      have hrs' : (r :: rs).Nodup := hrs ▸ hv.cache_nodup _
      have hr := hcache r (List.mem_cons_self r rs)
      apply valid_set hv
      · exact List.forall_mem_append.mpr ⟨fun x hx => hv.bucket_distance _ x
          (List.mem_of_mem_erase hx), List.forall_mem_singleton.mpr (hv.cache_distance _ r hr)⟩
      · exact fun x hx => hv.cache_distance _ x (hcache x (List.mem_cons_of_mem r hx))
      · exact ((hv.bucket_nodup _).erase n).append (List.nodup_singleton r)
          (List.disjoint_singleton.mpr fun h => hv.cache_disjoint _ r hr (List.mem_of_mem_erase h))
      · exact (List.nodup_cons.mp hrs').2
      · have := hv.bucket_length (t.bucketIndex n)
        rw [List.length_append, List.length_singleton]; omega
      · intro _
        have := hv.cache_full (t.bucketIndex n) (by simp [hrs])
        rw [List.length_append, List.length_singleton]; omega
      · intro x hx hx'
        rcases List.mem_append.mp hx' with hx' | hx'
        · exact hv.cache_disjoint _ x (hcache x (List.mem_cons_of_mem r hx))
            (List.mem_of_mem_erase hx')
        · exact (List.nodup_cons.mp hrs').1 (List.mem_singleton.mp hx' ▸ hx)
  · exact hv

/-- An entry at log distance `d ≥ 1`, by `get_nodes_at_log_distance(d)`, lies in bucket
`d - 1` and so at log distance `d` from the center. -/
theorem mem_getNodesAtLogDistance {t : KademliaRoutingTable} (hv : t.Valid) {d : Nat}
    (hd : 0 < d) {x : NodeId} (h : x ∈ t.getNodesAtLogDistance d) :
    x ∈ t.nodes ∧ computeLogDistance t.centerNodeId x = d := by
  unfold getNodesAtLogDistance at h
  split at h
  · refine ⟨mem_nodes.mpr ⟨_, h⟩, ?_⟩
    have := hv.bucket_distance _ x h
    simp only at this; omega
  · cases h


/-- A valid table files each entry under the bucket of its log distance. -/
theorem bucketIndex_of_mem {t : KademliaRoutingTable} (hv : t.Valid) {i : Fin 256} {x : NodeId}
    (h : x ∈ t.buckets i) : t.bucketIndex x = i := by
  have := hv.bucket_distance i x h
  ext; simp only [bucketIndex]; omega

theorem ne_center_of_mem {t : KademliaRoutingTable} (hv : t.Valid) {i : Fin 256} {x : NodeId}
    (h : x ∈ t.buckets i) : x ≠ t.centerNodeId := fun hx => by
  have := hv.bucket_distance i x h
  rw [hx, computeLogDistance_eq_zero_iff.mpr rfl] at this
  omega

/-- `update n` leaves `n` in the table, in its bucket or at the head of the bucket's
replacement cache, when a bucket holds at least one id. -/
theorem mem_allIds_update {t : KademliaRoutingTable} {n : NodeId} (hk : 0 < t.bucketSize)
    (hc : n ≠ t.centerNodeId) : n ∈ (t.update n).1.allIds := by
  refine mem_allIds.mpr ⟨t.bucketIndex n, ?_⟩
  obtain ⟨k, hk'⟩ := Nat.exists_eq_succ_of_ne_zero hk.ne'
  simp only [update, if_neg hc]
  split_ifs <;> simp [hk']

/-- `update` of an id already in its bucket moves it to the bucket's tail. -/
theorem update_of_mem {t : KademliaRoutingTable} {n : NodeId} (hc : n ≠ t.centerNodeId)
    (hm : n ∈ t.buckets (t.bucketIndex n)) :
    (t.update n).1 =
      { t with
        buckets := Function.update t.buckets (t.bucketIndex n)
          ((t.buckets (t.bucketIndex n)).erase n ++ [n]) } := by
  simp only [update, if_neg hc, if_pos hm]

/-- `update` of an id in its bucket keeps every id in place and makes the id its bucket's last. -/
theorem update_of_mem_spec {t : KademliaRoutingTable} {n : NodeId} (hc : n ≠ t.centerNodeId)
    (hm : n ∈ t.buckets (t.bucketIndex n)) :
    (∀ j y, y ∈ (t.update n).1.buckets j ↔ y ∈ t.buckets j) ∧
      (t.update n).1.replacementCaches = t.replacementCaches ∧
      ((t.update n).1.buckets (t.bucketIndex n)).getLast? = some n := by
  rw [update_of_mem hc hm]
  have hp : ((t.buckets (t.bucketIndex n)).erase n ++ [n]).Perm (t.buckets (t.bucketIndex n)) :=
    (List.perm_append_singleton _ _).trans (List.perm_cons_erase hm).symm
  refine ⟨fun j y => ?_, rfl, by simp⟩
  by_cases hj : j = t.bucketIndex n
  · subst hj; simpa using hp.mem_iff
  · simp [Function.update_noteq hj]

end KademliaRoutingTable

/-- Ids sorted by XOR distance to `target`, closest first. -/
def sortByDistance (target : NodeId) (ids : List NodeId) : List NodeId :=
  ids.insertionSort fun a b => computeDistance a target ≤ computeDistance b target

/-- Modelled from the spec: `iter_closest_nodes(target, routing_table, seen)` yields every
id of the table and of `seen` once, in ascending XOR distance to `target`. -/
def iterClosestNodes (target : NodeId) (table seen : List NodeId) : List NodeId :=
  sortByDistance target (table ++ seen).dedup

@[simp] theorem mem_iterClosestNodes {target x : NodeId} {table seen : List NodeId} :
    x ∈ iterClosestNodes target table seen ↔ x ∈ table ∨ x ∈ seen := by
  simp [iterClosestNodes, sortByDistance, (List.perm_insertionSort _ _).mem_iff]

theorem nodup_iterClosestNodes (target : NodeId) (table seen : List NodeId) :
    (iterClosestNodes target table seen).Nodup :=
  (List.perm_insertionSort _ _).nodup_iff.mpr (List.nodup_dedup _)

/-- `iter_closest_nodes` yields ids in strictly ascending XOR distance to the target: the
sort orders by distance, and distinct ids are at distinct distances. -/
theorem pairwise_iterClosestNodes (target : NodeId) (table seen : List NodeId) :
    (iterClosestNodes target table seen).Pairwise
      fun a b => computeDistance a target < computeDistance b target := by
  have hs : (iterClosestNodes target table seen).Sorted
      fun a b => computeDistance a target ≤ computeDistance b target := by
    haveI : IsTotal NodeId fun a b => computeDistance a target ≤ computeDistance b target :=
      ⟨fun _ _ => le_total _ _⟩
    haveI : IsTrans NodeId fun a b => computeDistance a target ≤ computeDistance b target :=
      ⟨fun _ _ _ => le_trans⟩
    exact List.sorted_insertionSort _ _
  exact (hs.and (nodup_iterClosestNodes target table seen)).imp fun h =>
    lt_of_le_of_ne h.1 fun he => h.2 (computeDistance_inj he)

end Ddht
