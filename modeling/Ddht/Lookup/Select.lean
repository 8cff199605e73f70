import Ddht.Lookup.Machine
import Mathlib.Data.Finset.Card

/-!
# Which ids a worker's round takes

`get_unqueried_node_ids` returns exactly the spec's set: of the `bucket_size` responsive known
ids closest to the target, the three closest not yet asked, closest first.
-/

namespace Ddht

namespace Lookup

/-- The `n` ids of `S` closest to `target`: those with fewer than `n` ids of `S` strictly closer. -/
def closestAmong (target : NodeId) (n : Nat) (S : Finset NodeId) : Finset NodeId :=
  S.filter fun x => (S.filter fun y => computeDistance y target < computeDistance x target).card < n

/-- The spec's candidates: the `bucket_size` ids of `routing_table ∪ received_node_ids`
closest to the target, the unresponsive left out. -/
def closestResponsiveSpec (cfg : Config) (s : State) (nodes : List NodeId) : Finset NodeId :=
  closestAmong cfg.target cfg.bucketSize
    ((nodes.toFinset ∪ s.receivedNodeIds.toFinset) \ s.unresponsiveNodeIds.toFinset)

/-- The spec's batch: of the candidates neither queried nor in flight, the three closest. -/
def unqueriedSpec (cfg : Config) (s : State) (nodes : List NodeId) : Finset NodeId :=
  closestAmong cfg.target 3
    (closestResponsiveSpec cfg s nodes \ (s.queriedNodeIds.toFinset ∪ s.inFlight.toFinset))

section Closest

variable {target : NodeId}

/-- In a list of strictly ascending distance, the first `n` are those with fewer than `n` closer. -/
theorem mem_take_iff_closer :
    ∀ {l : List NodeId} {n : Nat},
      l.Pairwise (fun a b => computeDistance a target < computeDistance b target) →
      ∀ {x : NodeId}, x ∈ l.take n ↔
        x ∈ l ∧ (l.filter fun y => computeDistance y target < computeDistance x target).length < n
  | [], _, _, _ => by simp
  | _ :: _, 0, _, _ => by simp
  | a :: l, n + 1, h, x => by
    obtain ⟨ha, hl⟩ := List.pairwise_cons.mp h
    rw [List.take_succ_cons, List.mem_cons, List.mem_cons, mem_take_iff_closer hl]
    by_cases hx : x = a
    · subst hx
      have hnone : (l.filter fun y => computeDistance y target < computeDistance x target) = [] :=
        List.filter_eq_nil_iff.mpr fun y hy hlt => by
          have := ha y hy
          simp only [decide_eq_true_eq] at hlt
          omega
      simp [hnone]
    · simp only [hx, false_or, List.filter_cons, decide_eq_true_eq]
      exact and_congr_right fun hxl => by rw [if_pos (ha x hxl), List.length_cons]; omega

theorem nodup_of_pairwise_closer {l : List NodeId}
    (h : l.Pairwise fun a b => computeDistance a target < computeDistance b target) : l.Nodup :=
  h.imp fun hlt he => by subst he; exact lt_irrefl _ hlt

/-- The first `n` of a list in strictly ascending distance are the `n` closest of its set. -/
theorem toFinset_take {l : List NodeId} {n : Nat}
    (h : l.Pairwise fun a b => computeDistance a target < computeDistance b target) :
    (l.take n).toFinset = closestAmong target n l.toFinset := by
  ext x
  have hcard : (l.filter fun y => computeDistance y target < computeDistance x target).length =
      (l.toFinset.filter fun y => computeDistance y target < computeDistance x target).card := by
    rw [← List.toFinset_card_of_nodup ((nodup_of_pairwise_closer h).filter _)]
    congr 1
    ext y
    simp
  rw [List.mem_toFinset, mem_take_iff_closer h, closestAmong, Finset.mem_filter,
    List.mem_toFinset, hcard]

end Closest

/-- `closest_k_candidates` is the spec's candidate set. -/
theorem toFinset_closestResponsive (cfg : Config) (s : State) (nodes : List NodeId) :
    (closestResponsive cfg s nodes).toFinset = closestResponsiveSpec cfg s nodes := by
  rw [closestResponsive, toFinset_take ((pairwise_iterClosestNodes _ _ _).filter _),
    closestResponsiveSpec]
  congr 1
  ext x
  simp

theorem pairwise_closestResponsive (cfg : Config) (s : State) (nodes : List NodeId) :
    (closestResponsive cfg s nodes).Pairwise
      fun a b => computeDistance a cfg.target < computeDistance b cfg.target :=
  ((pairwise_iterClosestNodes _ _ _).filter _).sublist (List.take_sublist _ _)

/-- `get_unqueried_node_ids` returns at most three distinct ids, closest first: exactly the
spec's batch, and nothing only when every candidate is queried or in flight. -/
theorem getUnqueriedNodeIds_spec (cfg : Config) (s : State) (nodes : List NodeId) :
    (getUnqueriedNodeIds cfg s nodes).length ≤ 3 ∧
      (getUnqueriedNodeIds cfg s nodes).Nodup ∧
      (getUnqueriedNodeIds cfg s nodes).Pairwise
        (fun a b => computeDistance a cfg.target < computeDistance b cfg.target) ∧
      (getUnqueriedNodeIds cfg s nodes).toFinset = unqueriedSpec cfg s nodes ∧
      (getUnqueriedNodeIds cfg s nodes = [] ↔
        closestResponsiveSpec cfg s nodes ⊆ s.queriedNodeIds.toFinset ∪ s.inFlight.toFinset) := by
  have hfilter := (pairwise_closestResponsive cfg s nodes).filter
    fun n => decide (n ∉ s.queriedNodeIds ∧ n ∉ s.inFlight)
  have hpair : (getUnqueriedNodeIds cfg s nodes).Pairwise
      (fun a b => computeDistance a cfg.target < computeDistance b cfg.target) :=
    hfilter.sublist (List.take_sublist _ _)
  refine ⟨List.length_take_le _ _, nodup_of_pairwise_closer hpair, hpair, ?_, ?_⟩
  · rw [getUnqueriedNodeIds, toFinset_take hfilter, unqueriedSpec,
      ← toFinset_closestResponsive]
    congr 1
    ext x
    simp [not_or]
  · rw [getUnqueriedNodeIds, List.take_eq_nil_iff, List.filter_eq_nil_iff,
      ← toFinset_closestResponsive]
    simp only [OfNat.ofNat_ne_zero, false_or, decide_eq_true_eq, not_and, not_not,
      Finset.subset_iff, List.mem_toFinset, Finset.mem_union, or_iff_not_imp_left,
      not_false_eq_true, true_implies]

end Lookup

end Ddht
