import Mathlib.Data.Nat.Size
import Mathlib.Data.Nat.Bitwise
import Mathlib.Data.List.Dedup

/-!
# Node ids, ENRs and the ENR database

A node id is a `BitVec 256`. `ddht.kademlia` and `eth_enr` are not under `src/`: `log_distance`
and `set_enr`, which rejects an older sequence number, are modelled from the spec.
-/

namespace Ddht

/-- A 32-byte node id. -/
abbrev NodeId := BitVec 256

/-- Bit length of `n`, halving at most `fuel` times. -/
def bitLength : Nat → Nat → Nat
  | 0, _ => 0
  | fuel + 1, n => if n = 0 then 0 else bitLength fuel (n / 2) + 1

theorem bitLength_eq_size (fuel n : Nat) (h : n < 2 ^ fuel) : bitLength fuel n = n.size := by
  induction fuel generalizing n with
  | zero => simp_all [bitLength]
  | succ fuel ih =>
    by_cases hn : n = 0
    · simp [bitLength, hn]
    · rw [bitLength, if_neg hn, ih (n / 2) (by rw [pow_succ] at h; omega)]
      conv_rhs => rw [← Nat.bit_decide_mod_two_eq_one_shiftRight_one n]
      rw [Nat.size_bit (by rw [Nat.bit_decide_mod_two_eq_one_shiftRight_one]; exact hn)]
      simp [Nat.shiftRight_one]

/-- `compute_distance`: the XOR metric. -/
def computeDistance (a b : NodeId) : Nat := (a ^^^ b).toNat

/-- Modelled from the spec: `compute_log_distance`, `⌊log₂(a ⊕ b)⌋ + 1`, and `0` for equal ids. -/
def computeLogDistance (a b : NodeId) : Nat := bitLength 256 (computeDistance a b)

theorem computeDistance_comm (a b : NodeId) : computeDistance a b = computeDistance b a := by
  rw [computeDistance, computeDistance, BitVec.xor_comm]

theorem computeDistance_eq_zero_iff {a b : NodeId} : computeDistance a b = 0 ↔ a = b := by
  rw [computeDistance, BitVec.toNat_xor, Nat.xor_eq_zero]
  exact ⟨BitVec.eq_of_toNat_eq, fun h => h ▸ rfl⟩

/-- For a fixed target the XOR metric tells ids apart. -/
theorem computeDistance_inj {a b t : NodeId} (h : computeDistance a t = computeDistance b t) :
    a = b := by
  rw [computeDistance, computeDistance, BitVec.toNat_xor, BitVec.toNat_xor,
    Nat.xor_comm a.toNat, Nat.xor_comm b.toNat, Nat.xor_right_inj] at h
  exact BitVec.eq_of_toNat_eq h

theorem computeLogDistance_eq_size (a b : NodeId) :
    computeLogDistance a b = (computeDistance a b).size :=
  bitLength_eq_size 256 _ (a ^^^ b).isLt

theorem computeLogDistance_comm (a b : NodeId) :
    computeLogDistance a b = computeLogDistance b a := by
  unfold computeLogDistance; rw [computeDistance_comm]

@[simp] theorem computeLogDistance_eq_zero_iff {a b : NodeId} :
    computeLogDistance a b = 0 ↔ a = b := by
  rw [computeLogDistance_eq_size, Nat.size_eq_zero, computeDistance_eq_zero_iff]

theorem computeLogDistance_le (a b : NodeId) : computeLogDistance a b ≤ 256 := by
  rw [computeLogDistance_eq_size]
  exact Nat.size_le.mpr (a ^^^ b).isLt

theorem testBit_of_two_pow_le {a k : Nat} (h1 : 2 ^ k ≤ a) (h2 : a < 2 ^ (k + 1)) :
    a.testBit k = true := by
  obtain ⟨a', rfl⟩ := Nat.exists_eq_add_of_le h1
  rw [Nat.testBit_two_pow_add_eq, Nat.testBit_lt_two_pow (by rw [pow_succ] at h2; omega)]
  rfl

/-- Two numbers of bit length `k + 1` share their top bit, so their XOR is below `2 ^ k`. -/
theorem xor_lt_of_same_top {a b k : Nat} (ha1 : 2 ^ k ≤ a) (ha2 : a < 2 ^ (k + 1))
    (hb1 : 2 ^ k ≤ b) (hb2 : b < 2 ^ (k + 1)) : a ^^^ b < 2 ^ k :=
  Nat.lt_pow_two_of_testBit _ fun i hi => by
    rw [Nat.testBit_xor]
    rcases Nat.eq_or_lt_of_le hi with rfl | hlt
    · rw [testBit_of_two_pow_le ha1 ha2, testBit_of_two_pow_le hb1 hb2]; rfl
    · have hle : 2 ^ (k + 1) ≤ 2 ^ i := Nat.pow_le_pow_right Nat.zero_lt_two hlt
      rw [Nat.testBit_lt_two_pow (by omega), Nat.testBit_lt_two_pow (by omega)]; rfl

/-- An id at the same log distance from `q` as `t` is strictly closer to `t` than `q` is: the
shared top bit cancels, so asking `q` for `t`'s bucket only yields ids closer to `t`. -/
theorem computeLogDistance_lt_of_eq {q x t : NodeId} (hqt : q ≠ t)
    (h : computeLogDistance q x = computeLogDistance q t) :
    computeLogDistance x t < computeLogDistance q t := by
  have hd : computeLogDistance q t ≠ 0 := by rwa [Ne, computeLogDistance_eq_zero_iff]
  simp only [computeLogDistance_eq_size] at h hd ⊢
  obtain ⟨k, hk⟩ := Nat.exists_eq_succ_of_ne_zero hd
  have hxt : computeDistance x t = computeDistance q x ^^^ computeDistance q t := by
    simp only [computeDistance, ← BitVec.toNat_xor]
    congr 1
    rw [BitVec.xor_assoc, ← BitVec.xor_assoc x, BitVec.xor_comm x q, BitVec.xor_assoc,
      ← BitVec.xor_assoc q q, BitVec.xor_self, BitVec.zero_xor]
  have bounds : ∀ n : Nat, n.size = k + 1 → 2 ^ k ≤ n ∧ n < 2 ^ (k + 1) := fun n hn =>
    ⟨Nat.lt_size.mp (by omega), Nat.size_le.mp hn.le⟩
  obtain ⟨ha1, ha2⟩ := bounds _ (h.trans hk)
  obtain ⟨hb1, hb2⟩ := bounds _ hk
  rw [hk, hxt, Nat.lt_succ_iff, Nat.size_le]
  exact xor_lt_of_same_top ha1 ha2 hb1 hb2

/-- An ENR value: `eth_enr` stores byte strings and integers. -/
inductive EnrValue where
  | bytes (b : List UInt8)
  | int (n : Nat)
  deriving DecidableEq, Repr

/-- A signed node record; the signature itself is not modelled. -/
structure Enr where
  nodeId : NodeId
  sequenceNumber : Nat
  kvPairs : List (String × EnrValue)
  deriving DecidableEq, Repr

/-- An `(ip, port)` pair, as `ddht.endpoint.Endpoint` holds it. -/
structure Endpoint where
  ipAddress : EnrValue
  port : EnrValue
  deriving DecidableEq, Repr

/-- The exceptions the network layer raises or catches. -/
inductive NetError where
  /-- `trio.TooSlowError`: no response in time. -/
  | tooSlow
  /-- `MissingEndpointFields`: the ENR has no `ip` or no `udp` entry. -/
  | missingEndpointFields
  /-- `eth_utils.ValidationError`, raised by `validate_found_nodes_distances`. -/
  | validationError
  /-- `EmptyFindNodesResponse`: the peer did not return its ENR. -/
  | emptyFindNodesResponse
  /-- `KeyError`, e.g. "Could not find ENR". -/
  | keyError
  /-- `Exception("Cannot lookup local ENR")`. -/
  | lookupLocal
  /-- `TypeError("Must provide at least one distance")`. -/
  | noDistance
  /-- `Exception("Should be unreachable")`. -/
  | unreachable
  /-- `IndexError` from indexing an empty sequence. -/
  | indexError
  deriving DecidableEq, Repr

/-- Outcomes of the modelled calls are compared by value. -/
instance exceptDecidableEq {ε α : Type} [DecidableEq ε] [DecidableEq α] :
    DecidableEq (Except ε α)
  | .ok a, .ok b =>
    if h : a = b then isTrue (h ▸ rfl) else isFalse fun e => h (Except.ok.inj e)
  | .error a, .error b =>
    if h : a = b then isTrue (h ▸ rfl) else isFalse fun e => h (Except.error.inj e)
  | .ok _, .error _ => isFalse fun e => Except.noConfusion e
  | .error _, .ok _ => isFalse fun e => Except.noConfusion e

/-- `Endpoint.from_enr`: read the `ip` and `udp` entries. -/
def Endpoint.fromEnr (enr : Enr) : Except NetError Endpoint :=
  match enr.kvPairs.lookup "ip", enr.kvPairs.lookup "udp" with
  | some ip, some port => .ok ⟨ip, port⟩
  | _, _ => .error .missingEndpointFields

/-- Modelled from the spec: the ENR database, a node-id keyed record store. -/
structure EnrDb where
  records : List Enr
  deriving Repr

namespace EnrDb

/-- `get_enr`; `none` is the `KeyError`. -/
def getEnr (db : EnrDb) (n : NodeId) : Option Enr := db.records.find? (·.nodeId = n)

/-- Modelled from the spec: `set_enr`; `none` is `OldSequenceNumber`, for a newer stored record. -/
def setEnr (db : EnrDb) (e : Enr) : Option EnrDb :=
  match db.getEnr e.nodeId with
  | some old =>
    if e.sequenceNumber < old.sequenceNumber then none
    else some ⟨e :: db.records.filter (·.nodeId ≠ e.nodeId)⟩
  | none => some ⟨e :: db.records⟩

/-- `try: set_enr(e) except OldSequenceNumber: pass`, the way every caller uses it. -/
def store (db : EnrDb) (e : Enr) : EnrDb := (db.setEnr e).getD db

/-- `node_id` is a key of the database. -/
def Has (db : EnrDb) (n : NodeId) : Prop := (db.getEnr n).isSome

instance (db : EnrDb) (n : NodeId) : Decidable (db.Has n) :=
  inferInstanceAs (Decidable ((db.getEnr n).isSome = true))

theorem getEnr_nodeId {db : EnrDb} {n : NodeId} {e : Enr} (h : db.getEnr n = some e) :
    e.nodeId = n := by
  simpa using List.find?_some h

theorem has_of_getEnr {db : EnrDb} {n : NodeId} {e : Enr} (h : db.getEnr n = some e) :
    db.Has n := by
  simp [Has, h]

theorem getEnr_cons (e : Enr) (rs : List Enr) (n : NodeId) :
    getEnr ⟨e :: rs⟩ n = if e.nodeId = n then some e else getEnr ⟨rs⟩ n := by
  by_cases h : e.nodeId = n <;> simp [getEnr, List.find?_cons, h]

theorem getEnr_filter_ne (rs : List Enr) (m n : NodeId) (h : n ≠ m) :
    getEnr ⟨rs.filter (·.nodeId ≠ m)⟩ n = getEnr ⟨rs⟩ n := by
  induction rs with
  | nil => rfl
  | cons r rs ih =>
    by_cases hr : r.nodeId = m
    · have : r.nodeId ≠ n := by rw [hr]; exact Ne.symm h
      rw [getEnr_cons, if_neg this, ← ih, List.filter_cons_of_neg (by simpa using hr)]
    · rw [List.filter_cons_of_pos (by simpa using hr), getEnr_cons, getEnr_cons, ih]

/-- What `store` leaves under each key: the new record under its id if accepted, else the old. -/
theorem getEnr_store (db : EnrDb) (e : Enr) (n : NodeId) :
    (db.store e).getEnr n =
      if n = e.nodeId ∧ (db.setEnr e).isSome then some e else db.getEnr n := by
  unfold store setEnr
  split
  · split
    · simp
    · by_cases h : n = e.nodeId
      · subst h; simp [getEnr_cons]
      · rw [Option.getD_some, getEnr_cons, if_neg (Ne.symm h), getEnr_filter_ne _ _ _ h]
        simp [h]
  · by_cases h : n = e.nodeId
    · subst h; simp [getEnr_cons]
    · simp [getEnr_cons, Ne.symm h, h]

/-- `set_enr(e)` succeeds unless the stored record is newer, and then stores `e` under its id. -/
theorem setEnr_of_le {db : EnrDb} {e : Enr}
    (h : ∀ old, db.getEnr e.nodeId = some old → old.sequenceNumber ≤ e.sequenceNumber) :
    ∃ db', db.setEnr e = some db' ∧ db'.getEnr e.nodeId = some e := by
  unfold setEnr
  split
  · rename_i old hold
    rw [if_neg (Nat.not_lt.mpr (h old hold))]
    exact ⟨_, rfl, by simp [getEnr_cons]⟩
  · exact ⟨_, rfl, by simp [getEnr_cons]⟩

/-- After `store e` the database holds a record for `e`'s node id that is at least as new as `e`. -/
theorem store_self (db : EnrDb) (e : Enr) :
    ∃ r, (db.store e).getEnr e.nodeId = some r ∧ e.sequenceNumber ≤ r.sequenceNumber := by
  rw [getEnr_store]
  cases hs : db.setEnr e with
  | some _ => exact ⟨e, by simp, le_rfl⟩
  | none =>
    unfold setEnr at hs
    split at hs
    · rename_i old hold
      refine ⟨old, by simpa using hold, ?_⟩
      split at hs
      · omega
      · cases hs
    · cases hs

/-- `store` never drops a key, and adds only the stored record's. -/
theorem has_store_iff {db : EnrDb} {e : Enr} {n : NodeId} :
    (db.store e).Has n ↔ n = e.nodeId ∨ db.Has n := by
  constructor
  · intro h
    by_cases hn : n = e.nodeId
    · exact .inl hn
    · simpa [Has, getEnr_store, hn] using h
  · rintro (rfl | h)
    · obtain ⟨r, hr, -⟩ := store_self db e
      exact has_of_getEnr hr
    · by_cases hn : n = e.nodeId
      · subst hn
        obtain ⟨r, hr, -⟩ := store_self db e
        exact has_of_getEnr hr
      · simpa [Has, getEnr_store, hn] using h

theorem has_store_of_has {db : EnrDb} {e : Enr} {n : NodeId} (h : db.Has n) :
    (db.store e).Has n :=
  has_store_iff.mpr (.inr h)

/-- Storing ENRs one after another keeps every key and adds theirs. -/
theorem has_foldl_store {found : List Enr} {db : EnrDb} {n : NodeId} :
    (found.foldl store db).Has n ↔ (∃ e ∈ found, n = e.nodeId) ∨ db.Has n := by
  induction found generalizing db with
  | nil => simp
  | cons e es ih =>
    rw [List.foldl_cons, ih, has_store_iff]
    simp only [List.mem_cons, exists_eq_or_imp, or_assoc, or_left_comm]

/-- `db'` holds a record of every node `db` holds, at least as new. -/
def Newer (db db' : EnrDb) : Prop :=
  ∀ n r, db.getEnr n = some r →
    ∃ r', db'.getEnr n = some r' ∧ r.sequenceNumber ≤ r'.sequenceNumber

theorem Newer.refl (db : EnrDb) : db.Newer db := fun _ r h => ⟨r, h, le_rfl⟩

theorem Newer.trans {db₁ db₂ db₃ : EnrDb} (h₁ : db₁.Newer db₂) (h₂ : db₂.Newer db₃) :
    db₁.Newer db₃ := fun n r h => by
  obtain ⟨r', h', hle⟩ := h₁ n r h
  obtain ⟨r'', h'', hle'⟩ := h₂ n r' h'
  exact ⟨r'', h'', hle.trans hle'⟩

/-- `store` drops no record and lowers no sequence number. -/
theorem newer_store (db : EnrDb) (e : Enr) : db.Newer (db.store e) := fun n r h => by
  rw [getEnr_store]
  split_ifs with hn
  · obtain ⟨rfl, hs⟩ := hn
    refine ⟨e, rfl, ?_⟩
    simp only [setEnr, h] at hs
    split_ifs at hs with hlt
    · cases hs
    · exact Nat.not_lt.mp hlt
  · exact ⟨r, h, le_rfl⟩

theorem newer_foldl_store (found : List Enr) (db : EnrDb) : db.Newer (found.foldl store db) := by
  induction found generalizing db with
  | nil => exact .refl db
  | cons e es ih => exact (newer_store db e).trans (ih _)

/-- After storing each of `es`, the database holds a record of each one's node at least as new. -/
theorem foldl_store_self (es : List Enr) (db : EnrDb) :
    ∀ e ∈ es, ∃ r, (es.foldl store db).getEnr e.nodeId = some r ∧
      e.sequenceNumber ≤ r.sequenceNumber := by
  induction es generalizing db with
  | nil => exact fun _ h => absurd h (List.not_mem_nil _)
  | cons e es ih =>
    rintro x (_ | ⟨_, hx⟩)
    · obtain ⟨r, hget, hle⟩ := store_self db e
      obtain ⟨r', hget', hle'⟩ := newer_foldl_store es (db.store e) e.nodeId r hget
      exact ⟨r', hget', hle.trans hle'⟩
    · exact ih (db.store e) x hx

end EnrDb

end Ddht
