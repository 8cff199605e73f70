import Ddht.Kademlia

/-!
# The local ENR

`get_local_enr` and the set-up of `Application.run`. The private key is given by its public key
and the node id of the records it signs; signatures are not modelled. The routing table handed
to the services holds only bootnodes, each with a record in the database.
-/

namespace Ddht

namespace App

/-- What `get_local_enr` reads from `local_private_key`: its compressed public key, and the
node id the v4 scheme gives the records it signs. -/
structure PrivateKey where
  compressedPublicKey : List UInt8
  nodeId : NodeId

/-- `UnsignedENR(sequence_number, kv_pairs).to_signed_enr(private_key)`. -/
def toSignedEnr (privateKey : PrivateKey) (sequenceNumber : Nat)
    (kvPairs : List (String × EnrValue)) : Enr :=
  ⟨privateKey.nodeId, sequenceNumber, kvPairs⟩

/-- `toolz.merge(dict(a), dict(b))`: `a`'s keys, with `b`'s values, then `b`'s other keys. -/
def merge (a b : List (String × EnrValue)) : List (String × EnrValue) :=
  a.map (fun p => (p.1, (b.lookup p.1).getD p.2)) ++ b.filter fun p => (a.lookup p.1).isNone

/-- The pairs of `minimal_enr`. -/
def minimalKvPairs (privateKey : PrivateKey) (port : Nat) : List (String × EnrValue) :=
  [("id", .bytes [118, 52]), ("secp256k1", .bytes privateKey.compressedPublicKey),
    ("udp", .int port)]

/-- `get_local_enr(boot_info, node_db, local_private_key)` for `boot_info.port = port`. -/
def getLocalEnr (port : Nat) (nodeDb : EnrDb) (localPrivateKey : PrivateKey) : Enr :=
  let minimalEnr := toSignedEnr localPrivateKey 1 (minimalKvPairs localPrivateKey port)
  match nodeDb.getEnr minimalEnr.nodeId with
  | none => minimalEnr
  | some baseEnr =>
    if minimalEnr.kvPairs.any fun p => baseEnr.kvPairs.lookup p.1 != some p.2 then
      toSignedEnr localPrivateKey (baseEnr.sequenceNumber + 1)
        (merge baseEnr.kvPairs minimalEnr.kvPairs)
    else baseEnr

/-- The start of `Application.run`: the local ENR, and the database after the unguarded
`node_db.set_enr(local_enr)`; `none` is the `OldSequenceNumber` that would escape. -/
def storeLocalEnr (port : Nat) (nodeDb : EnrDb) (localPrivateKey : PrivateKey) :
    Option (Enr × EnrDb) :=
  let localEnr := getLocalEnr port nodeDb localPrivateKey
  (nodeDb.setEnr localEnr).map fun db => (localEnr, db)

/-- `record` has every pair of `kvPairs` with the same value. -/
def Holds (kvPairs : List (String × EnrValue)) (record : Enr) : Prop :=
  ∀ p ∈ kvPairs, record.kvPairs.lookup p.1 = some p.2

/-! ### Merging key/value pairs -/

theorem lookup_cons_of_ne {k k' : String} {v : EnrValue} {es : List (String × EnrValue)}
    (h : k ≠ k') : ((k', v) :: es).lookup k = es.lookup k := by
  rw [List.lookup_cons, beq_false_of_ne h]

theorem lookup_map_override (a b : List (String × EnrValue)) (k : String) :
    (a.map fun p => (p.1, (b.lookup p.1).getD p.2)).lookup k =
      (a.lookup k).map fun v => (b.lookup k).getD v := by
  induction a with
  | nil => rfl
  | cons p a ih =>
    obtain ⟨k', v⟩ := p
    by_cases hk : k = k'
    · subst hk; simp
    · simp only [List.map_cons, lookup_cons_of_ne hk, ih]

theorem lookup_filter_fresh (a b : List (String × EnrValue)) (k : String) :
    (b.filter fun p => (a.lookup p.1).isNone).lookup k =
      if (a.lookup k).isNone then b.lookup k else none := by
  induction b with
  | nil => simp
  | cons p b ih =>
    obtain ⟨k', v⟩ := p
    by_cases hk : k = k'
    · subst hk
      by_cases hn : (a.lookup k).isNone <;> simp [List.filter_cons, hn, ih]
    · simp only [List.filter_cons]
      split <;> simp only [lookup_cons_of_ne hk, ih]

/-- In `merge a b`, `b`'s value wins, and `a`'s stands for the keys `b` lacks. -/
theorem lookup_merge (a b : List (String × EnrValue)) (k : String) :
    (merge a b).lookup k = (b.lookup k).or (a.lookup k) := by
  rw [merge, List.lookup_append, lookup_map_override, lookup_filter_fresh]
  cases a.lookup k <;> cases b.lookup k <;> rfl

theorem any_ne_eq_false_iff {kvPairs : List (String × EnrValue)} {record : Enr} :
    (kvPairs.any fun p => record.kvPairs.lookup p.1 != some p.2) = false ↔
      Holds kvPairs record := by
  simp [Holds]

/-- The minimal pairs have distinct keys: each is found under its own key. -/
theorem lookup_minimalKvPairs (privateKey : PrivateKey) (port : Nat) :
    ∀ p ∈ minimalKvPairs privateKey port, (minimalKvPairs privateKey port).lookup p.1 = some p.2 := by
  simp [minimalKvPairs, List.lookup_cons]

theorem lookup_of_holds {kvPairs : List (String × EnrValue)} {record : Enr}
    (h : Holds kvPairs record) (k : String) :
    record.kvPairs.lookup k = (kvPairs.lookup k).or (record.kvPairs.lookup k) := by
  cases hk : kvPairs.lookup k with
  | none => rfl
  | some v =>
    obtain ⟨l₁, l₂, hl, -⟩ := List.lookup_eq_some_iff.mp hk
    exact h (k, v) (hl ▸ List.mem_append_right _ (List.mem_cons_self _ _))

/-! ### What `get_local_enr` returns -/

section

variable {port : Nat} {nodeDb : EnrDb} {localPrivateKey : PrivateKey}

theorem getLocalEnr_of_none (h : nodeDb.getEnr localPrivateKey.nodeId = none) :
    getLocalEnr port nodeDb localPrivateKey =
      toSignedEnr localPrivateKey 1 (minimalKvPairs localPrivateKey port) := by
  simp only [getLocalEnr, toSignedEnr, h]

theorem getLocalEnr_of_holds {base : Enr} (h : nodeDb.getEnr localPrivateKey.nodeId = some base)
    (hb : Holds (minimalKvPairs localPrivateKey port) base) :
    getLocalEnr port nodeDb localPrivateKey = base := by
  simp only [getLocalEnr, toSignedEnr, h]
  rw [if_neg (Bool.eq_false_iff.mp (any_ne_eq_false_iff.mpr hb))]

theorem getLocalEnr_of_not_holds {base : Enr}
    (h : nodeDb.getEnr localPrivateKey.nodeId = some base)
    (hb : ¬ Holds (minimalKvPairs localPrivateKey port) base) :
    getLocalEnr port nodeDb localPrivateKey =
      toSignedEnr localPrivateKey (base.sequenceNumber + 1)
        (merge base.kvPairs (minimalKvPairs localPrivateKey port)) := by
  simp only [getLocalEnr, toSignedEnr, h]
  rw [if_pos (eq_true_of_ne_false (mt any_ne_eq_false_iff.mp hb))]

/-- The three branches of `get_local_enr`. -/
theorem getLocalEnr_cases :
    (nodeDb.getEnr localPrivateKey.nodeId = none ∧
        getLocalEnr port nodeDb localPrivateKey =
          toSignedEnr localPrivateKey 1 (minimalKvPairs localPrivateKey port)) ∨
      ∃ b, nodeDb.getEnr localPrivateKey.nodeId = some b ∧
        (Holds (minimalKvPairs localPrivateKey port) b ∧ getLocalEnr port nodeDb localPrivateKey = b ∨
          ¬ Holds (minimalKvPairs localPrivateKey port) b ∧
            getLocalEnr port nodeDb localPrivateKey =
              toSignedEnr localPrivateKey (b.sequenceNumber + 1)
                (merge b.kvPairs (minimalKvPairs localPrivateKey port))) := by
  cases hdb : nodeDb.getEnr localPrivateKey.nodeId with
  | none => exact .inl ⟨rfl, getLocalEnr_of_none hdb⟩
  | some b =>
    by_cases hh : Holds (minimalKvPairs localPrivateKey port) b
    · exact .inr ⟨b, rfl, .inl ⟨hh, getLocalEnr_of_holds hdb hh⟩⟩
    · exact .inr ⟨b, rfl, .inr ⟨hh, getLocalEnr_of_not_holds hdb hh⟩⟩

theorem getLocalEnr_nodeId :
    (getLocalEnr port nodeDb localPrivateKey).nodeId = localPrivateKey.nodeId := by
  rcases getLocalEnr_cases with ⟨-, hr⟩ | ⟨b, hb, ⟨-, hr⟩ | ⟨-, hr⟩⟩ <;> rw [hr]
  · rfl
  · exact EnrDb.getEnr_nodeId hb
  · rfl

/-- The local ENR's pairs are the stored record's with the minimal pairs over them. -/
theorem lookup_getLocalEnr (k : String) :
    (getLocalEnr port nodeDb localPrivateKey).kvPairs.lookup k =
      ((minimalKvPairs localPrivateKey port).lookup k).or
        ((nodeDb.getEnr localPrivateKey.nodeId).bind fun b => b.kvPairs.lookup k) := by
  rcases getLocalEnr_cases with ⟨hdb, hr⟩ | ⟨b, hdb, ⟨hh, hr⟩ | ⟨-, hr⟩⟩ <;> rw [hr, hdb]
  · exact Option.or_none.symm
  · exact lookup_of_holds hh k
  · exact lookup_merge _ _ k

theorem holds_getLocalEnr :
    Holds (minimalKvPairs localPrivateKey port) (getLocalEnr port nodeDb localPrivateKey) :=
  fun p hp => by rw [lookup_getLocalEnr, lookup_minimalKvPairs localPrivateKey port p hp, Option.or_some]

theorem sequenceNumber_le_getLocalEnr {b : Enr}
    (h : nodeDb.getEnr localPrivateKey.nodeId = some b) :
    b.sequenceNumber ≤ (getLocalEnr port nodeDb localPrivateKey).sequenceNumber := by
  by_cases hh : Holds (minimalKvPairs localPrivateKey port) b
  · rw [getLocalEnr_of_holds h hh]
  · rw [getLocalEnr_of_not_holds h hh]
    exact Nat.le_succ _

/-- Storing the local ENR succeeds, and the next `get_local_enr` returns it again. -/
theorem storeLocalEnr_again :
    ∃ nodeDb', storeLocalEnr port nodeDb localPrivateKey =
        some (getLocalEnr port nodeDb localPrivateKey, nodeDb') ∧
      getLocalEnr port nodeDb' localPrivateKey = getLocalEnr port nodeDb localPrivateKey := by
  obtain ⟨db', hset, hget⟩ := @EnrDb.setEnr_of_le nodeDb (getLocalEnr port nodeDb localPrivateKey)
    fun _ h => sequenceNumber_le_getLocalEnr (by rwa [getLocalEnr_nodeId] at h)
  rw [getLocalEnr_nodeId] at hget
  exact ⟨db', by rw [storeLocalEnr, hset]; rfl, getLocalEnr_of_holds hget holds_getLocalEnr⟩

end

/-- `get_local_enr` returns a record of the key's node id: the stored one when it has the minimal
pairs, else one sequence number up (1 if none is stored); stored, it is returned unchanged. -/
theorem getLocalEnr_spec (port : Nat) (nodeDb : EnrDb) (localPrivateKey : PrivateKey) :
    (getLocalEnr port nodeDb localPrivateKey).nodeId = localPrivateKey.nodeId ∧
      (∀ k, (getLocalEnr port nodeDb localPrivateKey).kvPairs.lookup k =
        ((minimalKvPairs localPrivateKey port).lookup k).or
          ((nodeDb.getEnr localPrivateKey.nodeId).bind fun b => b.kvPairs.lookup k)) ∧
      (nodeDb.getEnr localPrivateKey.nodeId = none →
        (getLocalEnr port nodeDb localPrivateKey).sequenceNumber = 1) ∧
      (∀ b, nodeDb.getEnr localPrivateKey.nodeId = some b →
        ((∀ p ∈ minimalKvPairs localPrivateKey port, b.kvPairs.lookup p.1 = some p.2) →
          getLocalEnr port nodeDb localPrivateKey = b) ∧
        (¬ (∀ p ∈ minimalKvPairs localPrivateKey port, b.kvPairs.lookup p.1 = some p.2) →
          (getLocalEnr port nodeDb localPrivateKey).sequenceNumber = b.sequenceNumber + 1) ∧
        b.sequenceNumber ≤ (getLocalEnr port nodeDb localPrivateKey).sequenceNumber) ∧
      ∃ nodeDb', storeLocalEnr port nodeDb localPrivateKey =
          some (getLocalEnr port nodeDb localPrivateKey, nodeDb') ∧
        getLocalEnr port nodeDb' localPrivateKey = getLocalEnr port nodeDb localPrivateKey :=
  ⟨getLocalEnr_nodeId, lookup_getLocalEnr,
    fun h => by rw [getLocalEnr_of_none h]; rfl,
    fun _ hb => ⟨getLocalEnr_of_holds hb, fun hh => by rw [getLocalEnr_of_not_holds hb hh]; rfl,
      sequenceNumber_le_getLocalEnr hb⟩,
    storeLocalEnr_again⟩

/-! ### Booting -/

/-- `Application.run`'s bootnode loop: `set_enr(enr)`, `OldSequenceNumber` ignored, then
`routing_table.update(enr.node_id)` whether or not the record was stored. -/
def addBootnodes (routingTable : KademliaRoutingTable) (nodeDb : EnrDb) :
    List Enr → KademliaRoutingTable × EnrDb
  | [] => (routingTable, nodeDb)
  | enr :: rest => addBootnodes (routingTable.update enr.nodeId).1 (nodeDb.store enr) rest

/-- `Application.run` up to its services, with buckets of `bucketSize` (not under `src/`): the
local ENR, routing table and database; `none` is the `OldSequenceNumber` of the local ENR. -/
def run (port bucketSize : Nat) (nodeDb : EnrDb) (localPrivateKey : PrivateKey)
    (bootnodes : List Enr) : Option (Enr × KademliaRoutingTable × EnrDb) :=
  (storeLocalEnr port nodeDb localPrivateKey).map fun p =>
    (p.1, addBootnodes (.empty p.1.nodeId bucketSize) p.2 bootnodes)

theorem addBootnodes_snd :
    ∀ (bootnodes : List Enr) (t : KademliaRoutingTable) (db : EnrDb),
      (addBootnodes t db bootnodes).2 = bootnodes.foldl EnrDb.store db
  | [], _, _ => rfl
  | _ :: rest, _, _ => addBootnodes_snd rest _ _

/-- The bootnode loop keeps the table valid around its centre, and adds only bootnodes. -/
theorem addBootnodes_table :
    ∀ (bootnodes : List Enr) (t : KademliaRoutingTable) (db : EnrDb), t.Valid →
      (addBootnodes t db bootnodes).1.Valid ∧
        (addBootnodes t db bootnodes).1.centerNodeId = t.centerNodeId ∧
        (addBootnodes t db bootnodes).1.bucketSize = t.bucketSize ∧
        ∀ x ∈ (addBootnodes t db bootnodes).1.allIds, x ∈ t.allIds ∨ ∃ e ∈ bootnodes, e.nodeId = x
  | [], _, _, hv => ⟨hv, rfl, rfl, fun _ hx => .inl hx⟩
  | enr :: rest, t, db, hv => by
    obtain ⟨hv', hc, hk, hids⟩ := addBootnodes_table rest (t.update enr.nodeId).1 (db.store enr)
      (KademliaRoutingTable.update_valid hv _)
    refine ⟨hv', hc.trans (KademliaRoutingTable.update_centerNodeId _ _),
      hk.trans (KademliaRoutingTable.update_bucketSize _ _), fun x hx => ?_⟩
    rcases hids x hx with hx | ⟨e, he, h⟩
    · rcases KademliaRoutingTable.allIds_update hx with rfl | hx
      · exact .inr ⟨enr, .head _, rfl⟩
      · exact .inl hx
    · exact .inr ⟨e, .tail _ he, h⟩

/-- `Application.run` lets no `OldSequenceNumber` escape. It hands its services a valid table
centred on the local id whose ids are bootnodes with records, and a database holding records at
least as new as the local ENR and every bootnode's. -/
theorem run_spec (port bucketSize : Nat) (nodeDb : EnrDb) (localPrivateKey : PrivateKey)
    (bootnodes : List Enr) :
    ∃ localEnr routingTable db,
      run port bucketSize nodeDb localPrivateKey bootnodes = some (localEnr, routingTable, db) ∧
      localEnr = getLocalEnr port nodeDb localPrivateKey ∧
      routingTable.Valid ∧ routingTable.centerNodeId = localEnr.nodeId ∧
      routingTable.bucketSize = bucketSize ∧
      (∀ x ∈ routingTable.allIds, db.Has x ∧ ∃ e ∈ bootnodes, e.nodeId = x) ∧
      ∀ e ∈ localEnr :: bootnodes,
        ∃ r, db.getEnr e.nodeId = some r ∧ e.sequenceNumber ≤ r.sequenceNumber := by
  set localEnr := getLocalEnr port nodeDb localPrivateKey
  obtain ⟨db₁, hset, hget₁⟩ := @EnrDb.setEnr_of_le nodeDb localEnr
    fun _ h => sequenceNumber_le_getLocalEnr (by rwa [getLocalEnr_nodeId] at h)
  obtain ⟨hv, hc, hk, hids⟩ := addBootnodes_table bootnodes (.empty localEnr.nodeId bucketSize) db₁
    (KademliaRoutingTable.empty_valid _ _)
  have hdb := addBootnodes_snd bootnodes (.empty localEnr.nodeId bucketSize) db₁
  have hrec := EnrDb.foldl_store_self bootnodes db₁
  refine ⟨localEnr, _, _, by simp only [run, storeLocalEnr, hset]; rfl, rfl, hv, hc, hk,
    fun x hx => ?_, ?_⟩
  · rcases hids x hx with hx | ⟨e, he, rfl⟩
    · obtain ⟨i, hi | hi⟩ := KademliaRoutingTable.mem_allIds.mp hx <;>
        exact absurd hi (List.not_mem_nil _)
    · obtain ⟨r, hr, -⟩ := hrec e he
      exact ⟨hdb ▸ EnrDb.has_of_getEnr hr, e, he, rfl⟩
  · rintro e (_ | ⟨_, he⟩)
    · exact hdb ▸ EnrDb.newer_foldl_store bootnodes db₁ localEnr.nodeId localEnr hget₁
    · exact hdb ▸ hrec e he

end App

end Ddht
