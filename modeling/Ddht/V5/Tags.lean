import Mathlib.Data.List.Basic

/-!
# Packet tags

A packet's tag is `sha256(destination) ⊕ source`. The hash is a parameter with 32-byte digests,
and `sxor` is modelled from the spec.
-/

namespace Ddht

namespace V5

/-- Modelled from the spec: `sxor(s1, s2)`, the byte-wise XOR of two byte strings. -/
def sxor (s1 s2 : List UInt8) : List UInt8 := List.zipWith (· ^^^ ·) s1 s2

/-- `hashlib.sha256(·).digest()`: any function whose digests are 32 bytes long. -/
structure Sha256 where
  digest : List UInt8 → List UInt8
  length_digest : ∀ m, (digest m).length = 32

/-- `compute_tag(source_node_id, destination_node_id)`. -/
def computeTag (sha256 : Sha256) (sourceNodeId destinationNodeId : List UInt8) : List UInt8 :=
  sxor (sha256.digest destinationNodeId) sourceNodeId

/-- `recover_source_id_from_tag(tag, destination_node_id)`. -/
def recoverSourceIdFromTag (sha256 : Sha256) (tag destinationNodeId : List UInt8) :
    List UInt8 :=
  sxor tag (sha256.digest destinationNodeId)

@[simp] theorem sxor_cons (a b : UInt8) (as bs : List UInt8) :
    sxor (a :: as) (b :: bs) = (a ^^^ b) :: sxor as bs := rfl

theorem length_sxor (s1 s2 : List UInt8) : (sxor s1 s2).length = min s1.length s2.length :=
  List.length_zipWith _ _ _

/-- XOR-ing a byte twice with `h`, on either side, gives it back. -/
theorem xor_xor_self_left (h b : UInt8) : h ^^^ b ^^^ h = b := by
  obtain ⟨h⟩ := h
  obtain ⟨b⟩ := b
  show UInt8.mk (h ^^^ b ^^^ h) = UInt8.mk b
  rw [BitVec.xor_comm h b, BitVec.xor_assoc, BitVec.xor_self, BitVec.xor_zero]

theorem xor_xor_self_right (h b : UInt8) : h ^^^ (b ^^^ h) = b := by
  obtain ⟨h⟩ := h
  obtain ⟨b⟩ := b
  show UInt8.mk (h ^^^ (b ^^^ h)) = UInt8.mk b
  rw [BitVec.xor_comm b h, ← BitVec.xor_assoc, BitVec.xor_self, BitVec.zero_xor]

/-- Undoing `sxor h` from the right, on strings as long as `h`. -/
theorem sxor_sxor_left : ∀ {h s : List UInt8}, h.length = s.length → sxor (sxor h s) h = s
  | [], [], _ => rfl
  | x :: h, y :: s, hl => by
    rw [sxor_cons, sxor_cons, xor_xor_self_left, sxor_sxor_left (Nat.succ.inj hl)]

/-- Undoing `sxor · h` from the left, on strings as long as `h`. -/
theorem sxor_sxor_right : ∀ {h t : List UInt8}, h.length = t.length → sxor h (sxor t h) = t
  | [], [], _ => rfl
  | x :: h, y :: t, hl => by
    rw [sxor_cons, sxor_cons, xor_xor_self_right, sxor_sxor_right (Nat.succ.inj hl)]

/-- For each destination, `compute_tag(·, d)` and its recovery are inverse on 32-byte strings. -/
theorem recoverSourceIdFromTag_inverse (sha256 : Sha256) (s d t : List UInt8)
    (hs : s.length = 32) (ht : t.length = 32) :
    recoverSourceIdFromTag sha256 (computeTag sha256 s d) d = s ∧
      computeTag sha256 (recoverSourceIdFromTag sha256 t d) d = t ∧
      (computeTag sha256 s d).length = 32 ∧ (recoverSourceIdFromTag sha256 t d).length = 32 := by
  have hd := sha256.length_digest d
  refine ⟨sxor_sxor_left (hd.trans hs.symm), sxor_sxor_right (hd.trans ht.symm), ?_, ?_⟩
  · rw [computeTag, length_sxor, hd, hs, min_self]
  · rw [recoverSourceIdFromTag, length_sxor, hd, ht, min_self]

/-- A stand-in digest for a concrete run: byte `i` is `i` plus the message's length. -/
def countingDigest : Sha256 :=
  ⟨fun m => (List.range 32).map fun i => (i + m.length).toUInt8, fun _ => by simp⟩

/-- With a digest of non-zero bytes the tag is not the source, and both maps undo each other. -/
theorem recoverSourceIdFromTag_inverse_on_ones :
    (List.replicate 32 (1 : UInt8)).length = 32 ∧ (List.replicate 32 (2 : UInt8)).length = 32 ∧
      computeTag countingDigest (List.replicate 32 1) [7] ≠ List.replicate 32 1 ∧
      (recoverSourceIdFromTag countingDigest (computeTag countingDigest (List.replicate 32 1) [7])
          [7] = List.replicate 32 1 ∧
        computeTag countingDigest (recoverSourceIdFromTag countingDigest (List.replicate 32 2) [7])
          [7] = List.replicate 32 2 ∧
        (computeTag countingDigest (List.replicate 32 1) [7]).length = 32 ∧
        (recoverSourceIdFromTag countingDigest (List.replicate 32 2) [7]).length = 32) :=
  ⟨List.length_replicate _ _, List.length_replicate _ _, by decide,
    recoverSourceIdFromTag_inverse countingDigest _ [7] _ (List.length_replicate _ _)
      (List.length_replicate _ _)⟩

end V5

end Ddht
