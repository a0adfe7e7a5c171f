/-
The distance of two ids as a number. The prefix that two ids share is as long as the zeros in front of their distance,
so that a longer prefix means a smaller distance, and at each distance from an id there is one id.
-/
import NodeX.Lib.Bits
import NodeX.Kad.RoutingTable

namespace NodeX

open NodeX.Lib

/-! ## Bits of bytes -/

/-- A byte: its zeros in front, all of them exactly for zero. -/
theorem leadingZeros_eq (b : UInt8) : leadingZeros b = zerosInFront (bitsOf 8 b.toNat) ∧
    (zerosInFront (bitsOf 8 b.toNat) = 8 ↔ b = 0) :=
  forall_uint8 (p := fun b => leadingZeros b = zerosInFront (bitsOf 8 b.toNat) ∧
    (zerosInFront (bitsOf 8 b.toNat) = 8 ↔ b = 0)) (by decide +kernel) b

/-- A number of some bytes in binary: the first byte, and the number of the others. -/
theorem bitsOf_beNat_cons (b : UInt8) (bs : Bytes) :
    bitsOf (8 * (b :: bs).length) (beNat (b :: bs)) = bitsOf 8 b.toNat ++ bitsOf (8 * bs.length) (beNat bs) := by
  have hpow : (256 : Nat) ^ bs.length = 2 ^ (8 * bs.length) := by
    rw [pow_mul]
    rfl
  have hlt := beNat_lt bs
  rw [hpow] at hlt
  rw [beNat_cons, hpow, List.length_cons, Nat.mul_succ, Nat.add_comm (8 * bs.length)]
  exact bitsOf_append 8 b.toNat (8 * bs.length) (beNat bs) hlt

theorem ffiSharedPrefixBits_eq : ∀ {as bs : Bytes}, as.length = bs.length →
    ffiSharedPrefixBits as bs =
      zerosInFront (bitsOf (8 * as.length) (beNat (List.zipWith (· ^^^ ·) as bs)))
  | [], [], _ => rfl
  | [], _ :: _, h => by cases h
  | _ :: _, [], h => by cases h
  | a :: as, b :: bs, h => by
    have hlen : as.length = bs.length := Nat.succ.inj h
    have hsize : (List.zipWith (· ^^^ ·) as bs).length = as.length := by
      rw [List.length_zipWith, hlen, Nat.min_self]
    have hbits := bitsOf_beNat_cons (a ^^^ b) (List.zipWith (· ^^^ ·) as bs)
    rw [List.length_cons, hsize] at hbits
    obtain ⟨hzeros, hall⟩ := leadingZeros_eq (a ^^^ b)
    rw [List.zipWith_cons_cons, List.length_cons, hbits, zerosInFront_append, length_bitsOf, ffiSharedPrefixBits]
    by_cases hx : a ^^^ b = 0
    · rw [if_pos hx, if_pos (hall.2 hx), ffiSharedPrefixBits_eq hlen]
    · -- the loop ends at the first byte that is not zero
      rw [if_neg hx, if_neg fun h8 => hx (hall.1 h8), hzeros]

namespace NodeId

/-- The distance as a number of 160 bits. -/
def distanceNat (a b : NodeId) : Nat := beNat (a.distance b).bytes

def distanceBits (a b : NodeId) : List Bool := bitsOf 160 (a.distanceNat b)

theorem sharedPrefixLen_eq (a b : NodeId) : a.sharedPrefixLen b = zerosInFront (a.distanceBits b) := by
  have h := ffiSharedPrefixBits_eq (a.size.trans b.size.symm)
  rw [a.size] at h
  exact h

theorem distanceNat_lt (a b : NodeId) : a.distanceNat b < 2 ^ 160 := by
  have h := beNat_lt (a.distance b).bytes
  rw [(a.distance b).size] at h
  exact h

theorem ofBits_distanceBits (a b : NodeId) : ofBits (a.distanceBits b) = a.distanceNat b :=
  ofBits_bitsOf 160 _ (distanceNat_lt a b)

theorem distance_comm (a b : NodeId) : a.distance b = b.distance a := by
  refine eq_of_bytes ?_
  change List.zipWith (· ^^^ ·) a.bytes b.bytes = List.zipWith (· ^^^ ·) b.bytes a.bytes
  rw [List.zipWith_comm]
  simp only [UInt8.xor_comm]

theorem distanceNat_eq_zero_iff (a b : NodeId) : a.distanceNat b = 0 ↔ a = b := by
  constructor
  · intro h
    refine eq_of_distance_le (show a.distanceNat b ≤ b.distanceNat b from ?_)
    rw [h]
    exact Nat.zero_le _
  · rintro rfl
    exact beNat_zipWith_self a.bytes

theorem sharedPrefixLen_eq_max_iff (a b : NodeId) : a.sharedPrefixLen b = 160 ↔ a = b := by
  have hall := @zerosInFront_eq_length_iff (a.distanceBits b)
  rw [ofBits_distanceBits, distanceBits, length_bitsOf] at hall
  rw [sharedPrefixLen_eq, ← distanceNat_eq_zero_iff]
  exact hall

/-- A longer shared prefix means a smaller distance. -/
theorem distance_lt_of_sharedPrefixLen_lt {a b c : NodeId} (h : a.sharedPrefixLen b < a.sharedPrefixLen c) :
    a.distance c < a.distance b := by
  rw [sharedPrefixLen_eq, sharedPrefixLen_eq] at h
  have hlen : (a.distanceBits b).length = (a.distanceBits c).length := by
    simp [distanceBits]
  have hlt := ofBits_lt_of_zerosInFront_lt hlen h
  rw [ofBits_distanceBits, ofBits_distanceBits] at hlt
  exact hlt

theorem zipWith_xor_cancel : ∀ {as bs : Bytes}, as.length = bs.length →
    List.zipWith (· ^^^ ·) (List.zipWith (· ^^^ ·) as bs) bs = as
  | [], [], _ => rfl
  | [], _ :: _, h => by cases h
  | _ :: _, [], h => by cases h
  | a :: as, b :: bs, h => by
    simp only [List.zipWith_cons_cons, UInt8.xor_assoc, UInt8.xor_self, UInt8.xor_zero,
      zipWith_xor_cancel (Nat.succ.inj h)]

/-- The id at a distance from a target: the distance taken from the target. -/
theorem distance_distance (d target : NodeId) : (d.distance target).distance target = d :=
  eq_of_bytes (zipWith_xor_cancel (d.size.trans target.size.symm))

theorem existsUnique_distance (target d : NodeId) : ∃! id : NodeId, id.distance target = d := by
  refine ⟨d.distance target, distance_distance d target, ?_⟩
  intro id h
  exact distance_inj (h.trans (distance_distance d target).symm)

/-! ## The metric -/

/-- What the table and the lookups rest on. Byte arrays are compared byte by byte. -/
structure XorMetric (a b c : NodeId) : Prop where
  prefix_zeros : a.sharedPrefixLen b = zerosInFront (a.distanceBits b)
  prefix_full : a.sharedPrefixLen b = 160 ↔ a = b
  order : (a.distance b).bytes < (a.distance c).bytes ↔ a.distanceNat b < a.distanceNat c
  closer : a.sharedPrefixLen b < a.sharedPrefixLen c → (a.distance c).bytes < (a.distance b).bytes
  one_at : ∃! id : NodeId, id.distance a = b
  no_ties : ∀ ids : List NodeId, ids.Nodup →
    (sortByKey (fun id => id.distance a) ids).Pairwise fun x y => (x.distance a).bytes < (y.distance a).bytes

theorem pairwise_sortByKey_distance (target : NodeId) {ids : List NodeId} (h : ids.Nodup) :
    (sortByKey (fun id => id.distance target) ids).Pairwise fun x y =>
      (x.distance target).bytes < (y.distance target).bytes := by
  have hdistances : (ids.map fun id => id.distance target).Nodup := h.map fun _ _ heq => distance_inj heq
  exact (pairwise_lt_sortByKey _ hdistances).imp fun hlt => lt_iff_bytes.1 hlt

/-- For all ids the shared prefix is as long as the distance has zeros in front, distances are ordered as their
numbers, and no two ids are at one distance. -/
theorem xorMetric (a b c : NodeId) : XorMetric a b c where
  prefix_zeros := sharedPrefixLen_eq a b
  prefix_full := sharedPrefixLen_eq_max_iff a b
  order := lt_iff_bytes.symm
  closer h := lt_iff_bytes.1 (distance_lt_of_sharedPrefixLen_lt h)
  one_at := existsUnique_distance a b
  no_ties _ h := pairwise_sortByKey_distance a h

end NodeId

namespace Kad.RoutingTable

/-- The bucket of an id: the zeros in front of its distance, and the last bucket for the node itself. -/
theorem bucketIndex_eq (t : RoutingTable) (id : NodeId) :
    (t.bucketIndex id : Nat) = min (zerosInFront (t.localId.distanceBits id)) 159 := by
  have hle : zerosInFront (t.localId.distanceBits id) ≤ 160 := by
    have h := (List.takeWhile_prefix (l := t.localId.distanceBits id) not).length_le
    rwa [NodeId.distanceBits, length_bitsOf] at h
  have hbuckets : numBuckets = 160 := rfl
  unfold bucketIndex
  dsimp only
  rw [← NodeId.sharedPrefixLen_eq] at hle ⊢
  split
  · simp only
    omega
  · simp only
    omega

end Kad.RoutingTable

end NodeX
