/-
The bits of a byte string by position, highest first in each byte: a bit that is set, and byte strings that are equal
because their bits are. The lowest bit of a byte carries one of them.
-/
import NodeX.Core.Bytes

namespace NodeX

/-- The bit of a byte string, highest first. -/
def bitAt (bs : Bytes) (k : Nat) : Bool := (bs.getD (k / 8) 0).toNat.testBit (7 - k % 8)

def lowBit (v : UInt8) : Bool := v.toNat.testBit 0

theorem toNat_shift {o : Nat} (ho : o < 8) : (UInt8.ofNat o).toNat % 8 = o := by
  rw [UInt8.toNat_ofNat']
  omega

theorem and_one_eq (x : UInt8) : x &&& 1 = 0 ∨ x &&& 1 = 1 :=
  forall_uint8 (p := fun x => x &&& 1 = 0 ∨ x &&& 1 = 1) (by decide +kernel) x

theorem testBit_or_bit (b v : UInt8) {o j : Nat} (ho : o < 8) (hj : j < 8) :
    (b ||| ((v &&& 1) <<< UInt8.ofNat o)).toNat.testBit j = (b.toNat.testBit j || (decide (j = o) && lowBit v)) := by
  have hlow : lowBit v = (v &&& 1).toNat.testBit 0 := by
    rw [lowBit, UInt8.toNat_and, Nat.testBit_and]
    exact (Bool.and_true _).symm
  rw [UInt8.toNat_or, Nat.testBit_or, UInt8.toNat_shiftLeft, toNat_shift ho, Nat.testBit_mod_two_pow,
    Nat.testBit_shiftLeft, hlow]
  rcases and_one_eq v with hv | hv
  · simp [hv]
  · have hone : (1 : UInt8).toNat.testBit (j - o) = decide (j - o = 0) := by
      rw [Bool.eq_iff_iff, decide_eq_true_iff]
      exact Nat.testBit_one_eq_true_iff_self_eq_zero
    rw [hv, hone]
    grind

theorem lowBit_set (v b : UInt8) {o : Nat} (ho : o < 8) :
    lowBit ((v &&& 0xFE) ||| ((b >>> UInt8.ofNat o) &&& 1)) = b.toNat.testBit o := by
  unfold lowBit
  simp only [UInt8.toNat_or, UInt8.toNat_and, UInt8.toNat_shiftRight, Nat.testBit_or, Nat.testBit_and,
    Nat.testBit_shiftRight, toNat_shift ho]
  simp

theorem high_set (v x : UInt8) : ((v &&& 0xFE) ||| (x &&& 1)) &&& 0xFE = v &&& 0xFE := by
  rcases and_one_eq x with hx | hx
  · rw [hx]
    exact forall_uint8 (p := fun v => ((v &&& 0xFE) ||| 0) &&& 0xFE = v &&& 0xFE) (by decide +kernel) v
  · rw [hx]
    exact forall_uint8 (p := fun v => ((v &&& 0xFE) ||| 1) &&& 0xFE = v &&& 0xFE) (by decide +kernel) v

/-- Setting one bit. -/
theorem bitAt_set {bs : Bytes} {k : Nat} {b : UInt8} (hb : bs[k / 8]? = some b) (v : UInt8) (m : Nat) :
    bitAt (bs.set (k / 8) (b ||| ((v &&& 1) <<< UInt8.ofNat (7 - k % 8)))) m =
      (bitAt bs m || (decide (m = k) && lowBit v)) := by
  obtain ⟨hlt, hget⟩ := List.getElem?_eq_some_iff.1 hb
  unfold bitAt
  rw [List.getD_eq_getElem?_getD, List.getD_eq_getElem?_getD, List.getElem?_set]
  by_cases hbyte : k / 8 = m / 8
  · rw [if_pos hbyte, if_pos (hbyte ▸ hlt), ← hbyte, hb, Option.getD_some, Option.getD_some,
      testBit_or_bit _ _ (by omega) (by omega)]
    have hbit : (7 - m % 8 = 7 - k % 8) ↔ m = k := by omega
    rw [decide_eq_decide.2 hbit]
  · have hne : m ≠ k := by
      rintro rfl
      exact hbyte rfl
    rw [if_neg hbyte, decide_eq_false hne, Bool.false_and, Bool.or_false]

theorem bitAt_replicate (n m : Nat) : bitAt (List.replicate n 0) m = false := by
  have hzero : (List.replicate n (0 : UInt8)).getD (m / 8) 0 = 0 := by
    rw [List.getD_eq_getElem?_getD, List.getElem?_replicate]
    split <;> rfl
  rw [bitAt, hzero]
  exact Nat.zero_testBit _

theorem bitAt_take {bs : Bytes} {n m : Nat} (hm : m < 8 * n) : bitAt (bs.take n) m = bitAt bs m := by
  unfold bitAt
  rw [List.getD_eq_getElem?_getD, List.getD_eq_getElem?_getD, List.getElem?_take_of_lt (by omega)]

/-- Byte strings of one length with the same bits. -/
theorem eq_of_bitAt {bs cs : Bytes} (hlen : bs.length = cs.length)
    (h : ∀ m < 8 * bs.length, bitAt bs m = bitAt cs m) : bs = cs := by
  refine List.ext_getElem hlen fun i hi hi' => ?_
  rw [← UInt8.toNat_inj]
  refine Nat.eq_of_testBit_eq fun j => ?_
  by_cases hj : j < 8
  · have hbit := h (8 * i + (7 - j)) (by omega)
    have hbyte : (8 * i + (7 - j)) / 8 = i := by omega
    have hoff : 7 - (8 * i + (7 - j)) % 8 = j := by omega
    unfold bitAt at hbit
    rwa [hbyte, hoff, List.getD_eq_getElem?_getD, List.getD_eq_getElem?_getD, List.getElem?_eq_getElem hi,
      List.getElem?_eq_getElem hi', Option.getD_some, Option.getD_some] at hbit
  · have hpow : 2 ^ 8 ≤ 2 ^ j := Nat.pow_le_pow_right (by decide) (by omega)
    rw [Nat.testBit_lt_two_pow (Nat.lt_of_lt_of_le bs[i].toNat_lt hpow),
      Nat.testBit_lt_two_pow (Nat.lt_of_lt_of_le cs[i].toNat_lt hpow)]

end NodeX
