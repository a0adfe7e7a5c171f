/-
Bit strings, highest bit first: numbers of a fixed width, the number a bit string stands for, and cutting a bit string
into pieces of one width. The pieces of a long number are its digits in the base of the width.
-/
import Mathlib.Tactic

namespace NodeX.Lib

variable {α : Type*}

/-! ## Numbers -/

/-- The binary digits of a number, padded to the width. -/
def bitsOf : ℕ → ℕ → List Bool
  | 0, _ => []
  | width + 1, n => bitsOf width (n / 2) ++ [decide (n % 2 = 1)]

/-- The number written in binary. -/
def ofBits (bits : List Bool) : ℕ := bits.foldl (fun n b => 2 * n + b.toNat) 0

@[simp] theorem length_bitsOf : ∀ width n : ℕ, (bitsOf width n).length = width
  | 0, _ => rfl
  | width + 1, n => by rw [bitsOf, List.length_append, length_bitsOf width, List.length_singleton]

theorem ofBits_concat (bits : List Bool) (b : Bool) : ofBits (bits ++ [b]) = 2 * ofBits bits + b.toNat := by
  simp [ofBits]

theorem ofBits_append (bits : List Bool) : ∀ rest : List Bool,
    ofBits (bits ++ rest) = ofBits bits * 2 ^ rest.length + ofBits rest := by
  intro rest
  induction rest using List.reverseRecOn with
  | nil => simp [ofBits]
  | append_singleton rest b ih =>
    rw [← List.append_assoc, ofBits_concat, ofBits_concat, ih, List.length_append, List.length_singleton, pow_succ]
    ring

theorem ofBits_lt (bits : List Bool) : ofBits bits < 2 ^ bits.length := by
  induction bits using List.reverseRecOn with
  | nil => simp [ofBits]
  | append_singleton bits b ih =>
    have hb : b.toNat ≤ 1 := Bool.toNat_le b
    rw [ofBits_concat, List.length_append, List.length_singleton, pow_succ]
    omega

theorem ofBits_bitsOf : ∀ (width n : ℕ), n < 2 ^ width → ofBits (bitsOf width n) = n
  | 0, n, h => by
    obtain rfl : n = 0 := by omega
    rfl
  | width + 1, n, h => by
    rw [pow_succ] at h
    rw [bitsOf, ofBits_concat, ofBits_bitsOf width (n / 2) (by omega)]
    rcases Nat.mod_two_eq_zero_or_one n with hn | hn
    · simp [hn]
      omega
    · simp [hn]
      omega

theorem bitsOf_ofBits (bits : List Bool) : bitsOf bits.length (ofBits bits) = bits := by
  induction bits using List.reverseRecOn with
  | nil => rfl
  | append_singleton bits b ih =>
    have hdiv : (2 * ofBits bits + b.toNat) / 2 = ofBits bits := by
      have hb : b.toNat ≤ 1 := Bool.toNat_le b
      omega
    have hmod : decide ((2 * ofBits bits + b.toNat) % 2 = 1) = b := by
      cases b <;> simp
    rw [List.length_append, List.length_singleton, bitsOf, ofBits_concat, hdiv, hmod, ih]

/-- The front of a bit string is what is left of its number without the low bits. -/
theorem ofBits_take (bits : List Bool) (n : ℕ) :
    ofBits (bits.take n) = ofBits bits / 2 ^ (bits.length - n) := by
  have happ := ofBits_append (bits.take n) (bits.drop n)
  have hlt := ofBits_lt (bits.drop n)
  rw [List.take_append_drop, List.length_drop] at happ
  rw [List.length_drop] at hlt
  rw [happ, Nat.add_comm, Nat.add_mul_div_right _ _ (by positivity), Nat.div_eq_of_lt hlt, Nat.zero_add]

theorem ofBits_drop (bits : List Bool) (n : ℕ) :
    ofBits (bits.drop n) = ofBits bits % 2 ^ (bits.length - n) := by
  have happ := ofBits_append (bits.take n) (bits.drop n)
  have hlt := ofBits_lt (bits.drop n)
  rw [List.take_append_drop, List.length_drop] at happ
  rw [List.length_drop] at hlt
  rw [happ, Nat.add_comm, Nat.add_mul_mod_self_right, Nat.mod_eq_of_lt hlt]

theorem ofBits_cons (b : Bool) (bits : List Bool) : ofBits (b :: bits) = b.toNat * 2 ^ bits.length + ofBits bits := by
  have happ := ofBits_append [b] bits
  simpa [ofBits] using happ

/-- A number in two parts is written as one part after the other. -/
theorem bitsOf_append (width a : ℕ) : ∀ (low b : ℕ), b < 2 ^ low →
    bitsOf (width + low) (a * 2 ^ low + b) = bitsOf width a ++ bitsOf low b
  | 0, b, h => by
    obtain rfl : b = 0 := by omega
    simp [bitsOf]
  | low + 1, b, h => by
    rw [pow_succ] at h
    have hdiv : (a * 2 ^ (low + 1) + b) / 2 = a * 2 ^ low + b / 2 := by
      rw [pow_succ, ← Nat.mul_assoc]
      omega
    have hmod : (a * 2 ^ (low + 1) + b) % 2 = b % 2 := by
      rw [pow_succ, ← Nat.mul_assoc]
      omega
    rw [← Nat.add_assoc, bitsOf, bitsOf, hdiv, hmod, bitsOf_append width a low (b / 2) (by omega), List.append_assoc]

/-! ## Leading zeros -/

/-- The zeros a bit string begins with. -/
def zerosInFront (bits : List Bool) : ℕ := (bits.takeWhile not).length

theorem zerosInFront_append (front rest : List Bool) : zerosInFront (front ++ rest) =
    if zerosInFront front = front.length then front.length + zerosInFront rest else zerosInFront front := by
  unfold zerosInFront
  rw [List.takeWhile_append]
  split <;> simp

theorem zerosInFront_eq_length_iff : ∀ {bits : List Bool}, zerosInFront bits = bits.length ↔ ofBits bits = 0
  | [] => by simp [zerosInFront, ofBits]
  | false :: bits => by
    have ih := @zerosInFront_eq_length_iff bits
    rw [ofBits_cons]
    simpa [zerosInFront] using ih
  | true :: bits => by
    rw [ofBits_cons]
    simp [zerosInFront]

/-- Of two numbers of one width, the one with more zeros in front is the smaller one. -/
theorem ofBits_lt_of_zerosInFront_lt : ∀ {bits bits' : List Bool}, bits.length = bits'.length →
    zerosInFront bits < zerosInFront bits' → ofBits bits' < ofBits bits
  | [], bits', hlen, h => by
    rw [List.eq_nil_of_length_eq_zero hlen.symm] at h
    cases h
  | _ :: _, [], hlen, _ => by cases hlen
  | _ :: _, true :: _, _, h => by simp [zerosInFront] at h
  | true :: bits, false :: bits', hlen, _ => by
    have hlt := ofBits_lt bits'
    rw [← Nat.succ.inj hlen] at hlt
    rw [ofBits_cons, ofBits_cons]
    simp only [Bool.toNat_true, Bool.toNat_false]
    omega
  | false :: bits, false :: bits', hlen, h => by
    have ih := @ofBits_lt_of_zerosInFront_lt bits bits' (Nat.succ.inj hlen)
      (by simpa [zerosInFront] using h)
    rw [ofBits_cons, ofBits_cons]
    simpa using ih

/-! ## Pieces -/

/-- The first pieces of a list, of `n` elements each. -/
def pieces (n : ℕ) : ℕ → List α → List (List α)
  | 0, _ => []
  | count + 1, l => l.take n :: pieces n count (l.drop n)

/-- A list in pieces of `n` elements, the last of which may be shorter. -/
def chunked (n : ℕ) (l : List α) : List (List α) := pieces n ((l.length + n - 1) / n) l

theorem pieces_append {n : ℕ} : ∀ {count : ℕ} {front : List α}, front.length = n * count → ∀ rest : List α,
    pieces n count (front ++ rest) = pieces n count front
  | 0, _, _, _ => rfl
  | count + 1, front, h, rest => by
    rw [Nat.mul_succ] at h
    rw [pieces, pieces, List.take_append_of_le_length (by omega), List.drop_append_of_le_length (by omega),
      pieces_append (by rw [List.length_drop]; omega)]

@[simp] theorem length_pieces (n : ℕ) : ∀ (count : ℕ) (l : List α), (pieces n count l).length = count
  | 0, _ => rfl
  | count + 1, l => by rw [pieces, List.length_cons, length_pieces n count]

theorem flatten_pieces {n : ℕ} : ∀ {count : ℕ} {l : List α}, l.length = n * count → (pieces n count l).flatten = l
  | 0, l, h => by simpa [pieces, eq_comm] using h
  | count + 1, l, h => by
    rw [pieces, List.flatten_cons, flatten_pieces (by rw [List.length_drop, h, Nat.mul_succ]; omega),
      List.take_append_drop]

theorem length_of_mem_pieces {n : ℕ} : ∀ {count : ℕ} {l : List α}, l.length = n * count →
    ∀ c ∈ pieces n count l, c.length = n
  | 0, _, _, c, hc => by cases hc
  | count + 1, l, h, c, hc => by
    rw [Nat.mul_succ] at h
    rcases List.mem_cons.1 hc with rfl | hc
    · rw [List.length_take]
      omega
    · exact length_of_mem_pieces (by rw [List.length_drop]; omega) c hc

/-- Pieces put together are cut where they were. -/
theorem pieces_flatten {n : ℕ} : ∀ {l : List (List α)}, (∀ c ∈ l, c.length = n) → pieces n l.length l.flatten = l
  | [], _ => rfl
  | c :: l, h => by
    obtain ⟨rfl, hl⟩ := List.forall_mem_cons.1 h
    rw [List.length_cons, List.flatten_cons, pieces, List.take_left, List.drop_left, pieces_flatten hl]

theorem chunked_eq_pieces {n count : ℕ} (hn : 0 < n) {l : List α} (h : l.length = n * count) :
    chunked n l = pieces n count l := by
  unfold chunked
  have hcount : (l.length + n - 1) / n = count := by
    rw [h, Nat.add_sub_assoc hn, Nat.mul_add_div hn, Nat.div_eq_of_lt (by omega), Nat.add_zero]
  rw [hcount]

/-- The pieces by their numbers. -/
theorem pieces_eq_map (n : ℕ) : ∀ (count : ℕ) (l : List α),
    pieces n count l = (List.range count).map fun i => (l.drop (n * i)).take n
  | 0, _ => rfl
  | count + 1, l => by
    rw [pieces, pieces_eq_map n count, List.range_succ_eq_map, List.map_cons, List.map_map]
    congr 1
    refine List.map_congr_left fun i _ => ?_
    rw [Function.comp_apply, List.drop_drop, Nat.succ_eq_add_one, Nat.mul_succ, Nat.add_comm]

/-- The pieces of a bit string are the digits of its number, from the highest on. -/
theorem map_ofBits_pieces {width : ℕ} : ∀ {count : ℕ} {bits : List Bool}, bits.length = width * count →
    (pieces width count bits).map ofBits =
      (List.range count).map fun i => ofBits bits / 2 ^ (width * (count - 1 - i)) % 2 ^ width
  | 0, _, _ => rfl
  | count + 1, bits, h => by
    have hlen : bits.length = width + width * count := by rw [h, Nat.mul_succ, Nat.add_comm]
    have hdrop : (bits.drop width).length = width * count := by rw [List.length_drop]; omega
    have htop : ofBits bits < 2 ^ (width * count) * 2 ^ width := by
      rw [← pow_add, Nat.add_comm, ← hlen]
      exact ofBits_lt bits
    rw [pieces, List.map_cons, map_ofBits_pieces hdrop, List.range_succ_eq_map, List.map_cons, List.map_map]
    congr 1
    · rw [ofBits_take, Nat.add_sub_cancel, Nat.sub_zero, show bits.length - width = width * count by omega,
        Nat.mod_eq_of_lt (Nat.div_lt_of_lt_mul htop)]
    · refine List.map_congr_left fun i hi => ?_
      have hi' := List.mem_range.1 hi
      have hsub : count + 1 - 1 - (i + 1) = count - 1 - i := by omega
      have hbound : width * (count - 1 - i) + width ≤ width * count := by
        rw [← Nat.mul_succ]
        exact Nat.mul_le_mul_left width (by omega)
      have hwidth : width ≤ width * count - width * (count - 1 - i) := by omega
      rw [Function.comp_apply, hsub, ofBits_drop, show bits.length - width = width * count by omega,
        ← Nat.add_sub_of_le (show width * (count - 1 - i) ≤ width * count by omega), pow_add,
        Nat.mod_mul_right_div_self, Nat.mod_mod_of_dvd _ (pow_dvd_pow 2 hwidth)]

/-! ## Loops -/

/-- Two loops, one in the other, as one. -/
theorem range_flatMap_map (f : ℕ → ℕ → α) (n : ℕ) : ∀ m,
    ((List.range m).flatMap fun a => (List.range n).map (f a)) = (List.range (m * n)).map fun k => f (k / n) (k % n)
  | 0 => by simp
  | m + 1 => by
    rw [List.range_succ, List.flatMap_append, range_flatMap_map f n m, Nat.succ_mul, List.range_add, List.map_append,
      List.flatMap_singleton, List.map_map]
    congr 1
    refine List.map_congr_left fun b hb => ?_
    have hb := List.mem_range.1 hb
    have hdiv : (m * n + b) / n = m := by
      rw [Nat.add_comm, Nat.add_mul_div_right _ _ (by omega), Nat.div_eq_of_lt hb, Nat.zero_add]
    have hmod : (m * n + b) % n = b := by
      rw [Nat.add_comm, Nat.add_mul_mod_self_right, Nat.mod_eq_of_lt hb]
    rw [Function.comp_apply, hdiv, hmod]

end NodeX.Lib
