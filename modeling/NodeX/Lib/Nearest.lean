/-
The entries of a list with the smallest keys: sorted by a stable sort, and cut to a number.
-/
import Mathlib.Data.List.Sort

namespace NodeX.Lib

variable {α κ : Type*} [LinearOrder κ] (key : α → κ)

/-- A stable sort by a key. -/
def sortByKey (l : List α) : List α := l.insertionSort fun a b => key a ≤ key b

/-- The `n` entries with the smallest keys, in order. -/
def nearest (n : ℕ) (l : List α) : List α := (sortByKey key l).take n

theorem perm_sortByKey (l : List α) : (sortByKey key l).Perm l := List.perm_insertionSort _ l

@[simp] theorem mem_sortByKey {l : List α} {a : α} : a ∈ sortByKey key l ↔ a ∈ l := (perm_sortByKey key l).mem_iff

@[simp] theorem length_sortByKey (l : List α) : (sortByKey key l).length = l.length := (perm_sortByKey key l).length_eq

theorem pairwise_sortByKey (l : List α) : (sortByKey key l).Pairwise fun a b => key a ≤ key b := by
  have : Std.Total fun a b : α => key a ≤ key b := ⟨fun a b => le_total (key a) (key b)⟩
  have : IsTrans α fun a b => key a ≤ key b := ⟨fun _ _ _ hab hbc => hab.trans hbc⟩
  exact List.pairwise_insertionSort _ l

/-- Where no key is taken twice, the keys increase strictly. -/
theorem pairwise_lt_sortByKey {l : List α} (h : (l.map key).Nodup) :
    (sortByKey key l).Pairwise fun a b => key a < key b := by
  have hnodup : ((sortByKey key l).map key).Nodup := ((perm_sortByKey key l).map key).nodup_iff.2 h
  have hne : (sortByKey key l).Pairwise fun a b => key a ≠ key b := List.pairwise_map.1 hnodup
  exact ((pairwise_sortByKey key l).and hne).imp fun hab => lt_of_le_of_ne hab.1 hab.2

/-- Where the keys increase strictly, that is the order every permutation is put in. -/
theorem sortByKey_eq_of_perm {l l' : List α} (h : l.Perm l') (hlt : l'.Pairwise fun a b => key a < key b) :
    sortByKey key l = l' := by
  have hnodup : (l'.map key).Nodup := List.pairwise_map.2 (hlt.imp fun hab => hab.ne)
  have hperm := (perm_sortByKey key l).trans h
  refine hperm.eq_of_pairwise ?_ (pairwise_sortByKey key l) (hlt.imp fun hab => hab.le)
  intro a b ha hb hab hba
  exact List.inj_on_of_nodup_map hnodup (hperm.mem_iff.1 ha) hb (hab.antisymm hba)

theorem length_nearest (n : ℕ) (l : List α) : (nearest key n l).length = min n l.length := by
  rw [nearest, List.length_take, length_sortByKey]

theorem mem_of_mem_nearest {n : ℕ} {l : List α} {a : α} (h : a ∈ nearest key n l) : a ∈ l :=
  (mem_sortByKey key).1 (List.mem_of_mem_take h)

theorem pairwise_lt_nearest {l : List α} (h : (l.map key).Nodup) (n : ℕ) :
    (nearest key n l).Pairwise fun a b => key a < key b := (pairwise_lt_sortByKey key h).sublist (List.take_sublist _ _)

/-- What is left out has a larger key than everything that is not. -/
theorem lt_of_not_mem_nearest {n : ℕ} {l : List α} (h : (l.map key).Nodup) {a b : α} (ha : a ∈ nearest key n l)
    (hb : b ∈ l) (hnot : b ∉ nearest key n l) : key a < key b := by
  have hsorted := pairwise_lt_sortByKey key h
  rw [← List.take_append_drop n (sortByKey key l), List.pairwise_append] at hsorted
  refine hsorted.2.2 a ha b ?_
  have hmem := (mem_sortByKey key).2 hb
  rw [← List.take_append_drop n (sortByKey key l), List.mem_append] at hmem
  exact hmem.resolve_left hnot

/-- An entry is among the nearest when no more than that many have no larger key. -/
theorem mem_nearest {n : ℕ} {l : List α} {a : α} (ha : a ∈ l) (hcount : l.countP (fun b => key b ≤ key a) ≤ n) :
    a ∈ nearest key n l := by
  have hmem := (mem_sortByKey key).2 ha
  have hsorted := pairwise_sortByKey key l
  rw [← (perm_sortByKey key l).countP_eq] at hcount
  rw [← List.take_append_drop n (sortByKey key l)] at hmem hsorted hcount
  rcases List.mem_append.1 hmem with h | h
  · exact h
  · -- otherwise the first `n` have no larger key, and it is one more
    have hall : ∀ b ∈ (sortByKey key l).take n, (decide (key b ≤ key a)) = true := fun b hb =>
      decide_eq_true ((List.pairwise_append.1 hsorted).2.2 b hb a h)
    have htake := List.countP_eq_length.2 hall
    have hdrop : 0 < ((sortByKey key l).drop n).countP (fun b => key b ≤ key a) :=
      List.countP_pos_iff.2 ⟨a, h, decide_eq_true le_rfl⟩
    have hlen := List.length_pos_of_mem h
    rw [List.countP_append, htake, List.length_take] at hcount
    rw [List.length_drop] at hlen
    omega

/-- The first `k` entries of a kind are those with fewer than `k` of the kind in front of them. -/
theorem forall_mem_take_filter {p : α → Bool} {Q : α → Prop} : ∀ {l : List α} {k : ℕ},
    (∀ a ∈ (l.filter p).take k, Q a) ↔
      ∀ i a, l[i]? = some a → p a = true → ((l.take i).filter p).length < k → Q a
  | [], k => by simp
  | b :: l, k => by
    have ih := fun k => forall_mem_take_filter (p := p) (Q := Q) (l := l) (k := k)
    cases hb : p b with
    | false =>
      rw [List.filter_cons_of_neg (by rw [hb]; exact Bool.false_ne_true), ih k]
      constructor
      · intro h i a ha hp hlt
        cases i with
        | zero =>
          obtain rfl : b = a := Option.some.inj ha
          exact absurd hp (by rw [hb]; exact Bool.false_ne_true)
        | succ i =>
          rw [List.take_succ_cons, List.filter_cons_of_neg (by rw [hb]; exact Bool.false_ne_true)] at hlt
          exact h i a ha hp hlt
      · intro h i a ha hp hlt
        refine h (i + 1) a ha hp ?_
        rwa [List.take_succ_cons, List.filter_cons_of_neg (by rw [hb]; exact Bool.false_ne_true)]
    | true =>
      rw [List.filter_cons_of_pos hb]
      cases k with
      | zero => simp
      | succ k =>
        rw [List.take_succ_cons, List.forall_mem_cons, ih k]
        constructor
        · rintro ⟨hQ, h⟩ i a ha hp hlt
          cases i with
          | zero =>
            obtain rfl : b = a := Option.some.inj ha
            exact hQ
          | succ i =>
            rw [List.take_succ_cons, List.filter_cons_of_pos hb, List.length_cons] at hlt
            exact h i a ha hp (Nat.lt_of_succ_lt_succ hlt)
        · intro h
          refine ⟨h 0 b rfl hb (Nat.succ_pos k), ?_⟩
          intro i a ha hp hlt
          refine h (i + 1) a ha hp ?_
          rw [List.take_succ_cons, List.filter_cons_of_pos hb, List.length_cons]
          exact Nat.succ_lt_succ hlt

end NodeX.Lib
