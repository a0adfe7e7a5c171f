/-
Lists sorted by a key: they fall into their groups, one after the other.
-/
import Mathlib.Data.List.FinRange

namespace NodeX.Lib

variable {α : Type*}

/-! ## Groups -/

/-- The entries below a bound, and then those at it, are the entries below the next bound. -/
theorem filter_lt_append_filter_eq {f : α → ℕ} {n : ℕ} : ∀ {l : List α}, l.Pairwise (fun a b => f a ≤ f b) →
    l.filter (fun a => f a < n) ++ l.filter (fun a => f a = n) = l.filter (fun a => f a < n + 1)
  | [], _ => rfl
  | a :: l, h => by
    obtain ⟨ha, hl⟩ := List.pairwise_cons.1 h
    have ih := filter_lt_append_filter_eq (n := n) hl
    rw [List.filter_cons, List.filter_cons, List.filter_cons]
    by_cases hlt : f a < n
    · have hne : f a ≠ n := by omega
      have hlt' : f a < n + 1 := by omega
      rw [if_pos (decide_eq_true hlt), if_neg (mt of_decide_eq_true hne), if_pos (decide_eq_true hlt'),
        List.cons_append, ih]
    · -- nothing further on is below the bound either
      have hnone : l.filter (fun b => f b < n) = [] := by
        rw [List.filter_eq_nil_iff]
        intro b hb
        have := ha b hb
        simp only [decide_eq_true_eq]
        omega
      rw [hnone, List.nil_append] at ih
      rw [if_neg (mt of_decide_eq_true hlt), hnone, List.nil_append]
      by_cases heq : f a = n
      · have hlt' : f a < n + 1 := by omega
        rw [if_pos (decide_eq_true heq), if_pos (decide_eq_true hlt'), ih]
      · have hlt' : ¬f a < n + 1 := by omega
        rw [if_neg (mt of_decide_eq_true heq), if_neg (mt of_decide_eq_true hlt'), ih]

theorem flatMap_range_filter {f : α → ℕ} {l : List α} (h : l.Pairwise fun a b => f a ≤ f b) :
    ∀ n, ((List.range n).flatMap fun i => l.filter fun a => f a = i) = l.filter fun a => f a < n
  | 0 => by simp
  | n + 1 => by
    rw [List.range_succ, List.flatMap_append, flatMap_range_filter h n, ← filter_lt_append_filter_eq h]
    simp

/-- A sorted list is its groups. -/
theorem flatMap_finRange_filter {n : ℕ} {f : α → Fin n} {l : List α} (h : l.Pairwise fun a b => f a ≤ f b) :
    ((List.finRange n).flatMap fun i => l.filter fun a => f a = i) = l := by
  have hval : ((List.finRange n).flatMap fun i => l.filter fun a => f a = i) =
      ((List.finRange n).map Fin.val).flatMap fun i => l.filter fun a => (f a).val = i := by
    rw [List.flatMap_map]
    simp only [Fin.ext_iff]
  rw [hval, List.map_coe_finRange_eq_range, flatMap_range_filter (f := fun a => (f a).val) h, List.filter_eq_self]
  intro a _
  exact decide_eq_true (f a).isLt

/-- Lists put one after the other by their number are sorted by it. -/
theorem pairwise_flatMap_finRange {n : ℕ} {f : α → Fin n} {g : Fin n → List α} (h : ∀ i, ∀ a ∈ g i, f a = i) :
    ((List.finRange n).flatMap g).Pairwise fun a b => f a ≤ f b := by
  rw [List.pairwise_flatMap]
  constructor
  · intro i _
    refine List.pairwise_of_forall_mem_list ?_
    intro a ha b hb
    rw [h i a ha, h i b hb]
  · refine (List.pairwise_lt_finRange n).imp ?_
    intro i j hij a ha b hb
    rw [h i a ha, h j b hb]
    exact hij.le

end NodeX.Lib
