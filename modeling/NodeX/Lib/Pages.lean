/-
Reading a list in pages from the end, with a time as cursor: each page is the last `limit` entries
of those before the smallest time of the page read last. The list need not be ordered by time. All
of it is read exactly when no entry is as late as one in a later page, the pages taken by position.
-/
import Mathlib.Data.List.DropRight
import Mathlib.Data.List.Perm.Subperm
import Mathlib.Order.MinMax

namespace NodeX.Lib

variable {α β : Type*} [LinearOrder β] (time : α → β) (limit : ℕ)

/-! ## Pages -/

theorem min?_map_eq_some {l : List α} {t : β} (h : (l.map time).min? = some t) :
    (∃ x ∈ l, time x = t) ∧ ∀ x ∈ l, t ≤ time x := by
  have : Std.LawfulOrderMin β := { min_eq_or := min_choice, le_min_iff := fun _ _ _ => le_min_iff }
  obtain ⟨hmem, hle⟩ := List.min?_eq_some_iff.1 h
  exact ⟨List.mem_map.1 hmem, fun x hx => hle _ (List.mem_map_of_mem hx)⟩

theorem min?_map_eq_none {l : List α} : (l.map time).min? = none ↔ l = [] := by
  rw [List.min?_eq_none_iff, List.map_eq_nil_iff]

theorem mem_of_mem_rtake {l : List α} {x : α} (h : x ∈ l.rtake limit) : x ∈ l := List.mem_of_mem_drop h

theorem rdrop_append_rtake (l : List α) : l.rdrop limit ++ l.rtake limit = l := List.take_append_drop ..

/-- The entries before a cursor. -/
def earlier (t : β) (l : List α) : List α := l.filter (time · < t)

theorem earlier_sublist (t : β) (l : List α) : (earlier time t l).Sublist l := List.filter_sublist

theorem earlier_eq_self {t : β} {l : List α} : earlier time t l = l ↔ ∀ a ∈ l, time a < t := by
  simp [earlier, List.filter_eq_self]

theorem length_earlier {l : List α} {t : β} (h : ∃ x ∈ l, time x = t) :
    (earlier time t l).length < l.length := by
  obtain ⟨x, hx, rfl⟩ := h
  exact List.length_filter_lt_length_iff_exists.2 ⟨x, hx, by simp⟩

/-- The pages of a list, the last one first, until one is empty. -/
def pages (l : List α) : List (List α) :=
  match _h : ((l.rtake limit).map time).min? with
  | none => []
  | some t => l.rtake limit :: pages (earlier time t l)
termination_by l.length
decreasing_by
  obtain ⟨⟨x, hx, ht⟩, -⟩ := min?_map_eq_some time _h
  exact length_earlier time ⟨x, mem_of_mem_rtake limit hx, ht⟩

theorem pages_of_none {l : List α} (h : ((l.rtake limit).map time).min? = none) : pages time limit l = [] := by
  rw [pages]
  split
  · rfl
  · simp_all

theorem pages_of_some {l : List α} {t : β} (h : ((l.rtake limit).map time).min? = some t) :
    pages time limit l = l.rtake limit :: pages time limit (earlier time t l) := by
  rw [pages]
  split
  · simp_all
  · simp_all

/-! ## What is read -/

/-- A page is not read again, and of what stands before it only what is earlier. -/
theorem earlier_of_min {l : List α} {t : β} (h : ((l.rtake limit).map time).min? = some t) :
    earlier time t l = earlier time t (l.rdrop limit) := by
  have hnone : earlier time t (l.rtake limit) = [] := by
    rw [earlier, List.filter_eq_nil_iff]
    intro x hx
    simpa using (min?_map_eq_some time h).2 x hx
  unfold earlier at hnone ⊢
  conv_lhs => rw [← rdrop_append_rtake limit l, List.filter_append, hnone, List.append_nil]

theorem flatten_pages_subperm (l : List α) : (pages time limit l).flatten.Subperm l := by
  induction l using pages.induct time limit with
  | case1 l h =>
    rw [pages_of_none time limit h]
    exact List.nil_subperm
  | case2 l t h ih =>
    rw [pages_of_some time limit h, List.flatten_cons]
    rw [earlier_of_min time limit h] at ih ⊢
    have hfront := ih.trans (earlier_sublist time t _).subperm
    have hall : (l.rtake limit ++ l.rdrop limit).Perm l := by
      conv_rhs => rw [← rdrop_append_rtake limit l]
      exact List.perm_append_comm
    exact ((List.subperm_append_left _).2 hfront).trans hall.subperm

/-- The pages make up the list when nothing before the last page is as late as anything in it, and
the pages of what stands before it make that up. -/
theorem flatten_pages_perm_step {l : List α} {t : β} (h : ((l.rtake limit).map time).min? = some t) :
    (pages time limit l).flatten.Perm l ↔
      (∀ a ∈ l.rdrop limit, time a < t) ∧ (pages time limit (l.rdrop limit)).flatten.Perm (l.rdrop limit) := by
  have hsplit : (pages time limit l).flatten.Perm l ↔
      (pages time limit (earlier time t (l.rdrop limit))).flatten.Perm (l.rdrop limit) := by
    rw [pages_of_some time limit h, List.flatten_cons, earlier_of_min time limit h]
    have hall : (l.rtake limit ++ l.rdrop limit).Perm l := by
      conv_rhs => rw [← rdrop_append_rtake limit l]
      exact List.perm_append_comm
    refine Iff.trans ?_ (List.perm_append_left_iff (l.rtake limit))
    exact ⟨fun hp => hp.trans hall.symm, fun hp => hp.trans hall⟩
  rw [hsplit, ← earlier_eq_self]
  constructor
  · intro hp
    have hle := (flatten_pages_subperm time limit (earlier time t (l.rdrop limit))).length_le
    rw [hp.length_eq] at hle
    have heq := (earlier_sublist time t _).eq_of_length_le hle
    exact ⟨heq, by rwa [heq] at hp⟩
  · rintro ⟨heq, hp⟩
    rwa [heq]

/-! ## The exact condition -/

/-- How many whole pages stand behind a position. -/
def pageOf (n i : ℕ) : ℕ := (n - 1 - i) / limit

/-- An entry of a page that is read later, the pages taken by position, is strictly earlier. -/
def PagesInOrder (l : List α) : Prop :=
  ∀ (i : ℕ) (_ : i < l.length) (j : ℕ) (_ : j < l.length), pageOf limit l.length j < pageOf limit l.length i →
    time l[i] < time l[j]

instance (l : List α) : Decidable (PagesInOrder time limit l) :=
  inferInstanceAs (Decidable (∀ (i : ℕ) (_ : i < l.length) (j : ℕ) (_ : j < l.length),
    pageOf limit l.length j < pageOf limit l.length i → time l[i] < time l[j]))

variable {limit}

theorem pageOf_last (hlimit : 0 < limit) {n i : ℕ} (h : n - limit ≤ i) : pageOf limit n i = 0 := by
  unfold pageOf
  rw [Nat.div_eq_zero_iff_lt hlimit]
  omega

theorem pageOf_front (hlimit : 0 < limit) {n i : ℕ} (h : i < n - limit) :
    pageOf limit n i = pageOf limit (n - limit) i + 1 := by
  unfold pageOf
  rw [← Nat.add_div_right _ hlimit]
  congr 1
  omega

theorem pagesInOrder_step (hlimit : 0 < limit) (l : List α) :
    PagesInOrder time limit l ↔
      (∀ a ∈ l.rdrop limit, ∀ b ∈ l.rtake limit, time a < time b) ∧ PagesInOrder time limit (l.rdrop limit) := by
  have hlength : (l.rdrop limit).length = l.length - limit := by simp [List.rdrop]
  constructor
  · intro h
    refine ⟨fun a ha b hb => ?_, fun i hi j hj hij => ?_⟩
    · obtain ⟨i, hi, rfl⟩ := List.mem_iff_getElem.1 ha
      obtain ⟨j, hj, rfl⟩ := List.mem_iff_getElem.1 hb
      rw [hlength] at hi
      simp only [List.rtake, List.length_drop] at hj
      have hlt := h i (by omega) (l.length - limit + j) (by omega) (by
        rw [pageOf_front hlimit hi, pageOf_last hlimit (Nat.le_add_right _ j)]
        omega)
      simpa [List.rdrop, List.rtake] using hlt
    · rw [hlength] at hi hj hij
      have hlt := h i (by omega) j (by omega) (by
        rw [pageOf_front hlimit hi, pageOf_front hlimit hj]
        omega)
      simpa [List.rdrop] using hlt
  · rintro ⟨hlast, hfront⟩ i hil j hjl hij
    have hi : i < l.length - limit := by
      by_contra hi
      have hlast := pageOf_last hlimit (Nat.le_of_not_lt hi)
      omega
    by_cases hj : j < l.length - limit
    · rw [pageOf_front hlimit hi, pageOf_front hlimit hj] at hij
      have hlt := hfront i (by omega) j (by omega) (by rw [hlength]; omega)
      simpa [List.rdrop] using hlt
    · refine hlast _ ?_ _ ?_
      · exact List.mem_take_iff_getElem.2 ⟨i, by omega, rfl⟩
      · exact List.mem_drop_iff_getElem.2 ⟨j - (l.length - limit), by omega, by congr 1; omega⟩

/-- Pages of at least one entry make up the list exactly when the pages by position are in order. -/
theorem flatten_pages_perm_iff (hlimit : 0 < limit) (l : List α) :
    (pages time limit l).flatten.Perm l ↔ PagesInOrder time limit l := by
  induction hn : l.length using Nat.strong_induction_on generalizing l with
  | _ n ih =>
    cases hmin : ((l.rtake limit).map time).min? with
    | none =>
      have hnil : l = [] := by
        have := (min?_map_eq_none time).1 hmin
        rw [List.rtake, List.drop_eq_nil_iff] at this
        exact List.length_eq_zero_iff.1 (by omega)
      subst hnil
      rw [pages_of_none time limit hmin]
      exact iff_of_true (List.Perm.refl _) (by simp [PagesInOrder])
    | some t =>
      obtain ⟨⟨x, hx, rfl⟩, hle⟩ := min?_map_eq_some time hmin
      have hpos := List.length_pos_of_mem (mem_of_mem_rtake limit hx)
      have hshort : (l.rdrop limit).length < n := by
        simp only [List.rdrop, List.length_take]
        omega
      rw [flatten_pages_perm_step time limit hmin, pagesInOrder_step time hlimit, ih _ hshort _ rfl]
      refine and_congr_left fun _ => forall₂_congr fun a _ => ?_
      exact ⟨fun h b hb => h.trans_le (hle b hb), fun h => h x hx⟩

end NodeX.Lib
